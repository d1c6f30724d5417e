import ResourceTables.Proofs.Operators.Choices

/-!
# Attributes and elements

Which unknown targets and keys are rejected whatever they turn out to be:

* `Value.alwaysRejected_getAttr_iff`: a target of a kind without attributes;
* `Value.alwaysRejected_index_iff`: a target and a key that `Value.NoElement` holds of, target by
  target.
-/

namespace ResourceTables.Value

variable {v w key : Value} {k : ValueKind} {items : List Value} {fields : List (String × Value)}
  (o : Origin)

/-! ## Attributes -/

/-- No choice of an unknown value has an attribute exactly if none of its kind has one. -/
theorem alwaysRejected_getAttr_iff (hv : v.isKnown = false) (name : String) :
    (∀ w, v.MayBe w → Eval.Rejected (w.getAttr name o)) ↔ v.kind.hasAttributes = false := by
  obtain ⟨k, rfl⟩ := exists_eq_unknown hv
  constructor
  · intro h
    by_contra hk
    rw [Bool.not_eq_false] at hk
    -- The object whose one field has the name is a choice that is accepted.
    have hfield : (object [(name, null .dynamic)]).getAttr name o = .ok (null .dynamic) := by
      simp [getAttr, Fields.get?]
    have hmay : (unknown k).MayBe (object [(name, null .dynamic)]) := by
      cases k with
      | object => exact mayBe_of_kind rfl rfl
      | dynamic => exact mayBe_dynamic rfl
      | _ => cases hk
    exact Eval.not_rejected_ok _ (hfield ▸ h _ hmay)
  · intro hk w hw
    have hkind := kind_of_mayBe hw (by rintro rfl; cases hk)
    cases w with
    | unknown l => cases (mayBe_unknown.1 hw).1
    | object fields =>
      subst hkind
      cases hk
    | _ => exact ⟨o, _, rfl⟩

/-! ## Elements -/

/-- No choice of the target has an element at a choice of the key. -/
def NoElement : Value → Value → Prop
  | tuple items, key =>
    key.Unreadable ValueKind.readsAsNumber ∨ key = unknown .number ∧ items = []
  | object fields, key => ∀ name, key.kind.Spells name → Fields.get? name fields = none
  | unknown .tuple, key =>
    key.Unreadable ValueKind.readsAsNumber ∨
      key.isKnown ∧ ¬key.MayExceedLimits ∧
        ∀ n, key.asNumber? = some n → ¬(n.isIntegral ∧ 0 ≤ n.toInt)
  | unknown .object, key | unknown .dynamic, key => key.kind.readsAsText = false
  | _, _ => True

/-- A known key of a tuple is rejected as a number, or the number is that of no element. -/
theorem rejected_index_tuple_iff (hk : key.isKnown) :
    Eval.Rejected ((tuple items).index key o) ↔
      Eval.Rejected (key.toNumber o .index) ∨
        ∃ n, key.toNumber o .index = .ok (some n) ∧ Eval.Rejected (elementAt items n o) := by
  cases hnull : key.isNull with
  | true =>
    obtain ⟨k, rfl⟩ := exists_eq_null hnull
    obtain ⟨cause, hcause⟩ := index_of_null_key (tuple items) hnull o
    rw [hcause]
    exact iff_of_true ⟨o, cause, rfl⟩ (.inl ⟨o, _, rfl⟩)
  | false =>
    -- With a key that is not null, the number decides.
    rw [index_tuple hk hnull]
    rcases Eval.ok_or_rejected_or_beyondLimits (key.toNumber o .index) with ⟨n, hn⟩ | h | h
    · cases n with
      | some n => simp [hn]
      | none =>
        rw [toNumber_eq_none_iff, hk] at hn
        cases hn
    · simp [h, h.bind]
    · simp [h]

/-- A known key of an object is rejected as a text, or the text is the name of no field. -/
theorem rejected_index_object_iff (hk : key.isKnown) :
    Eval.Rejected ((object fields).index key o) ↔
      Eval.Rejected (key.toText o .index) ∨
        ∃ t, key.toText o .index = .ok (some t) ∧ Fields.get? t fields = none := by
  cases hnull : key.isNull with
  | true =>
    obtain ⟨k, rfl⟩ := exists_eq_null hnull
    obtain ⟨cause, hcause⟩ := index_of_null_key (object fields) hnull o
    rw [hcause]
    exact iff_of_true ⟨o, cause, rfl⟩ (.inl ⟨o, _, rfl⟩)
  | false =>
    rw [index_object hk hnull]
    rcases Eval.ok_or_rejected_or_beyondLimits (key.toText o .index) with ⟨t, ht⟩ | h | h
    · cases t with
      | some t => cases hget : Fields.get? t fields <;> simp [ht, hget]
      | none =>
        cases key with
        | unknown => cases hk
        | _ => cases ht
    · simp [h, h.bind]
    · simp [h]

/-- Nothing but tuples and objects has elements. -/
theorem rejected_index_of_kind (hv : v.isKnown) (hk : key.isKnown) (htuple : v.kind ≠ .tuple)
    (hobject : v.kind ≠ .object) : Eval.Rejected (v.index key o) := by
  cases hnull : v.isNull with
  | true => exact ⟨o, _, index_of_null hnull key o⟩
  | false =>
    cases hknull : key.isNull with
    | true =>
      obtain ⟨cause, hcause⟩ := index_of_null_key v hknull o
      exact ⟨o, cause, hcause⟩
    | false => exact ⟨o, _, index_of_kind hv hnull hk hknull htuple hobject o⟩

/-- A number that is a natural one is the place of an element in some tuple. -/
theorem exists_elementAt {n : Decimal} (hn : n.isIntegral ∧ 0 ≤ n.toInt) :
    ∃ items w, elementAt items n o = .ok w := by
  refine ⟨List.replicate (n.toInt.toNat + 1) (null .dynamic), null .dynamic, ?_⟩
  simp [elementAt, hn]

theorem rejected_elementAt {n : Decimal} (hn : ¬(n.isIntegral ∧ 0 ≤ n.toInt)) :
    Eval.Rejected (elementAt items n o) := by
  rw [elementAt, if_neg (by simpa using hn)]
  exact Eval.rejected_invalid _ _

/-- A key that may be read as the place of an element is not always rejected. -/
theorem not_rejected_index_tuple {n : Decimal} {w : Value} (hk : key.isKnown)
    (hn : key.asNumber? = some n) (hw : elementAt items n o = .ok w) :
    ¬Eval.Rejected ((tuple items).index key o) := by
  rw [rejected_index_tuple_iff o hk, (toNumber_eq_some_iff o .index).2 hn]
  simp [hw]

/-- A key that may exceed all limits is not always rejected. -/
theorem exists_not_rejected_index_tuple (h : key.MayExceedLimits) (items : List Value) :
    ∃ key', key.MayBe key' ∧ ¬Eval.Rejected ((tuple items).index key' o) := by
  obtain ⟨key', hmay, hbeyond⟩ := exists_beyondLimits h
  refine ⟨key', hmay, ?_⟩
  rw [rejected_index_tuple_iff o (isKnown_of_mayBe hmay), hbeyond]
  simp

/-- The unknown keys of a tuple that are always rejected are those that are no numbers, and in the
empty tuple all numbers. -/
theorem alwaysRejected_index_tuple_iff (hkey : key.isKnown = false) :
    (∀ key', key.MayBe key' → Eval.Rejected ((tuple items).index key' o)) ↔
      key.Unreadable ValueKind.readsAsNumber ∨ key = unknown .number ∧ items = [] := by
  obtain ⟨k, rfl⟩ := exists_eq_unknown hkey
  constructor
  · intro h
    by_contra hnot
    rw [not_or, not_and] at hnot
    obtain ⟨hreads, hempty⟩ := hnot
    have hlimits : ¬(unknown k).MayExceedLimits := by
      intro hlimits
      obtain ⟨key', hmay, hrejected⟩ := exists_not_rejected_index_tuple o hlimits items
      exact hrejected (h key' hmay)
    have hr : ¬Eval.Rejected ((unknown k).toNumber o .index) := Eval.not_rejected_ok none
    rcases number_or_unknown_number hr hreads hlimits with ⟨d, hd⟩ | hk
    · cases hd
    · -- The first element, if there is one, stands at zero.
      rw [hk] at h
      match items with
      | [] => exact hempty hk rfl
      | item :: rest =>
        have hzero : elementAt (item :: rest) (.ofNat 0) o = .ok item := rfl
        exact not_rejected_index_tuple o rfl rfl hzero (h (number (.ofNat 0))
          (mayBe_of_kind rfl rfl))
  · rintro (hreads | ⟨hk, rfl⟩) key' hmay
    · rw [rejected_index_tuple_iff o (isKnown_of_mayBe hmay)]
      exact .inl (hreads.rejected_toNumber hmay o .index)
    · rw [rejected_index_tuple_iff o (isKnown_of_mayBe hmay)]
      have hlimits : ¬(unknown k).MayExceedLimits := by
        cases hk
        rintro (h | h) <;> cases h
      rcases toNumber_some_or_rejected hmay hlimits o .index with ⟨n, hn⟩ | h
      · refine .inr ⟨n, hn, ?_⟩
        unfold elementAt
        split <;> exact Eval.rejected_invalid _ _
      · exact .inl h

/-- The keys that are always rejected in a tuple of which nothing is known. -/
theorem alwaysRejected_index_unknown_tuple_iff :
    (∀ v' key', (unknown .tuple).MayBe v' → key.MayBe key' → Eval.Rejected (v'.index key' o)) ↔
      key.Unreadable ValueKind.readsAsNumber ∨
        key.isKnown ∧ ¬key.MayExceedLimits ∧
          ∀ n, key.asNumber? = some n → ¬(n.isIntegral ∧ 0 ≤ n.toInt) := by
  have htuple : ∀ items, (unknown .tuple).MayBe (tuple items) := fun _ => mayBe_of_kind rfl rfl
  constructor
  · intro h
    have hlimits : ¬key.MayExceedLimits := by
      intro hlimits
      obtain ⟨key', hmay, hrejected⟩ := exists_not_rejected_index_tuple o hlimits []
      exact hrejected (h _ key' (htuple []) hmay)
    -- No choice of the key is a natural number, for that is the place of an element.
    have hno : ∀ n, key.MayBeNumber n → ¬(n.isIntegral ∧ 0 ≤ n.toInt) := by
      rintro n ⟨key', hmay, hn⟩ hnatural
      obtain ⟨items, w, hw⟩ := exists_elementAt o hnatural
      exact not_rejected_index_tuple o (isKnown_of_mayBe hmay) hn hw
        (h _ key' (htuple items) hmay)
    cases hk : key.isKnown with
    | true => exact .inr ⟨rfl, hlimits, fun n hn => hno n (mayBeNumber_of_asNumber? hn)⟩
    | false =>
      -- An unknown key that is read as numbers may be zero.
      left
      by_contra hreads
      obtain ⟨k, rfl⟩ := exists_eq_unknown hk
      have hr : ¬Eval.Rejected ((unknown k).toNumber o .index) := Eval.not_rejected_ok none
      rcases number_or_unknown_number hr hreads hlimits with ⟨d, hd⟩ | hnumber
      · cases hd
      · exact hno (.ofNat 0) (hnumber ▸ mayBeNumber_unknown_number _) (by decide)
  · intro h v' key' hv' hmay
    have hkey' := isKnown_of_mayBe hmay
    have hkind : v'.kind = .tuple := kind_of_mayBe hv' (by decide)
    cases v' with
    | unknown l => cases isKnown_of_mayBe hv'
    | null l => exact ⟨o, _, index_of_null rfl key' o⟩
    | tuple items =>
      rw [rejected_index_tuple_iff o hkey']
      rcases h with hreads | ⟨hk, hlimits, hnatural⟩
      · exact .inl (hreads.rejected_toNumber hmay o .index)
      · rcases toNumber_some_or_rejected hmay hlimits o .index with ⟨n, hn⟩ | h
        · rw [(mayBe_of_isKnown hk).1 hmay] at hn ⊢
          exact .inr ⟨n, hn, rejected_elementAt o
            (hnatural n ((toNumber_eq_some_iff o .index).1 hn))⟩
        · exact .inl h
    | _ => cases hkind

/-- The unknown keys of an object that are always rejected are those that spell the name of no
field. -/
theorem alwaysRejected_index_object_iff (hkey : key.isKnown = false) :
    (∀ key', key.MayBe key' → Eval.Rejected ((object fields).index key' o)) ↔
      ∀ name, key.kind.Spells name → Fields.get? name fields = none := by
  obtain ⟨k, rfl⟩ := exists_eq_unknown hkey
  constructor
  · intro h name hname
    obtain ⟨key', hmay, htext⟩ := exists_toText hname
    have hrejected := h key' hmay
    rw [rejected_index_object_iff o (isKnown_of_mayBe hmay), htext] at hrejected
    simpa using hrejected
  · intro h key' hmay
    rw [rejected_index_object_iff o (isKnown_of_mayBe hmay)]
    rcases toText_some_or_rejected (isKnown_of_mayBe hmay) o .index with ⟨t, ht⟩ | hrejected
    · exact .inr ⟨t, ht, h t (spells_of_toText hmay ht)⟩
    · exact .inl hrejected

/-- A key that may be read as a text is the name of a field in some object. -/
theorem exists_not_rejected_index_object (hk : key.kind.readsAsText) (hnull : key.isNull = false) :
    ∃ fields key', key.MayBe key' ∧ ¬Eval.Rejected ((object fields).index key' o) := by
  obtain ⟨key', t, hmay, htext⟩ := exists_mayBe_toText hk hnull
  refine ⟨[(t, null .dynamic)], key', hmay, ?_⟩
  rw [rejected_index_object_iff o (isKnown_of_mayBe hmay), htext]
  simp [Fields.get?]

/-- The keys that are always rejected in an object of which nothing is known, or in anything at
all, are those that are no texts. -/
theorem alwaysRejected_index_unknown_iff (hk : k = .object ∨ k = .dynamic)
    (hnull : key.isNull = false) :
    (∀ v' key', (unknown k).MayBe v' → key.MayBe key' → Eval.Rejected (v'.index key' o)) ↔
      key.kind.readsAsText = false := by
  constructor
  · intro h
    by_contra htext
    rw [Bool.not_eq_false] at htext
    obtain ⟨fields, key', hmay, hrejected⟩ := exists_not_rejected_index_object o htext hnull
    -- An object with the key as its field is one of the choices.
    refine hrejected (h (object fields) key' ?_ hmay)
    rcases hk with rfl | rfl
    · exact mayBe_of_kind rfl rfl
    · exact mayBe_dynamic rfl
  · intro htext v' key' hv' hmay
    have hkey' := isKnown_of_mayBe hmay
    have hv'_known := isKnown_of_mayBe hv'
    have hrejected := rejected_of_readsAsText_eq_false htext hmay o .index
    cases v' with
    | tuple items =>
      rw [rejected_index_tuple_iff o hkey']
      exact .inl hrejected.2
    | object fields =>
      rw [rejected_index_object_iff o hkey']
      exact .inl hrejected.1
    | unknown l => cases hv'_known
    | null l => exact ⟨o, _, index_of_null rfl key' o⟩
    | string t => exact rejected_index_of_kind o rfl hkey' (by simp [kind]) (by simp [kind])
    | number d => exact rejected_index_of_kind o rfl hkey' (by simp [kind]) (by simp [kind])
    | bool b => exact rejected_index_of_kind o rfl hkey' (by simp [kind]) (by simp [kind])

/-- Choices of what is neither a tuple nor an object have no elements. -/
theorem alwaysRejected_index_of_kind (hdynamic : v.kind ≠ .dynamic) (htuple : v.kind ≠ .tuple)
    (hobject : v.kind ≠ .object) (hv' : v.MayBe w) (hkey' : key.MayBe key') :
    Eval.Rejected (w.index key' o) := by
  have hkind := kind_of_mayBe hv' hdynamic
  exact rejected_index_of_kind o (isKnown_of_mayBe hv') (isKnown_of_mayBe hkey')
    (hkind ▸ htuple) (hkind ▸ hobject)

/-- No choice of an element is accepted exactly if no choice of the target has one at a choice of
the key. -/
theorem alwaysRejected_index_iff (hr : ¬Eval.Rejected (v.index key o))
    (hunknown : v.isKnown = false ∨ key.isKnown = false) :
    (∀ v' key', v.MayBe v' → key.MayBe key' → Eval.Rejected (v'.index key' o)) ↔
      v.NoElement key := by
  have hnull : key.isNull = false := by
    by_contra hnull
    obtain ⟨cause, h⟩ := index_of_null_key v (Bool.not_eq_false _ ▸ hnull) o
    exact hr ⟨o, cause, h⟩
  -- A known target is its only choice.
  have hknown : ∀ {P : Value → Value → Prop}, v.isKnown →
      ((∀ v' key', v.MayBe v' → key.MayBe key' → P v' key') ↔
        ∀ key', key.MayBe key' → P v key') := by
    intro P hv
    refine ⟨fun h key' => h v key' ((mayBe_of_isKnown hv).2 rfl), fun h v' key' hv' => ?_⟩
    rw [(mayBe_of_isKnown hv).1 hv']
    exact h key'
  cases v with
  | null k => exact absurd ⟨o, _, index_of_null rfl key o⟩ hr
  | tuple items =>
    have hkey : key.isKnown = false := hunknown.resolve_left (by simp [isKnown])
    rw [hknown rfl]
    exact alwaysRejected_index_tuple_iff o hkey
  | object fields =>
    have hkey : key.isKnown = false := hunknown.resolve_left (by simp [isKnown])
    rw [hknown rfl]
    exact alwaysRejected_index_object_iff o hkey
  | string t =>
    exact iff_of_true (fun _ _ => alwaysRejected_index_of_kind o (by simp [kind]) (by simp [kind])
      (by simp [kind])) trivial
  | number d =>
    exact iff_of_true (fun _ _ => alwaysRejected_index_of_kind o (by simp [kind]) (by simp [kind])
      (by simp [kind])) trivial
  | bool b =>
    exact iff_of_true (fun _ _ => alwaysRejected_index_of_kind o (by simp [kind]) (by simp [kind])
      (by simp [kind])) trivial
  | unknown k =>
    cases k with
    | tuple => exact alwaysRejected_index_unknown_tuple_iff o
    | object => exact alwaysRejected_index_unknown_iff o (.inl rfl) hnull
    | dynamic => exact alwaysRejected_index_unknown_iff o (.inr rfl) hnull
    | _ =>
      exact iff_of_true (fun _ _ => alwaysRejected_index_of_kind o (by simp [kind])
        (by simp [kind]) (by simp [kind])) trivial

end ResourceTables.Value
