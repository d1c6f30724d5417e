import ResourceTables.Eval.Evaluate
import ResourceTables.Proofs.Values
import Mathlib.Tactic.ByContra
import Mathlib.Tactic.Cases

/-!
# Choices of known values

An operand whose value is unknown stands for the known values of its kind. This module says which
these are and what becomes of them when an operator reads them as truth values, numbers or texts:

* `Value.MayBe v w`: `w` is a known value that the operand `v` may be;
* `Eval.Rejected x`: the evaluation finds an invalid expression. A number beyond what a number can
  be is no invalid expression, and the evaluation stops there with no result of either sort;
* `Value.alwaysRejected_toBool_iff`, `Value.alwaysRejected_toNumber_iff`: an operand that every
  choice of is rejected is rejected itself, unless it is unknown and of an `Unreadable` kind.
-/

namespace ResourceTables

/-- The evaluation finds an invalid expression. -/
def Eval.Rejected (x : Eval α) : Prop :=
  ∃ o cause, x = .error (.invalid o cause)

namespace Eval

variable {x : Eval α} {f : α → Eval β}

@[simp]
theorem rejected_invalid (o : Origin) (cause : EvalCause) :
    Rejected (.error (.invalid o cause) : Eval α) :=
  ⟨o, cause, rfl⟩

@[simp]
theorem not_rejected_ok (a : α) : ¬Rejected (.ok a) := by
  rintro ⟨o, cause, h⟩
  cases h

@[simp]
theorem not_rejected_beyondLimits : ¬Rejected (.error .beyondLimits : Eval α) := by
  rintro ⟨o, cause, h⟩
  cases h

@[simp]
theorem ok_bind (a : α) (f : α → Eval β) : (.ok a >>= f) = f a := rfl

@[simp]
theorem error_bind (err : EvalError) (f : α → Eval β) : (.error err >>= f) = .error err := rfl

theorem Rejected.bind (h : Rejected x) (f : α → Eval β) : Rejected (x >>= f) := by
  obtain ⟨o, cause, rfl⟩ := h
  exact ⟨o, cause, rfl⟩

/-- An evaluation has a result, is rejected or stops at a number beyond all limits. -/
theorem ok_or_rejected_or_beyondLimits (x : Eval α) :
    (∃ a, x = .ok a) ∨ Rejected x ∨ x = .error .beyondLimits := by
  cases x with
  | ok a => exact .inl ⟨a, rfl⟩
  | error err =>
    cases err with
    | invalid o cause => exact .inr (.inl ⟨o, cause, rfl⟩)
    | beyondLimits => exact .inr (.inr rfl)

end Eval

namespace ValueKind

/-- Whether values of the kind can be read as truth values. -/
def readsAsBool : ValueKind → Bool
  | string | bool | dynamic => true
  | number | tuple | object => false

/-- Whether values of the kind can be read as numbers. -/
def readsAsNumber : ValueKind → Bool
  | string | number | dynamic => true
  | bool | tuple | object => false

/-- Whether values of the kind can be read as texts. -/
def readsAsText : ValueKind → Bool
  | string | number | bool | dynamic => true
  | tuple | object => false

/-- Whether values of the kind can have attributes. -/
def hasAttributes : ValueKind → Bool
  | object | dynamic => true
  | string | number | bool | tuple => false

/-- The text is one that a value of the kind can be read as. -/
def Spells (k : ValueKind) (text : String) : Prop :=
  match k with
  | string | dynamic => True
  | number => ∃ d : Decimal, d.text = text
  | bool => ∃ b, Value.boolText b = text
  | tuple | object => False

end ValueKind

namespace Value

variable {v w : Value} {k : ValueKind}

/-! ## The choices of an operand -/

/-- The known values that an operand may be: a known operand is what it is, and an unknown one any
known value of its kind. -/
def MayBe : Value → Value → Prop
  | unknown k, w => w.isKnown ∧ (k = .dynamic ∨ w.kind = k)
  | v, w => w = v

theorem mayBe_unknown : (unknown k).MayBe w ↔ w.isKnown ∧ (k = .dynamic ∨ w.kind = k) := by
  rw [MayBe]

theorem mayBe_of_isKnown (hv : v.isKnown) : v.MayBe w ↔ w = v := by
  cases v with
  | unknown k => cases hv
  | _ => rw [MayBe]; simp

theorem mayBe_of_kind (hw : w.isKnown) (h : w.kind = k) : (unknown k).MayBe w :=
  mayBe_unknown.2 ⟨hw, .inr h⟩

theorem mayBe_dynamic (hw : w.isKnown) : (unknown .dynamic).MayBe w :=
  mayBe_unknown.2 ⟨hw, .inl rfl⟩

/-- Every operand has a choice. -/
theorem exists_mayBe (v : Value) : ∃ w, v.MayBe w := by
  cases hv : v.isKnown with
  | true => exact ⟨v, (mayBe_of_isKnown hv).2 rfl⟩
  | false =>
    obtain ⟨k, rfl⟩ := exists_eq_unknown hv
    exact ⟨null k, mayBe_of_kind rfl rfl⟩

/-- The operand is unknown, and of a kind that is never read in the way that is asked for. -/
def Unreadable (reads : ValueKind → Bool) (v : Value) : Prop :=
  v.isKnown = false ∧ reads v.kind = false

/-- A choice of an operand of a kind other than the dynamic one is of this kind. -/
theorem kind_of_mayBe (h : v.MayBe w) (hk : v.kind ≠ .dynamic) : w.kind = v.kind := by
  cases hv : v.isKnown with
  | true => rw [(mayBe_of_isKnown hv).1 h]
  | false =>
    obtain ⟨k, rfl⟩ := exists_eq_unknown hv
    exact (mayBe_unknown.1 h).2.resolve_left hk

/-- Every choice is known. -/
theorem isKnown_of_mayBe (h : v.MayBe w) : w.isKnown := by
  cases hv : v.isKnown with
  | true => rwa [(mayBe_of_isKnown hv).1 h]
  | false =>
    obtain ⟨k, rfl⟩ := exists_eq_unknown hv
    exact (mayBe_unknown.1 h).1

/-! ## Reading truth values -/

/-- No value of a kind that is not read as truth values is one. -/
theorem rejected_toBool (hk : k.readsAsBool = false) (h : (unknown k).MayBe w) (o : Origin)
    (role : Role) : Eval.Rejected (w.toBool o role) := by
  have hkind := kind_of_mayBe h (by rintro rfl; cases hk)
  cases w with
  | unknown l => cases (mayBe_unknown.1 h).1
  | string t =>
    subst hkind
    cases hk
  | bool b =>
    subst hkind
    cases hk
  | null l => exact ⟨o, _, rfl⟩
  | number d => exact ⟨o, _, rfl⟩
  | tuple items => exact ⟨o, _, rfl⟩
  | object fields => exact ⟨o, _, rfl⟩

/-- Of any other kind there is a truth value. -/
theorem exists_toBool (hk : k.readsAsBool) :
    ∃ w, (unknown k).MayBe w ∧ ∀ o role, w.toBool o role = .ok (some true) := by
  cases k with
  | string => exact ⟨string "true", mayBe_of_kind rfl rfl, fun _ _ => rfl⟩
  | bool => exact ⟨bool true, mayBe_of_kind rfl rfl, fun _ _ => rfl⟩
  | dynamic => exact ⟨bool true, mayBe_dynamic rfl, fun _ _ => rfl⟩
  | number => cases hk
  | tuple => cases hk
  | object => cases hk

/-- A value is read as a truth value or rejected as one. -/
theorem toBool_ok_or_rejected (v : Value) (o : Origin) (role : Role) :
    (∃ b, v.toBool o role = .ok b) ∨ Eval.Rejected (v.toBool o role) := by
  unfold toBool
  split <;> first | exact .inl ⟨_, rfl⟩ | exact .inr ⟨_, _, rfl⟩

/-- Every choice of an operand is rejected as a truth value exactly if the operand is, or is unknown
and of a kind that has none. -/
theorem alwaysRejected_toBool_iff (v : Value) (o : Origin) (role : Role) :
    (∀ w, v.MayBe w → Eval.Rejected (w.toBool o role)) ↔
      Eval.Rejected (v.toBool o role) ∨ v.Unreadable ValueKind.readsAsBool := by
  cases hv : v.isKnown with
  | true => simp [mayBe_of_isKnown hv, Unreadable, hv]
  | false =>
    obtain ⟨k, rfl⟩ := exists_eq_unknown hv
    constructor
    · intro h
      refine .inr ⟨rfl, ?_⟩
      by_contra hk
      rw [Bool.not_eq_false] at hk
      obtain ⟨w, hw, hok⟩ := exists_toBool hk
      exact Eval.not_rejected_ok _ (hok o role ▸ h w hw)
    · rintro (h | ⟨-, hk⟩)
      · exact absurd h (Eval.not_rejected_ok none)
      · exact fun w hw => rejected_toBool hk hw o role

/-! ## Reading numbers -/

/-- The number that a known value is read as. -/
def asNumber? (v : Value) : Option Decimal :=
  match v with
  | number d => some d
  | string text => (Decimal.ofText? text).filter Decimal.withinLimits
  | _ => none

/-- The operand may be a text that writes a number beyond all limits. -/
def MayExceedLimits : Value → Prop
  | unknown k => k = .string ∨ k = .dynamic
  | string text => ∃ d, Decimal.ofText? text = some d ∧ d.withinLimits = false
  | _ => False

theorem toNumber_eq_some_iff {d : Decimal} (o : Origin) (role : Role) :
    v.toNumber o role = .ok (some d) ↔ v.asNumber? = some d := by
  cases v with
  | string text =>
    simp only [toNumber, asNumber?]
    cases h : Decimal.ofText? text with
    | none => simp
    | some e => by_cases he : e.withinLimits <;> simp [he, Option.filter]
  | _ => simp [toNumber, asNumber?]

theorem toNumber_beyondLimits_iff (hv : v.isKnown) (o : Origin) (role : Role) :
    v.toNumber o role = .error .beyondLimits ↔ v.MayExceedLimits := by
  cases v with
  | unknown k => cases hv
  | string text =>
    simp only [toNumber, MayExceedLimits]
    cases h : Decimal.ofText? text with
    | none => simp
    | some e => by_cases he : e.withinLimits <;> simp [he]
  | _ => simp [toNumber, MayExceedLimits]

/-- No value of a kind that is not read as numbers is one. -/
theorem rejected_toNumber (hk : k.readsAsNumber = false) (h : (unknown k).MayBe w) (o : Origin)
    (role : Role) : Eval.Rejected (w.toNumber o role) := by
  have hkind := kind_of_mayBe h (by rintro rfl; cases hk)
  cases w with
  | unknown l => cases (mayBe_unknown.1 h).1
  | string t =>
    subst hkind
    cases hk
  | number d =>
    subst hkind
    cases hk
  | null l => exact ⟨o, _, rfl⟩
  | bool b => exact ⟨o, _, rfl⟩
  | tuple items => exact ⟨o, _, rfl⟩
  | object fields => exact ⟨o, _, rfl⟩

/-- An operand that may exceed all limits has a choice that does. -/
theorem exists_beyondLimits (h : v.MayExceedLimits) :
    ∃ w, v.MayBe w ∧ ∀ o role, w.toNumber o role = .error .beyondLimits := by
  cases v with
  | unknown k =>
    -- The exponent is one digit longer than the limits allow.
    have hbeyond : ∀ o role,
        (string "1e9999999999999999999").toNumber o role = .error .beyondLimits := by
      intro o role
      rw [toNumber_beyondLimits_iff rfl]
      exact ⟨⟨false, 1, 9999999999999999999⟩, by decide +kernel, by decide +kernel⟩
    refine ⟨_, ?_, hbeyond⟩
    rcases h with rfl | rfl
    · exact mayBe_of_kind rfl rfl
    · exact mayBe_dynamic rfl
  | string text =>
    refine ⟨string text, (mayBe_of_isKnown rfl).2 rfl, fun o role => ?_⟩
    exact (toNumber_beyondLimits_iff rfl o role).2 h
  | null l => cases h
  | number d => cases h
  | bool b => cases h
  | tuple items => cases h
  | object fields => cases h

theorem isKnown_of_asNumber? {d : Decimal} (h : v.asNumber? = some d) : v.isKnown := by
  cases v with
  | unknown k => cases h
  | _ => rfl

/-- A choice that exceeds the limits is one of an operand that may exceed them. -/
theorem mayExceedLimits_of_mayBe (h : v.MayBe w) (hw : w.MayExceedLimits) (hknown : w.isKnown) :
    v.MayExceedLimits := by
  cases hv : v.isKnown with
  | true => rwa [← (mayBe_of_isKnown hv).1 h]
  | false =>
    obtain ⟨k, rfl⟩ := exists_eq_unknown hv
    obtain ⟨-, rfl | hk⟩ := mayBe_unknown.1 h
    · exact .inr rfl
    · cases w with
      | string text => exact .inl hk.symm
      | unknown l => cases hknown
      | _ => cases hw

/-- The operand may be read as the number. -/
def MayBeNumber (v : Value) (d : Decimal) : Prop :=
  ∃ w, v.MayBe w ∧ w.asNumber? = some d

theorem mayBeNumber_of_asNumber? {d : Decimal} (h : v.asNumber? = some d) : v.MayBeNumber d :=
  ⟨v, (mayBe_of_isKnown (isKnown_of_asNumber? h)).2 rfl, h⟩

theorem mayBeNumber_unknown_number (d : Decimal) : (unknown .number).MayBeNumber d :=
  ⟨number d, mayBe_of_kind rfl rfl, rfl⟩

/-- A choice of an operand that cannot exceed the limits is read as a number or rejected. -/
theorem toNumber_some_or_rejected (h : v.MayBe w) (hlimits : ¬v.MayExceedLimits) (o : Origin)
    (role : Role) :
    (∃ d, w.toNumber o role = .ok (some d)) ∨ Eval.Rejected (w.toNumber o role) := by
  have hw := isKnown_of_mayBe h
  rcases Eval.ok_or_rejected_or_beyondLimits (w.toNumber o role) with ⟨d, hd⟩ | hrejected | hbeyond
  · cases d with
    | some d => exact .inl ⟨d, hd⟩
    | none =>
      rw [toNumber_eq_none_iff, hw] at hd
      cases hd
  · exact .inr hrejected
  · rw [toNumber_beyondLimits_iff hw] at hbeyond
    exact absurd (mayExceedLimits_of_mayBe h hbeyond hw) hlimits

/-- No choice of an unreadable operand is a number. -/
theorem Unreadable.rejected_toNumber (h : v.Unreadable ValueKind.readsAsNumber) (hw : v.MayBe w)
    (o : Origin) (role : Role) : Eval.Rejected (w.toNumber o role) := by
  obtain ⟨k, rfl⟩ := exists_eq_unknown h.1
  exact Value.rejected_toNumber h.2 hw o role

/-- An operand that is not rejected as a number, nor may exceed the limits, is a number, unless
every choice of it is rejected. -/
theorem number_or_unknown_number {o : Origin} {role : Role}
    (hr : ¬Eval.Rejected (v.toNumber o role))
    (hreads : ¬v.Unreadable ValueKind.readsAsNumber) (hlimits : ¬v.MayExceedLimits) :
    (∃ d, v.asNumber? = some d) ∨ v = unknown .number := by
  cases hv : v.isKnown with
  | true =>
    have hself : v.MayBe v := (mayBe_of_isKnown hv).2 rfl
    rcases toNumber_some_or_rejected hself hlimits o role with ⟨d, hd⟩ | h
    · exact .inl ⟨d, (toNumber_eq_some_iff o role).1 hd⟩
    · exact absurd h hr
  | false =>
    obtain ⟨k, rfl⟩ := exists_eq_unknown hv
    -- Texts and values of any kind may exceed the limits, and all other kinds have no numbers.
    right
    cases k with
    | number => rfl
    | string => exact absurd (.inl rfl) hlimits
    | dynamic => exact absurd (.inr rfl) hlimits
    | bool => exact absurd ⟨rfl, rfl⟩ hreads
    | tuple => exact absurd ⟨rfl, rfl⟩ hreads
    | object => exact absurd ⟨rfl, rfl⟩ hreads

/-- Every choice of an operand is rejected as a number exactly if the operand is, or is unknown and
of a kind that has none. -/
theorem alwaysRejected_toNumber_iff (v : Value) (o : Origin) (role : Role) :
    (∀ w, v.MayBe w → Eval.Rejected (w.toNumber o role)) ↔
      Eval.Rejected (v.toNumber o role) ∨ v.Unreadable ValueKind.readsAsNumber := by
  cases hv : v.isKnown with
  | true => simp [mayBe_of_isKnown hv, Unreadable, hv]
  | false =>
    constructor
    · intro h
      by_contra hnot
      rw [not_or] at hnot
      -- A choice beyond the limits would not be rejected.
      have hlimits : ¬v.MayExceedLimits := by
        intro hlimits
        obtain ⟨w, hw, hbeyond⟩ := exists_beyondLimits hlimits
        exact Eval.not_rejected_beyondLimits (hbeyond o role ▸ h w hw)
      rcases number_or_unknown_number hnot.1 hnot.2 hlimits with ⟨d, hd⟩ | rfl
      · rw [isKnown_of_asNumber? hd] at hv
        cases hv
      · exact Eval.not_rejected_ok _ (h (number (.ofNat 0)) (mayBe_of_kind rfl rfl))
    · rintro (h | hreads) w hw
      · obtain ⟨k, rfl⟩ := exists_eq_unknown hv
        exact absurd h (Eval.not_rejected_ok none)
      · exact hreads.rejected_toNumber hw o role

/-! ## Reading texts -/

/-- No choice of an operand of a kind that is not read as texts is a text, or a number. -/
theorem rejected_of_readsAsText_eq_false (hk : v.kind.readsAsText = false) (h : v.MayBe w)
    (o : Origin) (role : Role) :
    Eval.Rejected (w.toText o role) ∧ Eval.Rejected (w.toNumber o role) := by
  have hkind := kind_of_mayBe h (by intro hdynamic; rw [hdynamic] at hk; cases hk)
  have hw := isKnown_of_mayBe h
  rw [← hkind] at hk
  cases w with
  | unknown l => cases hw
  | null l => exact ⟨⟨o, _, rfl⟩, ⟨o, _, rfl⟩⟩
  | tuple items => exact ⟨⟨o, _, rfl⟩, ⟨o, _, rfl⟩⟩
  | object fields => exact ⟨⟨o, _, rfl⟩, ⟨o, _, rfl⟩⟩
  | string t => cases hk
  | number d => cases hk
  | bool b => cases hk

/-- What a choice of an operand is read as is a text that its kind spells. -/
theorem spells_of_toText {t : String} {o : Origin} {role : Role} (h : (unknown k).MayBe w)
    (ht : w.toText o role = .ok (some t)) : k.Spells t := by
  obtain ⟨hw, hk⟩ := mayBe_unknown.1 h
  rcases hk with rfl | rfl
  · trivial
  · cases w with
    | unknown l => cases hw
    | string t => trivial
    | number d =>
      cases ht
      exact ⟨d, rfl⟩
    | bool b =>
      cases ht
      exact ⟨b, rfl⟩
    | null l => cases ht
    | tuple items => cases ht
    | object fields => cases ht

/-- A known value is read as a text or rejected as one. -/
theorem toText_some_or_rejected (hw : w.isKnown) (o : Origin) (role : Role) :
    (∃ t, w.toText o role = .ok (some t)) ∨ Eval.Rejected (w.toText o role) := by
  cases w with
  | unknown l => cases hw
  | string t => exact .inl ⟨t, rfl⟩
  | number d => exact .inl ⟨d.text, rfl⟩
  | bool b => exact .inl ⟨boolText b, rfl⟩
  | null l => exact .inr ⟨o, _, rfl⟩
  | tuple items => exact .inr ⟨o, _, rfl⟩
  | object fields => exact .inr ⟨o, _, rfl⟩

/-- Every text that a kind spells is what some value of it is read as. -/
theorem exists_toText {t : String} (h : k.Spells t) :
    ∃ w, (unknown k).MayBe w ∧ ∀ o role, w.toText o role = .ok (some t) := by
  cases k with
  | string => exact ⟨string t, mayBe_of_kind rfl rfl, fun _ _ => rfl⟩
  | dynamic => exact ⟨string t, mayBe_dynamic rfl, fun _ _ => rfl⟩
  | number =>
    obtain ⟨d, rfl⟩ := h
    exact ⟨number d, mayBe_of_kind rfl rfl, fun _ _ => rfl⟩
  | bool =>
    obtain ⟨b, rfl⟩ := h
    exact ⟨bool b, mayBe_of_kind rfl rfl, fun _ _ => rfl⟩
  | tuple => cases h
  | object => cases h

/-- Of an operand of a kind that is read as texts, some choice is one. -/
theorem exists_mayBe_toText (hk : v.kind.readsAsText) (hnull : v.isNull = false) :
    ∃ w t, v.MayBe w ∧ ∀ o role, w.toText o role = .ok (some t) := by
  cases hv : v.isKnown with
  | true =>
    have hself : v.MayBe v := (mayBe_of_isKnown hv).2 rfl
    cases v with
    | unknown k => cases hv
    | null k => cases hnull
    | string t => exact ⟨_, t, hself, fun _ _ => rfl⟩
    | number d => exact ⟨_, d.text, hself, fun _ _ => rfl⟩
    | bool b => exact ⟨_, boolText b, hself, fun _ _ => rfl⟩
    | tuple items => cases hk
    | object fields => cases hk
  | false =>
    obtain ⟨k, rfl⟩ := exists_eq_unknown hv
    -- Of each kind that is read as texts there is one to choose.
    obtain ⟨t, ht⟩ : ∃ t, k.Spells t := by
      cases k with
      | string => exact ⟨"", trivial⟩
      | dynamic => exact ⟨"", trivial⟩
      | number => exact ⟨_, default, rfl⟩
      | bool => exact ⟨_, true, rfl⟩
      | tuple => cases hk
      | object => cases hk
    obtain ⟨w, hw⟩ := exists_toText ht
    exact ⟨w, t, hw⟩

end Value

end ResourceTables
