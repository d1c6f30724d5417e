import ResourceTables.Eval.Evaluate
import ResourceTables.Proofs.Ensures
import ResourceTables.Proofs.Values

/-!
# Operations on known values

A value is wholly known when nothing in it is unknown. The operations of the language bring no
unknown value in by themselves: where their operands are wholly known, so is what they give.

* `Value.ensures_index`, `Value.ensures_choose`, `BinaryOp.ensures_apply` and the like: one lemma
  for each operation;
* `Loop.ensures_texts`, `Loop.ensures_values`, `Loop.ensures_fields`: a loop gives something known
  when each of its rounds does.
-/

namespace ResourceTables

/-! ## Parts of a known value -/

namespace Fields

variable {fields : Fields α} {P : α → Prop}

theorem of_get? {name : String} {a : α} (h : ∀ f ∈ fields, P f.2) (ha : get? name fields = some a) :
    P a := by
  induction fields with
  | nil => cases ha
  | cons f fields ih =>
    rw [get?] at ha
    split at ha
    · cases ha
      exact h f (by simp)
    · exact ih (fun g hg => h g (by simp [hg])) ha

/-- Changing one field gives all fields a property that the change gives it and that the others have
already. -/
theorem forall_alter {Q : α → Prop} {f : Option α → α} (name : String)
    (h : ∀ g ∈ fields, Q g.2) (hkept : ∀ a, Q a → P a) (hnew : P (f none))
    (hold : ∀ a, Q a → P (f (some a))) : ∀ g ∈ alter f name fields, P g.2 := by
  induction fields with
  | nil =>
    intro g hg
    obtain rfl : g = (name, f none) := by simpa [alter] using hg
    exact hnew
  | cons p fields ih =>
    obtain ⟨k, v⟩ := p
    have hv : Q v := h (k, v) (by simp)
    have hrest : ∀ g ∈ fields, Q g.2 := fun g hg => h g (by simp [hg])
    intro g hg
    -- The name is that of the field, or it comes in front of it, or behind it.
    rw [alter] at hg
    split at hg
    · rcases List.mem_cons.1 hg with rfl | hmem
      · exact hold v hv
      · exact hkept g.2 (hrest g hmem)
    · split at hg
      · rcases List.mem_cons.1 hg with rfl | hmem
        · exact hnew
        · exact hkept g.2 (h g hmem)
      · rcases List.mem_cons.1 hg with rfl | hmem
        · exact hkept v hv
        · exact ih hrest g hmem

theorem forall_set (name : String) {a : α} (h : ∀ g ∈ fields, P g.2) (ha : P a) :
    ∀ g ∈ set name a fields, P g.2 :=
  forall_alter name h (fun _ h => h) ha fun _ _ => ha

end Fields

namespace Value

variable {v w key : Value}

@[simp]
theorem whollyKnown_tuple {items : List Value} :
    (tuple items).whollyKnown ↔ ∀ v ∈ items, v.whollyKnown := by
  rw [whollyKnown]
  induction items with
  | nil => simp [allWhollyKnown]
  | cons v items ih => simp [allWhollyKnown, ih]

@[simp]
theorem whollyKnown_object {fields : List (String × Value)} :
    (object fields).whollyKnown ↔ ∀ f ∈ fields, f.2.whollyKnown := by
  rw [whollyKnown]
  induction fields with
  | nil => simp [fieldsWhollyKnown]
  | cons f fields ih =>
    obtain ⟨k, v⟩ := f
    simp [fieldsWhollyKnown, ih]

/-! ## Conversions -/

theorem ensures_toText (h : v.isKnown) (o : Origin) (role : Role) :
    Ensures (·.isSome) (v.toText o role) := by
  cases v with
  | unknown k => cases h
  | string _ | number _ | bool _ => exact .ok rfl
  | null _ | tuple _ | object _ => exact .error

theorem ensures_toNumber (h : v.isKnown) (o : Origin) (role : Role) :
    Ensures (·.isSome) (v.toNumber o role) := by
  intro n hn
  cases n with
  | some n => rfl
  | none =>
    rw [(toNumber_eq_none_iff o role).1 hn] at h
    cases h

theorem ensures_toBool (h : v.isKnown) (o : Origin) (role : Role) :
    Ensures (·.isSome) (v.toBool o role) := by
  intro b hb
  unfold toBool at hb
  split at hb <;> cases hb
  · cases h
  all_goals rfl

/-! ## Traversals -/

theorem ensures_getAttr (h : v.whollyKnown) (name : String) (o : Origin) :
    Ensures (·.whollyKnown) (v.getAttr name o) := by
  cases v with
  | unknown k => cases h
  | object fields =>
    simp only [getAttr]
    cases hfield : Fields.get? name fields with
    | none => exact .error
    | some field =>
      exact .ok (Fields.of_get? (P := (·.whollyKnown)) (whollyKnown_object.1 h) hfield)
  | _ => exact .error

theorem ensures_elementAt {items : List Value} (h : ∀ v ∈ items, v.whollyKnown) (n : Decimal)
    (o : Origin) : Ensures (·.whollyKnown) (elementAt items n o) := by
  unfold elementAt
  split
  · split
    · next item hitem => exact .ok (h item (List.mem_of_getElem? hitem))
    · exact .error
  · exact .error

theorem ensures_index (hv : v.whollyKnown) (hkey : key.isKnown) (o : Origin) :
    Ensures (·.whollyKnown) (v.index key o) := by
  by_cases hnull : v.isNull
  · rw [index_of_null hnull]
    exact .error
  by_cases hkeyNull : key.isNull
  · obtain ⟨cause, hcause⟩ := index_of_null_key v hkeyNull o
    rw [hcause]
    exact .error
  rw [Bool.not_eq_true] at hnull hkeyNull
  -- From here on the value and the key are known and not null.
  cases v with
  | tuple items =>
    rw [index_tuple hkey hkeyNull]
    refine .bind (ensures_toNumber hkey o .index) fun n hn => ?_
    obtain ⟨n, rfl⟩ := Option.isSome_iff_exists.1 hn
    exact ensures_elementAt (whollyKnown_tuple.1 hv) n o
  | object fields =>
    rw [index_object hkey hkeyNull]
    refine .bind (ensures_toText hkey o .index) fun name hname => ?_
    obtain ⟨name, rfl⟩ := Option.isSome_iff_exists.1 hname
    rw [Option.elim_some]
    cases hfield : Fields.get? name fields with
    | none => exact .error
    | some field =>
      exact .ok (Fields.of_get? (P := (·.whollyKnown)) (whollyKnown_object.1 hv) hfield)
  | unknown k => cases hv
  | null k => cases hnull
  | string _ | number _ | bool _ =>
    rw [index_of_kind rfl rfl hkey hkeyNull (by simp [kind]) (by simp [kind])]
    exact .error

/-- The keys and elements of a known collection. -/
def KnownItems (items : Option (List (Value × Value))) : Prop :=
  ∃ pairs, items = some pairs ∧ ∀ p ∈ pairs, p.1.whollyKnown ∧ p.2.whollyKnown

theorem ensures_elements (h : v.whollyKnown) (o : Origin) :
    Ensures KnownItems (v.elements o) := by
  cases v with
  | unknown k => cases h
  | tuple items =>
    refine .ok ⟨_, rfl, fun p hp => ?_⟩
    obtain ⟨⟨item, i⟩, hitem, rfl⟩ := List.mem_map.1 hp
    exact ⟨rfl, whollyKnown_tuple.1 h item (List.fst_mem_of_mem_zipIdx hitem)⟩
  | object fields =>
    refine .ok ⟨_, rfl, fun p hp => ?_⟩
    obtain ⟨⟨k, w⟩, hfield, rfl⟩ := List.mem_map.1 hp
    exact ⟨rfl, whollyKnown_object.1 h (k, w) hfield⟩
  | _ => exact .error

theorem whollyKnown_of_mem_splatElements (h : v.whollyKnown) (hw : w ∈ v.splatElements) :
    w.whollyKnown := by
  cases v with
  | null k => cases hw
  | tuple items => exact whollyKnown_tuple.1 h w hw
  | _ =>
    obtain rfl : w = _ := by simpa [splatElements] using hw
    exact h

/-! ## Choices -/

theorem ensures_convertBranch (h : v.whollyKnown) (k : ValueKind) (o : Origin) :
    Ensures (·.whollyKnown) (convertBranch k v o) := by
  unfold convertBranch
  split
  · refine .bind (ensures_toText (isKnown_of_whollyKnown h) o .branch) fun text htext => ?_
    obtain ⟨text, rfl⟩ := Option.isSome_iff_exists.1 htext
    exact .ok rfl
  · exact .ok h

theorem ensures_choose {cond : Option Bool} (hcond : cond.isSome) (hv : v.whollyKnown)
    (hw : w.whollyKnown) (yesOrigin noOrigin o : Origin) :
    Ensures (·.whollyKnown) (choose cond v w yesOrigin noOrigin o) := by
  obtain ⟨b, rfl⟩ := Option.isSome_iff_exists.1 hcond
  unfold choose
  split
  · exact .error
  · cases b with
    | true => exact ensures_convertBranch hv _ yesOrigin
    | false => exact ensures_convertBranch hw _ noOrigin

end Value

/-! ## Operators -/

section Operators

variable {v w : Value}

theorem BinaryOp.whollyKnown_applyEquality (opposite : Bool) (hv : v.whollyKnown)
    (hw : w.whollyKnown) : (applyEquality opposite v w).whollyKnown := by
  simp [applyEquality, hv, hw, Value.whollyKnown]

theorem BinaryOp.ensures_applyLogic (op : BinaryOp) (hv : v.isKnown) (hw : w.isKnown)
    (leftOrigin rightOrigin : Origin) :
    Ensures (·.whollyKnown) (op.applyLogic v w leftOrigin rightOrigin) := by
  unfold applyLogic
  refine .bind (Value.ensures_toBool hv _ _) fun a ha => ?_
  refine .bind (Value.ensures_toBool hw _ _) fun b hb => ?_
  obtain ⟨a, rfl⟩ := Option.isSome_iff_exists.1 ha
  obtain ⟨b, rfl⟩ := Option.isSome_iff_exists.1 hb
  exact .ok rfl

theorem BinaryOp.ensures_applyNumbers (op : BinaryOp) (hv : v.isKnown) (hw : w.isKnown)
    (leftOrigin rightOrigin o : Origin) :
    Ensures (·.whollyKnown) (op.applyNumbers v w leftOrigin rightOrigin o) := by
  unfold applyNumbers
  refine .bind (Value.ensures_toNumber hv _ _) fun a ha => ?_
  refine .bind (Value.ensures_toNumber hw _ _) fun b hb => ?_
  obtain ⟨a, rfl⟩ := Option.isSome_iff_exists.1 ha
  obtain ⟨b, rfl⟩ := Option.isSome_iff_exists.1 hb
  cases op.comparison? with
  | some holds => exact .ok rfl
  | none =>
    dsimp only
    split
    · exact .error
    · split
      · exact .ok rfl
      · exact .error
      · exact .error

theorem BinaryOp.ensures_apply (op : BinaryOp) (hv : v.whollyKnown) (hw : w.whollyKnown)
    (leftOrigin rightOrigin o : Origin) :
    Ensures (·.whollyKnown) (op.apply v w leftOrigin rightOrigin o) := by
  have hv' := Value.isKnown_of_whollyKnown hv
  have hw' := Value.isKnown_of_whollyKnown hw
  cases op with
  | eq | ne => exact .ok (whollyKnown_applyEquality _ hv hw)
  | and | or => exact ensures_applyLogic _ hv' hw' _ _
  | _ => exact ensures_applyNumbers _ hv' hw' _ _ _

theorem UnaryOp.ensures_apply (op : UnaryOp) (h : v.isKnown) (o : Origin) :
    Ensures (·.whollyKnown) (op.apply v o) := by
  cases op with
  | not =>
    refine .bind (Value.ensures_toBool h o _) fun b hb => ?_
    obtain ⟨b, rfl⟩ := Option.isSome_iff_exists.1 hb
    exact .ok rfl
  | negate =>
    refine .bind (Value.ensures_toNumber h o _) fun d hd => ?_
    obtain ⟨d, rfl⟩ := Option.isSome_iff_exists.1 hd
    dsimp only
    split
    · exact .ok rfl
    · exact .error

theorem Literal.whollyKnown_value (l : Literal) : l.value.whollyKnown := by
  cases l <;> rfl

end Operators

/-! ## Loops -/

namespace Loop

variable {items : List (Value × Value)} {keep : Value × Value → Eval (Option Bool)}
  {value : Value × Value → Eval Value} {key : Value × Value → Eval (Option String)}

/-- Two texts one after the other are known when both are. -/
theorem isSome_append {a b : Option String} (ha : a.isSome) (hb : b.isSome) :
    (do return (← a) ++ (← b) : Option String).isSome := by
  obtain ⟨a, rfl⟩ := Option.isSome_iff_exists.1 ha
  obtain ⟨b, rfl⟩ := Option.isSome_iff_exists.1 hb
  rfl

theorem ensures_texts {render : Value × Value → Eval (Option String)}
    (h : ∀ p ∈ items, Ensures (·.isSome) (render p)) :
    Ensures (·.isSome) (texts render items) := by
  induction items with
  | nil => exact .ok rfl
  | cons p items ih =>
    refine .bind (h p (by simp)) fun a ha => ?_
    refine .bind (ih fun q hq => h q (by simp [hq])) fun b hb => ?_
    exact .ok (isSome_append ha hb)

/-- What a loop collects is known, and so is each of its values. -/
def KnownValues (vs : Option (List Value)) : Prop :=
  ∃ ws, vs = some ws ∧ ∀ w ∈ ws, w.whollyKnown

theorem ensures_values (hkeep : ∀ p ∈ items, Ensures (·.isSome) (keep p))
    (hvalue : ∀ p ∈ items, Ensures (·.whollyKnown) (value p)) :
    Ensures KnownValues (values keep value items) := by
  induction items with
  | nil => exact .ok ⟨[], rfl, by simp⟩
  | cons p items ih =>
    have hrest := ih (fun q hq => hkeep q (by simp [hq])) (fun q hq => hvalue q (by simp [hq]))
    refine .bind (hkeep p (by simp)) fun kept hkept => ?_
    obtain ⟨kept, rfl⟩ := Option.isSome_iff_exists.1 hkept
    cases kept with
    | false => exact hrest
    | true =>
      refine .bind (hvalue p (by simp)) fun v hv => ?_
      refine .bind hrest fun vs hvs => ?_
      obtain ⟨ws, rfl, hws⟩ := hvs
      exact .ok ⟨v :: ws, rfl, by simpa using ⟨hv, hws⟩⟩

/-- What a loop makes of its pairs has a property that taking in a pair keeps. -/
theorem ensures_fields {add : String → Value → α → Eval α} {P : α → Prop}
    (hadd : ∀ name v made, v.whollyKnown → P made → Ensures P (add name v made))
    (hkeep : ∀ p ∈ items, Ensures (·.isSome) (keep p))
    (hvalue : ∀ p ∈ items, Ensures (·.whollyKnown) (value p))
    (hkey : ∀ p ∈ items, Ensures (·.isSome) (key p)) {made : α} (hmade : P made) :
    Ensures (fun o => ∃ a, o = some a ∧ P a) (fields keep value key add made items) := by
  induction items generalizing made with
  | nil => exact .ok ⟨made, rfl, hmade⟩
  | cons p items ih =>
    -- What is known of all pairs is known of those that follow.
    have hrest : ∀ {made : α}, P made →
        Ensures (fun o => ∃ a, o = some a ∧ P a) (fields keep value key add made items) :=
      ih (fun q hq => hkeep q (by simp [hq])) (fun q hq => hvalue q (by simp [hq]))
        (fun q hq => hkey q (by simp [hq]))
    refine .bind (hkeep p (by simp)) fun kept hkept => ?_
    obtain ⟨kept, rfl⟩ := Option.isSome_iff_exists.1 hkept
    cases kept with
    | false => exact hrest hmade
    | true =>
      refine .bind (hvalue p (by simp)) fun v hv => ?_
      refine .bind (hkey p (by simp)) fun name hname => ?_
      obtain ⟨name, rfl⟩ := Option.isSome_iff_exists.1 hname
      exact .bind (hadd name v made hv hmade) fun made' hmade' => hrest hmade'

theorem ensures_addUnique (o : Origin) (name : String) (v : Value) (made : Fields Value)
    (hv : v.whollyKnown) (hmade : ∀ f ∈ made, f.2.whollyKnown) :
    Ensures (fun made => ∀ f ∈ made, f.2.whollyKnown) (addUnique o name v made) := by
  unfold addUnique
  split
  · exact .error
  · exact .ok (Fields.forall_set (P := fun v : Value => v.whollyKnown) name hmade hv)

theorem ensures_addGrouped (name : String) (v : Value) (made : Fields (List Value))
    (hv : v.whollyKnown) (hmade : ∀ f ∈ made, ∀ w ∈ f.2, w.whollyKnown) :
    Ensures (fun made => ∀ f ∈ made, ∀ w ∈ f.2, w.whollyKnown) (addGrouped name v made) := by
  refine .ok (Fields.forall_alter (P := fun ws : List Value => ∀ w ∈ ws, w.whollyKnown) name hmade
    (fun _ h => h) ?_ ?_)
  · simpa using hv
  · intro ws hws w hw
    rcases List.mem_append.1 hw with hmem | hmem
    · exact hws w hmem
    · obtain rfl : w = v := by simpa using hmem
      exact hv

end Loop

end ResourceTables
