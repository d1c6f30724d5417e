import ResourceTables.Eval.Evaluate
import ResourceTables.Proofs.Limits.Operations

/-!
# Loops within the limits

A loop over bounded keys and elements gives something bounded where each of its rounds does, and its
rounds convert their texts one after the other.

* `Loop.valuesNumerals`, `Loop.fieldsNumerals`: the texts that the rounds convert to numbers;
* `Loop.delivers_texts`, `Loop.delivers_values`, `Loop.delivers_fields`: what a loop gives.
-/

namespace ResourceTables

theorem Fields.length_alter_le (f : Option α → α) (name : String) (fields : Fields α) :
    (alter f name fields).length ≤ fields.length + 1 := by
  fun_induction alter f name fields with
  | case1 => simp
  | case2 => simp
  | case3 => simp
  | case4 k v rest _ _ ih => simpa using ih

namespace Loop

variable {items : List (Value × Value)} {keep : Value × Value → Eval (Option Bool)}
  {value : Value × Value → Eval Value} {key : Value × Value → Eval (Option String)}
  {ofKeep ofValue ofKey : Value × Value → List String}

/-- The texts that rounds with a condition convert to numbers, given those of their parts. -/
def valuesNumerals (keep : Value × Value → Eval (Option Bool)) (value : Value × Value → Eval Value)
    (ofKeep ofValue : Value × Value → List String) : List (Value × Value) → List String
  | [] => []
  | item :: rest =>
    ofKeep item ++ following (keep item) fun kept =>
      if kept = some true then
        ofValue item ++ following (value item) fun _ =>
          valuesNumerals keep value ofKeep ofValue rest
      else valuesNumerals keep value ofKeep ofValue rest

/-- The texts that rounds with a condition and a key convert to numbers, given those of their
parts. -/
def fieldsNumerals (keep : Value × Value → Eval (Option Bool)) (value : Value × Value → Eval Value)
    (key : Value × Value → Eval (Option String))
    (ofKeep ofValue ofKey : Value × Value → List String)
    (add : String → Value → α → Eval α) : α → List (Value × Value) → List String
  | _, [] => []
  | made, item :: rest =>
    ofKeep item ++ following (keep item) fun kept =>
      if kept = some true then
        ofValue item ++ following (value item) fun v =>
          ofKey item ++ following (key item) fun
            | some name => following (add name v made) fun made =>
              fieldsNumerals keep value key ofKeep ofValue ofKey add made rest
            | none => fieldsNumerals keep value key ofKeep ofValue ofKey add made rest
      else fieldsNumerals keep value key ofKeep ofValue ofKey add made rest

theorem delivers_texts {render : Value × Value → Eval (Option String)}
    {found : Value × Value → List String} (h : ∀ s ∈ inTurn render found items, TextInRange s)
    (hrender : ∀ p ∈ items, (∀ s ∈ found p, TextInRange s) →
      Delivers (fun _ => True) EvalError.Worded (render p)) :
    Delivers (fun _ => True) EvalError.Worded (texts render items) := by
  induction items with
  | nil => exact .ok True.intro
  | cons p items ih =>
    refine .bind_following h (hrender p (by simp)) fun text _ h => ?_
    exact .bind (ih h fun q hq => hrender q (by simp [hq])) fun texts _ => .ok True.intro

/-- A loop collects no more values than it has rounds. -/
theorem delivers_values (h : ∀ s ∈ valuesNumerals keep value ofKeep ofValue items, TextInRange s)
    (hkeep : ∀ p ∈ items, (∀ s ∈ ofKeep p, TextInRange s) →
      Delivers (fun _ => True) EvalError.Worded (keep p))
    (hvalue : ∀ p ∈ items, (∀ s ∈ ofValue p, TextInRange s) →
      Delivers Value.Bounded EvalError.Worded (value p)) :
    Delivers (fun vs => ∀ ws, vs = some ws → ws.length ≤ items.length ∧ ∀ w ∈ ws, w.Bounded)
      EvalError.Worded (values keep value items) := by
  induction items with
  | nil => exact .ok (by simp)
  | cons p items ih =>
    have hrest := fun h => ih h (fun q hq => hkeep q (by simp [hq]))
      (fun q hq => hvalue q (by simp [hq]))
    -- A round that is not kept leaves the number of values as it is.
    have hskip : ∀ vs : Option (List Value),
        (∀ ws, vs = some ws → ws.length ≤ items.length ∧ ∀ w ∈ ws, w.Bounded) →
        ∀ ws, vs = some ws → ws.length ≤ (p :: items).length ∧ ∀ w ∈ ws, w.Bounded :=
      fun vs hvs ws hws => ⟨(hvs ws hws).1.trans (Nat.le_succ _), (hvs ws hws).2⟩
    refine .bind_following h (hkeep p (by simp)) fun kept _ h => ?_
    match kept with
    | none =>
      refine .bind (hrest h) fun vs _ => .ok ?_
      simp
    | some false => exact (hrest h).mono hskip
    | some true =>
      refine .bind_following h (hvalue p (by simp)) fun v hv h => ?_
      refine .bind (hrest h) fun vs hvs => .ok fun ws hws => ?_
      obtain ⟨us, hus, rfl⟩ := Option.map_eq_some_iff.1 hws
      obtain ⟨hlength, hbounded⟩ := hvs us hus
      exact ⟨Nat.succ_le_succ hlength, List.forall_mem_cons.2 ⟨hv, hbounded⟩⟩

/-- What a loop makes of its pairs has a property that counts the rounds, if taking in a pair keeps
it. -/
theorem delivers_fields {add : String → Value → α → Eval α} {P : Nat → α → Prop} {n : Nat}
    {made : α}
    (h : ∀ s ∈ fieldsNumerals keep value key ofKeep ofValue ofKey add made items, TextInRange s)
    (hadd : ∀ n name v made, v.Bounded → P n made →
      Delivers (P (n + 1)) EvalError.Worded (add name v made))
    (hskip : ∀ n made, P n made → P (n + 1) made)
    (hkeep : ∀ p ∈ items, (∀ s ∈ ofKeep p, TextInRange s) →
      Delivers (fun _ => True) EvalError.Worded (keep p))
    (hvalue : ∀ p ∈ items, (∀ s ∈ ofValue p, TextInRange s) →
      Delivers Value.Bounded EvalError.Worded (value p))
    (hkey : ∀ p ∈ items, (∀ s ∈ ofKey p, TextInRange s) →
      Delivers (fun _ => True) EvalError.Worded (key p)) (hmade : P n made) :
    Delivers (fun fields => ∀ a, fields = some a → P (n + items.length) a) EvalError.Worded
      (fields keep value key add made items) := by
  induction items generalizing n made with
  | nil =>
    rintro _ ⟨⟩
    exact hmade
  | cons p items ih =>
    -- Whatever a round does, it counts as one.
    have hrest : ∀ {made}, P (n + 1) made →
        (∀ s ∈ fieldsNumerals keep value key ofKeep ofValue ofKey add made items, TextInRange s) →
        Delivers (fun fields => ∀ a, fields = some a → P (n + (p :: items).length) a)
          EvalError.Worded (fields keep value key add made items) := by
      intro made hmade h
      have hcount : n + 1 + items.length = n + (p :: items).length := by
        rw [List.length_cons]
        omega
      rw [← hcount]
      exact ih h (fun q hq => hkeep q (by simp [hq])) (fun q hq => hvalue q (by simp [hq]))
        (fun q hq => hkey q (by simp [hq])) hmade
    refine .bind_following h (hkeep p (by simp)) fun kept _ h => ?_
    match kept with
    | none => exact .bind (hrest (hskip n made hmade) h) fun _ _ => .ok (by simp)
    | some false => exact hrest (hskip n made hmade) h
    | some true =>
      refine .bind_following h (hvalue p (by simp)) fun v hv h => ?_
      refine .bind_following h (hkey p (by simp)) fun name _ h => ?_
      cases name with
      | none => exact .bind (hrest (hskip n made hmade) h) fun _ _ => .ok (by simp)
      | some name =>
        exact .bind_more h (hadd n name v made hv hmade) fun made' hmade' h => hrest hmade' h

/-! ## Taking pairs in -/

/-- There are no more fields than rounds, and their values are bounded. -/
def FieldsWithin (n : Nat) (made : Fields Value) : Prop :=
  made.length ≤ n ∧ ∀ f ∈ made, f.2.Bounded

theorem fieldsWithin_nil : FieldsWithin 0 [] :=
  ⟨Nat.le_refl 0, by simp⟩

/-- There are no more fields than rounds, and in each no more values, which are bounded. -/
def GroupsWithin (n : Nat) (made : Fields (List Value)) : Prop :=
  made.length ≤ n ∧ ∀ f ∈ made, f.2.length ≤ n ∧ ∀ v ∈ f.2, v.Bounded

theorem groupsWithin_nil : GroupsWithin 0 [] :=
  ⟨Nat.le_refl 0, by simp⟩

variable {n : Nat} {v : Value}

theorem FieldsWithin.mono {m : Nat} {made : Fields Value} (hmade : FieldsWithin n made)
    (h : n ≤ m) : FieldsWithin m made :=
  ⟨hmade.1.trans h, hmade.2⟩

theorem GroupsWithin.mono {m : Nat} {made : Fields (List Value)} (hmade : GroupsWithin n made)
    (h : n ≤ m) : GroupsWithin m made :=
  ⟨hmade.1.trans h, fun f hf => ⟨(hmade.2 f hf).1.trans h, (hmade.2 f hf).2⟩⟩

/-- Grouped values make tuples that are not too long. -/
theorem GroupsWithin.bounded_object {made : Fields (List Value)} (h : GroupsWithin itemLimit made) :
    (Value.object (made.map fun (name, vs) => (name, .tuple vs))).Bounded := by
  refine .object (by simpa using h.1) fun f hf => ?_
  obtain ⟨g, hg, rfl⟩ := List.mem_map.1 hf
  exact .tuple (h.2 g hg).1 (h.2 g hg).2

theorem FieldsWithin.set {made : Fields Value} (hmade : FieldsWithin n made) (name : String)
    (hv : v.Bounded) : FieldsWithin (n + 1) (Fields.set name v made) :=
  ⟨(Fields.length_alter_le _ _ _).trans (Nat.succ_le_succ hmade.1),
    Fields.forall_set name hmade.2 hv⟩

theorem delivers_addUnique {made : Fields Value} (hmade : FieldsWithin n made) (o : Origin)
    (name : String) (hv : v.Bounded) :
    Delivers (FieldsWithin (n + 1)) EvalError.Worded (addUnique o name v made) := by
  unfold addUnique
  split
  · exact .error EvalError.worded_invalid
  · exact .ok (hmade.set name hv)

theorem delivers_addGrouped {made : Fields (List Value)} (hmade : GroupsWithin n made)
    (name : String) (hv : v.Bounded) :
    Delivers (GroupsWithin (n + 1)) EvalError.Worded (addGrouped name v made) := by
  refine .ok ⟨(Fields.length_alter_le _ _ _).trans (Nat.succ_le_succ hmade.1), ?_⟩
  refine Fields.forall_alter (P := fun vs : List Value => vs.length ≤ n + 1 ∧ ∀ v ∈ vs, v.Bounded)
    (Q := fun vs : List Value => vs.length ≤ n ∧ ∀ v ∈ vs, v.Bounded) name hmade.2
    (fun vs hvs => ⟨hvs.1.trans (Nat.le_succ n), hvs.2⟩) ?_ fun vs hvs => ⟨?_, ?_⟩
  · exact ⟨by simp, by simpa using hv⟩
  · simpa using hvs.1
  · exact List.forall_mem_append.2 ⟨hvs.2, by simpa using hv⟩

end Loop

end ResourceTables
