import ResourceTables.Eval.Evaluate
import ResourceTables.Proofs.Values
import Mathlib.Data.List.Forall2

/-!
# Refinement of values

An unknown value stands for whatever it turns out to be once more names are resolved. This module
says which values those are, lifts the relation to scopes and to the results of evaluations, and
collects the facts that do not depend on the expression language:

* `Value.RefinedBy v w`: `w` is one of the values that `v` may turn out to be;
* `Scope.RefinedBy s s'`: every name may turn out to be what `s'` says it is;
* `Eval.RefinedBy R x y`: `y` is a result for the refined scope where `x` is one for the scope. An
  error stays an error, and two results that are no errors are related by `R`;
* `Value.eq_of_refinedBy`: a wholly known value may turn out to be nothing but itself;
* `Eval.RefinedBy.bind`: evaluations one after the other are refined step by step.
-/

namespace ResourceTables

namespace Value

mutual

/-- The second value is one that the first may turn out to be. An unknown of the dynamic kind may
turn out to be anything, and an unknown of another kind a value of its kind, known or not, or null.
A tuple or an object keeps its length or its keys, and its parts are refined one by one. Any other
known value stays as it is. -/
def RefinedBy : Value → Value → Prop
  | unknown k, w => k = .dynamic ∨ w.kind = k ∨ w = null .dynamic
  | tuple items, w => ∃ items', w = tuple items' ∧ AllRefinedBy items items'
  | object fields, w => ∃ fields', w = object fields' ∧ FieldsRefinedBy fields fields'
  | v, w => w = v

/-- Two lists of one length are refined value by value. -/
def AllRefinedBy : List Value → List Value → Prop
  | [], ws => ws = []
  | v :: vs, ws => ∃ w ws', ws = w :: ws' ∧ RefinedBy v w ∧ AllRefinedBy vs ws'

/-- Two lists of fields with the same keys are refined value by value. -/
def FieldsRefinedBy : List (String × Value) → List (String × Value) → Prop
  | [], gs => gs = []
  | (k, v) :: fs, gs => ∃ w gs', gs = (k, w) :: gs' ∧ RefinedBy v w ∧ FieldsRefinedBy fs gs'

end

/-- Two pairs have one key and related values. -/
def Keyed (R : α → β → Prop) (f : κ × α) (g : κ × β) : Prop :=
  f.1 = g.1 ∧ R f.2 g.2

theorem allRefinedBy_iff {vs ws : List Value} :
    AllRefinedBy vs ws ↔ List.Forall₂ RefinedBy vs ws := by
  induction vs generalizing ws with
  | nil => simp [AllRefinedBy]
  | cons v vs ih =>
    simp only [AllRefinedBy, ih, List.forall₂_cons_left_iff]
    constructor
    · rintro ⟨w, ws', rfl, hv, hvs⟩
      exact ⟨w, ws', hv, hvs, rfl⟩
    · rintro ⟨w, ws', hv, hvs, rfl⟩
      exact ⟨w, ws', rfl, hv, hvs⟩

theorem fieldsRefinedBy_iff {fs gs : List (String × Value)} :
    FieldsRefinedBy fs gs ↔ List.Forall₂ (Keyed RefinedBy) fs gs := by
  induction fs generalizing gs with
  | nil => simp [FieldsRefinedBy]
  | cons f fs ih =>
    obtain ⟨k, v⟩ := f
    simp only [FieldsRefinedBy, ih, List.forall₂_cons_left_iff]
    constructor
    · rintro ⟨w, gs', rfl, hv, hfs⟩
      exact ⟨(k, w), gs', ⟨rfl, hv⟩, hfs, rfl⟩
    · rintro ⟨⟨l, w⟩, gs', ⟨rfl, hv⟩, hfs, rfl⟩
      exact ⟨w, gs', rfl, hv, hfs⟩

/-! ## The shape of a refined value -/

theorem refinedBy_unknown {k : ValueKind} {w : Value} :
    (unknown k).RefinedBy w ↔ k = .dynamic ∨ w.kind = k ∨ w = null .dynamic := by
  rw [RefinedBy]

theorem refinedBy_tuple {vs : List Value} {w : Value} :
    (tuple vs).RefinedBy w ↔ ∃ ws, w = tuple ws ∧ List.Forall₂ RefinedBy vs ws := by
  simp only [RefinedBy, allRefinedBy_iff]

theorem refinedBy_object {fs : List (String × Value)} {w : Value} :
    (object fs).RefinedBy w ↔
      ∃ gs, w = object gs ∧ List.Forall₂ (Keyed RefinedBy) fs gs := by
  simp only [RefinedBy, fieldsRefinedBy_iff]

@[simp]
theorem refinedBy_null {k : ValueKind} {w : Value} : (null k).RefinedBy w ↔ w = null k := by
  simp [RefinedBy]

@[simp]
theorem refinedBy_string {s : String} {w : Value} : (string s).RefinedBy w ↔ w = string s := by
  simp [RefinedBy]

@[simp]
theorem refinedBy_number {d : Decimal} {w : Value} : (number d).RefinedBy w ↔ w = number d := by
  simp [RefinedBy]

@[simp]
theorem refinedBy_bool {b : Bool} {w : Value} : (bool b).RefinedBy w ↔ w = bool b := by
  simp [RefinedBy]

/-- An unknown of the dynamic kind may turn out to be anything. -/
@[simp]
theorem refinedBy_unknown_dynamic (w : Value) : (unknown .dynamic).RefinedBy w := by
  simp [refinedBy_unknown]

/-- An unknown value may turn out to be any value of its kind. -/
theorem refinedBy_of_kind {k : ValueKind} {w : Value} (h : w.kind = k) :
    (unknown k).RefinedBy w := by
  simp [refinedBy_unknown, h]

/-- What is known stays of its kind. -/
theorem kind_eq_of_refinedBy {v w : Value} (h : v.RefinedBy w) (hv : v.isKnown) :
    w.kind = v.kind := by
  cases v with
  | unknown k => simp [isKnown] at hv
  | tuple vs =>
    obtain ⟨ws, rfl, -⟩ := refinedBy_tuple.1 h
    rfl
  | object fs =>
    obtain ⟨gs, rfl, -⟩ := refinedBy_object.1 h
    rfl
  | _ => simp_all

/-- What is known stays known. -/
theorem isKnown_of_refinedBy {v w : Value} (h : v.RefinedBy w) (hv : v.isKnown) : w.isKnown := by
  cases v with
  | unknown k => simp [isKnown] at hv
  | tuple vs =>
    obtain ⟨ws, rfl, -⟩ := refinedBy_tuple.1 h
    rfl
  | object fs =>
    obtain ⟨gs, rfl, -⟩ := refinedBy_object.1 h
    rfl
  | _ => simp_all [isKnown]

mutual

/-- Refining nothing is a refinement. -/
theorem refinedBy_refl (v : Value) : v.RefinedBy v := by
  match v with
  | unknown k => simp [RefinedBy, kind]
  | tuple vs => exact ⟨vs, rfl, allRefinedBy_refl vs⟩
  | object fs => exact ⟨fs, rfl, fieldsRefinedBy_refl fs⟩
  | null _ | string _ | number _ | bool _ => simp

private theorem allRefinedBy_refl (vs : List Value) : AllRefinedBy vs vs := by
  match vs with
  | [] => rfl
  | v :: vs => exact ⟨v, vs, rfl, refinedBy_refl v, allRefinedBy_refl vs⟩

private theorem fieldsRefinedBy_refl (fs : List (String × Value)) : FieldsRefinedBy fs fs := by
  match fs with
  | [] => rfl
  | (_, v) :: fs => exact ⟨v, fs, rfl, refinedBy_refl v, fieldsRefinedBy_refl fs⟩

end

mutual

/-- A wholly known value may turn out to be nothing but itself. -/
theorem eq_of_refinedBy (v w : Value) (h : v.RefinedBy w) (hv : v.whollyKnown) : w = v := by
  match v with
  | unknown k => simp [whollyKnown] at hv
  | tuple vs =>
    obtain ⟨ws, rfl, hvs⟩ := h
    rw [eq_of_allRefinedBy vs ws hvs (by simpa [whollyKnown] using hv)]
  | object fs =>
    obtain ⟨gs, rfl, hfs⟩ := h
    rw [eq_of_fieldsRefinedBy fs gs hfs (by simpa [whollyKnown] using hv)]
  | null _ | string _ | number _ | bool _ => simpa using h

private theorem eq_of_allRefinedBy (vs ws : List Value) (h : AllRefinedBy vs ws)
    (hv : allWhollyKnown vs) : ws = vs := by
  match vs with
  | [] => exact h
  | v :: vs =>
    obtain ⟨w, ws', rfl, hw, hws⟩ := h
    simp only [allWhollyKnown, Bool.and_eq_true] at hv
    rw [eq_of_refinedBy v w hw hv.1, eq_of_allRefinedBy vs ws' hws hv.2]

private theorem eq_of_fieldsRefinedBy (fs gs : List (String × Value))
    (h : FieldsRefinedBy fs gs) (hv : fieldsWhollyKnown fs) : gs = fs := by
  match fs with
  | [] => exact h
  | (k, v) :: fs =>
    obtain ⟨w, gs', rfl, hw, hgs⟩ := h
    simp only [fieldsWhollyKnown, Bool.and_eq_true] at hv
    rw [eq_of_refinedBy v w hw hv.1, eq_of_fieldsRefinedBy fs gs' hgs hv.2]

end

end Value

/-! ## Scopes -/

/-- Every name may turn out to be what the second scope says it is. A name without a binding is an
unknown of the dynamic kind. -/
def Scope.RefinedBy (s s' : Scope) : Prop :=
  ∀ name, ((s name).getD (.unknown .dynamic)).RefinedBy ((s' name).getD (.unknown .dynamic))

namespace Scope.RefinedBy

/-- A loop variable is refined with the value that it stands for. -/
theorem bind {s s' : Scope} (hs : s.RefinedBy s') (name : String) {v w : Value}
    (h : v.RefinedBy w) : (s.bind name v).RefinedBy (s'.bind name w) := by
  intro n
  by_cases hn : n = name
  · simpa [Scope.bind, hn] using h
  · simpa [Scope.bind, hn] using hs n

/-- The scopes of one round of a loop are refined with its element. -/
theorem loopBind {s s' : Scope} (hs : s.RefinedBy s') (vars : LoopVars) {p q : Value × Value}
    (hkey : p.1 = q.1) (hitem : p.2.RefinedBy q.2) :
    (Loop.bind vars s p).RefinedBy (Loop.bind vars s' q) := by
  unfold Loop.bind
  have hinner := hs.bind vars.value hitem
  cases vars.key with
  | none => exact hinner
  | some key => exact hinner.bind key (hkey ▸ Value.refinedBy_refl _)

end Scope.RefinedBy

/-! ## Results -/

/-- What is known of the first stays known in the second, related by `R`. -/
def WhenKnown (R : α → β → Prop) (o : Option α) (o' : Option β) : Prop :=
  ∀ a, o = some a → ∃ b, o' = some b ∧ R a b

/-- The second result is one for refined inputs where the first is one for the inputs: an error
stays an error, and two results that are no errors are related by `R`. -/
structure Eval.RefinedBy (R : α → β → Prop) (x : Eval α) (y : Eval β) : Prop where
  /-- An error stays an error, but perhaps not the same one. -/
  stays_error : ∀ err, x = .error err → ∃ err', y = .error err'
  /-- Two results that are no errors are related. -/
  rel : ∀ a b, x = .ok a → y = .ok b → R a b

@[simp]
theorem whenKnown_none {R : α → β → Prop} {o : Option β} : WhenKnown R none o := by
  simp [WhenKnown]

@[simp]
theorem whenKnown_some {R : α → β → Prop} {a : α} {o : Option β} :
    WhenKnown R (some a) o ↔ ∃ b, o = some b ∧ R a b := by
  simp [WhenKnown]

/-- Two texts one after the other are known when both are. -/
theorem whenKnown_append {a a' b b' : Option String} (ha : WhenKnown Eq a a')
    (hb : WhenKnown Eq b b') :
    WhenKnown Eq (do return (← a) ++ (← b)) (do return (← a') ++ (← b')) := by
  match a, b with
  | some a, some b =>
    obtain ⟨_, rfl, rfl⟩ := whenKnown_some.1 ha
    obtain ⟨_, rfl, rfl⟩ := whenKnown_some.1 hb
    exact whenKnown_some.2 ⟨_, rfl, rfl⟩
  | none, _ | some _, none => exact whenKnown_none

theorem whenKnown_refl {R : α → α → Prop} (hR : ∀ a, R a a) (o : Option α) : WhenKnown R o o :=
  fun a h => ⟨a, h, hR a⟩

namespace Eval.RefinedBy

variable {R : α → β → Prop} {S : γ → δ → Prop}

theorem ok {a : α} {b : β} (h : R a b) : Eval.RefinedBy R (.ok a) (.ok b) := by
  refine ⟨fun _ hx => (nomatch hx), fun _ _ ha hb => ?_⟩
  cases ha
  cases hb
  exact h

/-- Every result is refined by an error. -/
theorem error {x : Eval α} {err : EvalError} : Eval.RefinedBy R x (.error err : Eval β) :=
  ⟨fun _ _ => ⟨err, rfl⟩, fun _ _ _ hb => nomatch hb⟩

/-- Of a result that is related to everything, nothing is left to prove. -/
theorem ok_left {a : α} {y : Eval β} (h : ∀ b, R a b) : Eval.RefinedBy R (.ok a) y := by
  cases y with
  | ok b => exact ok (h b)
  | error err => exact error

theorem refl {R : α → α → Prop} (hR : ∀ a, R a a) (x : Eval α) : Eval.RefinedBy R x x := by
  cases x with
  | ok a => exact ok (hR a)
  | error err => exact error

theorem mono {R' : α → β → Prop} {x : Eval α} {y : Eval β} (h : Eval.RefinedBy R x y)
    (hR : ∀ a b, R a b → R' a b) : Eval.RefinedBy R' x y :=
  ⟨h.stays_error, fun a b ha hb => hR a b (h.rel a b ha hb)⟩

/-- What is no error for refined inputs was none before. -/
theorem exists_ok {x : Eval α} {y : Eval β} {b : β} (h : Eval.RefinedBy R x y) (hy : y = .ok b) :
    ∃ a, x = .ok a := by
  cases hx : x with
  | ok a => exact ⟨a, rfl⟩
  | error err =>
    obtain ⟨err', herr⟩ := h.stays_error err hx
    cases herr.symm.trans hy

/-- Evaluations one after the other are refined step by step. -/
theorem bind {x : Eval α} {y : Eval β} {f : α → Eval γ} {g : β → Eval δ}
    (h : Eval.RefinedBy R x y)
    (hf : ∀ a b, x = .ok a → y = .ok b → R a b → Eval.RefinedBy S (f a) (g b)) :
    Eval.RefinedBy S (x >>= f) (y >>= g) := by
  -- An error of the first evaluation is one of both wholes, whatever comes behind.
  cases hx : x with
  | error err =>
    obtain ⟨err', rfl⟩ := h.stays_error err hx
    exact error
  | ok a =>
    cases hy : y with
    | ok b => exact hf a b hx hy (h.rel a b hx hy)
    | error err' => exact error

/-- A step that only the refined evaluation takes may fail. -/
theorem bind_right {x : Eval α} {y : Eval δ} {g : δ → Eval β}
    (h : ∀ b, y = .ok b → Eval.RefinedBy R x (g b)) : Eval.RefinedBy R x (y >>= g) := by
  cases hy : y with
  | ok b => exact h b hy
  | error err => exact error

/-- What is evaluated only to see whether it fails fails where it failed before. -/
theorem discard {x : Eval α} {y : Eval (Option δ)} {R : α → Option δ → Prop}
    (h : Eval.RefinedBy R x y) :
    Eval.RefinedBy (WhenKnown S) (x >>= fun _ => .ok none) y := by
  refine ⟨fun err hx => ?_, fun a b ha _ => ?_⟩
  · cases x with
    | ok a => exact nomatch hx
    | error e => exact h.stays_error e rfl
  · cases x with
    | ok _ =>
      cases ha
      exact whenKnown_none
    | error e => exact nomatch ha

/-- What is evaluated for each of two related lists is related one by one. -/
theorem mapM {f : γ → Eval α} {g : δ → Eval β} {as : List γ} {bs : List δ}
    (h : List.Forall₂ (fun a b => Eval.RefinedBy R (f a) (g b)) as bs) :
    Eval.RefinedBy (List.Forall₂ R) (as.mapM f) (bs.mapM g) := by
  induction h with
  | nil => exact .ok .nil
  | cons hab _ ih =>
    rw [List.mapM_cons, List.mapM_cons]
    exact .bind hab fun a b _ _ hR => .bind ih fun as bs _ _ hRs => .ok (.cons hR hRs)

end Eval.RefinedBy

end ResourceTables
