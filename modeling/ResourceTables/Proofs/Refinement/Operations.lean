import ResourceTables.Proofs.Refinement.Basic

/-!
# Operations on refined values

Every conversion, traversal and operator, the choice between two branches apart, respects
refinement: where an operand may turn out to be something more definite, the result may turn out to
be what the operation then gives, and an operand that is refused stays refused.

A loop runs over the elements of a known collection, so refining the collection leaves the number
of its rounds and their keys alone. A round that is skipped because its condition or its key is
unknown may be taken once they are resolved; the loop is unknown then, and what the rounds behind
still have to say is whether they fail. The invariants of `Loop.fields` are stated for any way of
taking a pair in, with one relation for what has been made before all is known to be known (`T`)
and one for what has been made in rounds that were all known (`S`).
-/

namespace ResourceTables

/-! ## Lists and fields -/

section Lists

variable {R : α → β → Prop}

/-- Related lists have elements at the same places, and these are related. -/
theorem rel_getElem? {as : List α} {bs : List β} (h : List.Forall₂ R as bs) (i : Nat) :
    Option.Rel R as[i]? bs[i]? := by
  induction h generalizing i with
  | nil => simp
  | cons hab hrest ih =>
    cases i with
    | zero => simpa using Option.Rel.some hab
    | succ i => simpa using ih i

/-- The elements of related lists with their places are related. -/
theorem forall₂_zipIdx {as : List α} {bs : List β} (h : List.Forall₂ R as bs) (start : Nat) :
    List.Forall₂ (fun p q => p.2 = q.2 ∧ R p.1 q.1) (as.zipIdx start) (bs.zipIdx start) := by
  induction h generalizing start with
  | nil => simp
  | cons hab hrest ih => simpa using ⟨hab, ih (start + 1)⟩

end Lists

namespace Fields

variable {R : α → β → Prop} {fs : Fields α} {gs : Fields β}

/-- The same fields are present, with related values. -/
theorem rel_get? (h : List.Forall₂ (Value.Keyed R) fs gs) (name : String) :
    Option.Rel R (get? name fs) (get? name gs) := by
  induction h with
  | nil => exact .none
  | @cons f g _ _ hfg _ ih =>
    obtain ⟨k, v⟩ := f
    obtain ⟨l, w⟩ := g
    obtain ⟨rfl, hvw⟩ := hfg
    by_cases hname : name = k
    · simpa [get?, hname] using Option.Rel.some hvw
    · simpa [get?, hname] using ih

/-- Related changes of one field keep the fields related. -/
theorem forall₂_alter (h : List.Forall₂ (Value.Keyed R) fs gs) (name : String)
    {f : Option α → α} {g : Option β → β} (hnone : R (f none) (g none))
    (hsome : ∀ a b, R a b → R (f (some a)) (g (some b))) :
    List.Forall₂ (Value.Keyed R) (alter f name fs) (alter g name gs) := by
  induction h with
  | nil => simpa [alter, Value.Keyed] using hnone
  | @cons p q fs gs hpq hrest ih =>
    obtain ⟨k, v⟩ := p
    obtain ⟨l, w⟩ := q
    obtain ⟨hkl, hvw⟩ := hpq
    obtain rfl : k = l := hkl
    by_cases hk : name = k
    · simpa [alter, hk, Value.Keyed] using ⟨hsome v w hvw, hrest⟩
    · by_cases hlt : name < k
      · simpa [alter, hk, hlt, Value.Keyed] using ⟨hnone, hvw, hrest⟩
      · simpa [alter, hk, hlt, Value.Keyed] using ⟨hvw, ih⟩

/-- Setting a field to related values keeps the fields related. -/
theorem forall₂_set (h : List.Forall₂ (Value.Keyed R) fs gs) (name : String)
    {a : α} {b : β} (hab : R a b) :
    List.Forall₂ (Value.Keyed R) (set name a fs) (set name b gs) :=
  forall₂_alter h name hab fun _ _ _ => hab

end Fields

namespace Value

variable {v w key key' : Value}

/-- A value is unknown, has parts that are refined, or stays as it is. -/
theorem refinedBy_cases (h : v.RefinedBy w) :
    (∃ k, v = unknown k) ∨
    (∃ vs ws, v = tuple vs ∧ w = tuple ws ∧ List.Forall₂ RefinedBy vs ws) ∨
    (∃ fs gs, v = object fs ∧ w = object gs ∧
      List.Forall₂ (Keyed RefinedBy) fs gs) ∨
    w = v := by
  cases v with
  | unknown k => exact .inl ⟨k, rfl⟩
  | tuple vs =>
    obtain ⟨ws, rfl, hvs⟩ := refinedBy_tuple.1 h
    exact .inr (.inl ⟨vs, ws, rfl, rfl, hvs⟩)
  | object fs =>
    obtain ⟨gs, rfl, hfs⟩ := refinedBy_object.1 h
    exact .inr (.inr (.inl ⟨fs, gs, rfl, rfl, hfs⟩))
  | _ => exact .inr (.inr (.inr (by simpa using h)))

/-! ## Conversions -/

/-- A conversion that takes no tuples and no objects is refined with the value: an unknown has no
result yet, and every other value that is left stays as it is. -/
theorem conversion_refinedBy (f : Value → Eval (Option α)) (h : v.RefinedBy w)
    (hunknown : ∀ k, f (unknown k) = .ok none) (htuple : ∀ vs, ∃ err, f (tuple vs) = .error err)
    (hobject : ∀ fs, ∃ err, f (object fs) = .error err) :
    Eval.RefinedBy (WhenKnown Eq) (f v) (f w) := by
  rcases refinedBy_cases h with ⟨k, rfl⟩ | ⟨vs, ws, rfl, rfl, -⟩ | ⟨fs, gs, rfl, rfl, -⟩ | rfl
  · rw [hunknown]
    exact .ok_left fun _ => whenKnown_none
  · obtain ⟨err, herr⟩ := htuple ws
    rw [herr]
    exact .error
  · obtain ⟨err, herr⟩ := hobject gs
    rw [herr]
    exact .error
  · exact .refl (whenKnown_refl fun _ => rfl) _

theorem toText_refinedBy (h : v.RefinedBy w) (o : Origin) (role : Role) :
    Eval.RefinedBy (WhenKnown Eq) (v.toText o role) (w.toText o role) :=
  conversion_refinedBy (toText · o role) h (fun _ => rfl) (fun _ => ⟨_, rfl⟩) fun _ => ⟨_, rfl⟩

theorem toNumber_refinedBy (h : v.RefinedBy w) (o : Origin) (role : Role) :
    Eval.RefinedBy (WhenKnown Eq) (v.toNumber o role) (w.toNumber o role) :=
  conversion_refinedBy (toNumber · o role) h (fun _ => rfl) (fun _ => ⟨_, rfl⟩) fun _ => ⟨_, rfl⟩

theorem toBool_refinedBy (h : v.RefinedBy w) (o : Origin) (role : Role) :
    Eval.RefinedBy (WhenKnown Eq) (v.toBool o role) (w.toBool o role) :=
  conversion_refinedBy (toBool · o role) h (fun _ => rfl) (fun _ => ⟨_, rfl⟩) fun _ => ⟨_, rfl⟩

/-! ## Traversals -/

theorem getAttr_refinedBy (h : v.RefinedBy w) (name : String) (o : Origin) :
    Eval.RefinedBy RefinedBy (v.getAttr name o) (w.getAttr name o) := by
  rcases refinedBy_cases h with ⟨k, rfl⟩ | ⟨vs, ws, rfl, rfl, -⟩ | ⟨fs, gs, rfl, rfl, hfs⟩ | rfl
  · exact .ok_left refinedBy_unknown_dynamic
  · exact .error
  · have hrel := Fields.rel_get? hfs name
    simp only [getAttr]
    generalize Fields.get? name fs = x, Fields.get? name gs = y at hrel
    cases hrel with
    | none => exact .error
    | some hab => exact .ok hab
  · exact .refl refinedBy_refl _

theorem elementAt_refinedBy {vs ws : List Value} (h : List.Forall₂ RefinedBy vs ws)
    (index : Decimal) (o : Origin) :
    Eval.RefinedBy RefinedBy (elementAt vs index o) (elementAt ws index o) := by
  unfold elementAt
  split
  · have hrel := rel_getElem? h index.toInt.toNat
    generalize vs[index.toInt.toNat]? = x, ws[index.toInt.toNat]? = y at hrel
    cases hrel with
    | none => exact .error
    | some hab => exact .ok hab
  · exact .error

theorem elements_refinedBy (h : v.RefinedBy w) (o : Origin) :
    Eval.RefinedBy (WhenKnown (List.Forall₂ (Keyed RefinedBy))) (v.elements o)
      (w.elements o) := by
  rcases refinedBy_cases h with ⟨k, rfl⟩ | ⟨vs, ws, rfl, rfl, hvs⟩ | ⟨fs, gs, rfl, rfl, hfs⟩ | rfl
  · exact .ok_left fun _ => whenKnown_none
  · refine .ok (whenKnown_some.2 ⟨_, rfl, ?_⟩)
    rw [List.forall₂_map_left_iff, List.forall₂_map_right_iff]
    exact (forall₂_zipIdx hvs 0).imp fun _ _ hpq => ⟨by simp [hpq.1], hpq.2⟩
  · refine .ok (whenKnown_some.2 ⟨_, rfl, ?_⟩)
    rw [List.forall₂_map_left_iff, List.forall₂_map_right_iff]
    exact hfs.imp fun _ _ hpq => ⟨by simp [hpq.1], hpq.2⟩
  · refine .refl (whenKnown_refl fun items => ?_) _
    exact List.forall₂_same.2 fun item _ => ⟨rfl, refinedBy_refl _⟩

/-- A known value that a splat runs over has the same number of elements when it is refined. -/
theorem splatElements_refinedBy (h : v.RefinedBy w) (hv : v.isKnown) :
    List.Forall₂ RefinedBy v.splatElements w.splatElements := by
  rcases refinedBy_cases h with ⟨k, rfl⟩ | ⟨vs, ws, rfl, rfl, hvs⟩ | ⟨fs, gs, rfl, rfl, hfs⟩ | rfl
  · simp [isKnown] at hv
  · exact hvs
  · exact .cons h .nil
  · exact List.forall₂_same.2 fun item _ => refinedBy_refl item

/-- What is known is null after the refinement exactly if it was before. -/
theorem isNull_eq_of_refinedBy (h : v.RefinedBy w) (hv : v.isKnown) : w.isNull = v.isNull := by
  rcases refinedBy_cases h with ⟨k, rfl⟩ | ⟨vs, ws, rfl, rfl, -⟩ | ⟨fs, gs, rfl, rfl, -⟩ | rfl
  · cases hv
  · rfl
  · rfl
  · rfl

theorem isNull_of_refinedBy (h : v.RefinedBy w) (hv : v.isNull) : w.isNull := by
  obtain ⟨k, rfl⟩ := exists_eq_null hv
  rwa [refinedBy_null.1 h]

theorem index_of_unknown (hv : v.isNull = false) (hk : key.isNull = false)
    (h : v.isKnown = false ∨ key.isKnown = false) (o : Origin) :
    v.index key o = .ok (unknown .dynamic) := by
  rcases h with h | h <;> simp [index, hv, hk, h]

section KnownKeys

variable (hkey : key.RefinedBy key') (hk : key.isKnown) (hnull : key.isNull = false)

include hkey hk hnull

theorem index_tuple_refinedBy {vs ws : List Value} (h : List.Forall₂ RefinedBy vs ws)
    (o : Origin) : Eval.RefinedBy RefinedBy ((tuple vs).index key o) ((tuple ws).index key' o) := by
  have hnull' : key'.isNull = false := by rw [isNull_eq_of_refinedBy hkey hk, hnull]
  rw [index_tuple hk hnull, index_tuple (isKnown_of_refinedBy hkey hk) hnull']
  refine .bind (toNumber_refinedBy hkey o .index) fun a b _ _ hab => ?_
  cases a with
  | none => exact .ok_left refinedBy_unknown_dynamic
  | some n =>
    obtain ⟨_, rfl, rfl⟩ := whenKnown_some.1 hab
    exact elementAt_refinedBy h n o

theorem index_object_refinedBy {fs gs : List (String × Value)}
    (h : List.Forall₂ (Keyed RefinedBy) fs gs) (o : Origin) :
    Eval.RefinedBy RefinedBy ((object fs).index key o) ((object gs).index key' o) := by
  have hnull' : key'.isNull = false := by rw [isNull_eq_of_refinedBy hkey hk, hnull]
  rw [index_object hk hnull, index_object (isKnown_of_refinedBy hkey hk) hnull']
  refine .bind (toText_refinedBy hkey o .index) fun a b _ _ hab => ?_
  cases a with
  | none => exact .ok_left refinedBy_unknown_dynamic
  | some name =>
    obtain ⟨_, rfl, rfl⟩ := whenKnown_some.1 hab
    have hrel := Fields.rel_get? h name
    simp only [Option.elim_some]
    generalize Fields.get? name fs = x, Fields.get? name gs = y at hrel
    cases hrel with
    | none => exact .error
    | some hab => exact .ok hab

end KnownKeys

theorem index_refinedBy (h : v.RefinedBy w) (hkey : key.RefinedBy key') (o : Origin) :
    Eval.RefinedBy RefinedBy (v.index key o) (w.index key' o) := by
  cases hvnull : v.isNull with
  | true =>
    rw [index_of_null hvnull, index_of_null (isNull_of_refinedBy h hvnull)]
    exact .error
  | false =>
    cases hnull : key.isNull with
    | true =>
      obtain ⟨cause, herr⟩ := index_of_null_key w (isNull_of_refinedBy hkey hnull) o
      rw [herr]
      exact .error
    | false =>
      by_cases hunknown : v.isKnown = false ∨ key.isKnown = false
      · rw [index_of_unknown hvnull hnull hunknown]
        exact .ok_left refinedBy_unknown_dynamic
      -- Both are known, so that the target is refined to one of its kind.
      simp only [not_or, Bool.not_eq_false] at hunknown
      obtain ⟨hv, hk⟩ := hunknown
      cases v with
      | unknown k => cases hv
      | null k => cases hvnull
      | tuple vs =>
        obtain ⟨ws, rfl, hvs⟩ := refinedBy_tuple.1 h
        exact index_tuple_refinedBy hkey hk hnull hvs o
      | object fs =>
        obtain ⟨gs, rfl, hfs⟩ := refinedBy_object.1 h
        exact index_object_refinedBy hkey hk hnull hfs o
      | string _ | number _ | bool _ =>
        obtain rfl : w = _ := by simpa using h
        have hnull' : key'.isNull = false := by rw [isNull_eq_of_refinedBy hkey hk, hnull]
        rw [index_of_kind rfl rfl (isKnown_of_refinedBy hkey hk) hnull' (by simp [kind])
          (by simp [kind])]
        exact .error

end Value

/-! ## Operators -/

section Operators

variable {v v' w w' : Value}

/-- Only values that are refined by nothing else are compared. -/
theorem BinaryOp.applyEquality_refinedBy (opposite : Bool) (hv : v.RefinedBy v')
    (hw : w.RefinedBy w') :
    (applyEquality opposite v w).RefinedBy (applyEquality opposite v' w') := by
  by_cases h : v.whollyKnown ∧ w.whollyKnown
  · rw [Value.eq_of_refinedBy v v' hv h.1, Value.eq_of_refinedBy w w' hw h.2]
    exact Value.refinedBy_refl _
  · have hunknown : applyEquality opposite v w = .unknown .bool := by
      rw [applyEquality, if_neg (by simpa using h)]
    rw [hunknown]
    refine Value.refinedBy_of_kind ?_
    unfold applyEquality
    split <;> rfl

/-- The results of the operators between truth values are truth values. -/
theorem BinaryOp.applyLogic_refinedBy (op : BinaryOp) (hv : v.RefinedBy v')
    (hw : w.RefinedBy w') (o p : Origin) :
    Eval.RefinedBy Value.RefinedBy (op.applyLogic v w o p) (op.applyLogic v' w' o p) := by
  refine .bind (Value.toBool_refinedBy hv o _) fun a a' _ _ ha => ?_
  refine .bind (Value.toBool_refinedBy hw p _) fun b b' _ _ hb => ?_
  match a, b with
  | some a, some b =>
    obtain ⟨_, rfl, rfl⟩ := whenKnown_some.1 ha
    obtain ⟨_, rfl, rfl⟩ := whenKnown_some.1 hb
    exact .ok (Value.refinedBy_refl _)
  | none, _ | some _, none =>
    match a', b' with
    | some _, some _ | none, _ | some _, none => exact .ok (Value.refinedBy_of_kind rfl)

/-- A comparison gives a truth value, and every other operator between numbers a number. -/
theorem BinaryOp.applyNumbers_refinedBy (op : BinaryOp) (hv : v.RefinedBy v')
    (hw : w.RefinedBy w') (o p q : Origin) :
    Eval.RefinedBy Value.RefinedBy (op.applyNumbers v w o p q)
      (op.applyNumbers v' w' o p q) := by
  refine .bind (Value.toNumber_refinedBy hv o _) fun a a' _ _ ha => ?_
  refine .bind (Value.toNumber_refinedBy hw p _) fun b b' _ _ hb => ?_
  match a, b with
  | some a, some b =>
    obtain ⟨_, rfl, rfl⟩ := whenKnown_some.1 ha
    obtain ⟨_, rfl, rfl⟩ := whenKnown_some.1 hb
    exact .refl Value.refinedBy_refl _
  -- An unknown operand makes the result unknown, of the kind that it has with any operands.
  | none, _ | some _, none =>
    cases op.comparison? with
    | some holds =>
      match a', b' with
      | some _, some _ | none, _ | some _, none => exact .ok (Value.refinedBy_of_kind rfl)
    | none =>
      match a', b' with
      | none, _ | some _, none => exact .ok (Value.refinedBy_of_kind rfl)
      | some a, some b =>
        dsimp only
        split
        · exact .error
        · split
          · exact .ok (Value.refinedBy_of_kind rfl)
          · exact .error
          · exact .error

theorem BinaryOp.apply_refinedBy (op : BinaryOp) (hv : v.RefinedBy v') (hw : w.RefinedBy w')
    (o p q : Origin) :
    Eval.RefinedBy Value.RefinedBy (op.apply v w o p q) (op.apply v' w' o p q) := by
  cases op with
  | eq => exact .ok (applyEquality_refinedBy false hv hw)
  | ne => exact .ok (applyEquality_refinedBy true hv hw)
  | and | or => exact applyLogic_refinedBy _ hv hw o p
  | lt | gt | le | ge | add | sub | mul | div | rem =>
    exact applyNumbers_refinedBy _ hv hw o p q

theorem UnaryOp.apply_refinedBy (op : UnaryOp) (hv : v.RefinedBy v') (o : Origin) :
    Eval.RefinedBy Value.RefinedBy (op.apply v o) (op.apply v' o) := by
  cases op with
  | not =>
    refine .bind (Value.toBool_refinedBy hv o _) fun a a' _ _ ha => ?_
    match a with
    | some a =>
      obtain ⟨_, rfl, rfl⟩ := whenKnown_some.1 ha
      exact .ok (Value.refinedBy_refl _)
    | none =>
      match a' with
      | some _ | none => exact .ok (Value.refinedBy_of_kind rfl)
  | negate =>
    refine .bind (Value.toNumber_refinedBy hv o _) fun a a' _ _ ha => ?_
    match a with
    | some a =>
      obtain ⟨_, rfl, rfl⟩ := whenKnown_some.1 ha
      exact .refl Value.refinedBy_refl _
    | none =>
      match a' with
      | none => exact .ok (Value.refinedBy_of_kind rfl)
      | some d =>
        dsimp only
        split
        · exact .ok (Value.refinedBy_of_kind rfl)
        · exact .error

end Operators

/-! ## Loops over refined collections -/

namespace Fields

/-- Changing a field makes it present and leaves the presence of all others alone. -/
theorem isSome_get?_alter (f : Option α → α) (name n : String) (fs : Fields α) :
    (get? n (alter f name fs)).isSome ↔ n = name ∨ (get? n fs).isSome := by
  induction fs with
  | nil => by_cases h : n = name <;> simp [alter, get?, h]
  | cons p fs ih =>
    obtain ⟨k, v⟩ := p
    by_cases hk : name = k
    · subst hk
      by_cases h : n = name <;> simp [alter, get?, h]
    · by_cases hlt : name < k
      · by_cases h : n = name <;> simp [alter, get?, h, hk, hlt]
      · by_cases h : n = k
        · simp [alter, get?, h, hk, hlt]
        · simpa [alter, get?, h, hk, hlt] using ih

/-- Every key of the first fields is one of the second. -/
def KeysIn (fs : Fields α) (gs : Fields β) : Prop :=
  ∀ name, (get? name fs).isSome → (get? name gs).isSome

theorem KeysIn.set {fs : Fields α} {gs : Fields β} (h : KeysIn fs gs) (name : String) (a : α)
    (b : β) : KeysIn (Fields.set name a fs) (Fields.set name b gs) := by
  intro n hn
  rw [Fields.set, isSome_get?_alter] at hn ⊢
  exact hn.imp_right (h n)

theorem KeysIn.set_right {fs : Fields α} {gs : Fields β} (h : KeysIn fs gs) (name : String)
    (b : β) : KeysIn fs (Fields.set name b gs) := by
  intro n hn
  rw [Fields.set, isSome_get?_alter]
  exact .inr (h n hn)

end Fields

namespace Loop

variable {ps qs : List (Value × Value)}

/-- The rounds of two loops agree: a condition or key that is known stays so, and the value of a
round that is taken is refined. -/
structure RoundRefinedBy (keep keep' : Value × Value → Eval (Option Bool))
    (value value' : Value × Value → Eval Value) (p q : Value × Value) : Prop where
  keep_rel : Eval.RefinedBy (WhenKnown Eq) (keep p) (keep' q)
  value_rel : keep p = .ok (some true) → Eval.RefinedBy Value.RefinedBy (value p) (value' q)

theorem texts_refinedBy {render render' : Value × Value → Eval (Option String)}
    (h : List.Forall₂ (fun p q => Eval.RefinedBy (WhenKnown Eq) (render p) (render' q)) ps qs) :
    Eval.RefinedBy (WhenKnown Eq) (texts render ps) (texts render' qs) := by
  induction h with
  | nil => exact .ok (whenKnown_refl (fun _ => rfl) _)
  | cons hround _ ih =>
    refine .bind hround fun a a' _ _ ha => ?_
    exact .bind ih fun b b' _ _ hb => .ok (whenKnown_append ha hb)

theorem values_refinedBy {keep keep' : Value × Value → Eval (Option Bool)}
    {value value' : Value × Value → Eval Value}
    (h : List.Forall₂ (RoundRefinedBy keep keep' value value') ps qs) :
    Eval.RefinedBy (WhenKnown (List.Forall₂ Value.RefinedBy)) (values keep value ps)
      (values keep' value' qs) := by
  induction h with
  | nil => exact .ok (whenKnown_some.2 ⟨[], rfl, .nil⟩)
  | cons hround _ ih =>
    refine .bind hround.keep_rel fun a a' hkeep _ ha => ?_
    match a with
    | some true =>
      obtain ⟨_, rfl, rfl⟩ := whenKnown_some.1 ha
      refine .bind (hround.value_rel hkeep) fun v w _ _ hvw => ?_
      refine .bind ih fun vs ws _ _ hvs => .ok ?_
      intro _ hv
      obtain ⟨as, rfl, rfl⟩ := Option.map_eq_some_iff.1 hv
      obtain ⟨bs, rfl, hbs⟩ := whenKnown_some.1 hvs
      exact ⟨_, rfl, .cons hvw hbs⟩
    | some false =>
      obtain ⟨_, rfl, rfl⟩ := whenKnown_some.1 ha
      exact ih
    | none =>
      -- The refined loop may take the round, but fails where the rounds behind fail.
      match a' with
      | some true => exact .bind_right fun _ _ => .bind ih fun _ _ _ _ _ => .ok whenKnown_none
      | some false => exact .discard ih
      | none => exact .bind ih fun _ _ _ _ _ => .ok whenKnown_none

/-- The pairs that a loop takes in, and whether it fails over one. `T` relates what has been made
whatever was unknown before, `S` what has been made in rounds that were all known; `add` fails where
it failed before, and taking one more pair in only when refined keeps `T`. -/
theorem fields_refinedBy {keep keep' : Value × Value → Eval (Option Bool)}
    {value value' : Value × Value → Eval Value}
    {key key' : Value × Value → Eval (Option String)} {add : String → Value → α → Eval α}
    {T S : α → α → Prop}
    (hadd : ∀ name v w made made', v.RefinedBy w → T made made' →
      Eval.RefinedBy (fun m m' => T m m' ∧ (S made made' → S m m')) (add name v made)
        (add name w made'))
    (hskip : ∀ name w made made' m', T made made' → add name w made' = .ok m' → T made m')
    (h : List.Forall₂ (fun p q => RoundRefinedBy keep keep' value value' p q ∧
      (keep p = .ok (some true) → Eval.RefinedBy (WhenKnown Eq) (key p) (key' q))) ps qs)
    {made made' : α} (hmade : T made made') :
    Eval.RefinedBy (fun o o' => S made made' → WhenKnown S o o')
      (fields keep value key add made ps) (fields keep' value' key' add made' qs) := by
  -- The induction is on the rounds, for all that may have been made before: `T` has to hold to go
  -- on, and `S` is only needed where the loop is known in the end.
  induction h generalizing made made' with
  | nil => exact .ok fun hS => whenKnown_some.2 ⟨made', rfl, hS⟩
  | cons hround _ ih =>
    obtain ⟨hround, hkey⟩ := hround
    refine .bind hround.keep_rel fun a a' hkeep _ ha => ?_
    match a with
    | some true =>
      obtain ⟨_, rfl, rfl⟩ := whenKnown_some.1 ha
      refine .bind (hround.value_rel hkeep) fun v w _ _ hvw => ?_
      refine .bind (hkey hkeep) fun n n' _ _ hn => ?_
      match n with
      | some name =>
        obtain ⟨_, rfl, rfl⟩ := whenKnown_some.1 hn
        refine .bind (hadd name v w made made' hvw hmade) fun m m' _ _ hm => ?_
        exact (ih hm.1).mono fun _ _ hrest hS => hrest (hm.2 hS)
      | none =>
        -- The key is unknown, so that the pair is taken in by the refined loop at most.
        match n' with
        | some name =>
          refine .bind_right fun m' hm' => ?_
          exact (ih (hskip name w made made' m' hmade hm')).discard.mono fun _ _ h _ => h
        | none => exact .bind (ih hmade) fun _ _ _ _ _ => .ok fun _ => whenKnown_none
    | some false =>
      obtain ⟨_, rfl, rfl⟩ := whenKnown_some.1 ha
      exact ih hmade
    | none =>
      -- The condition is unknown. Whatever it turns out to be, the rounds behind decide.
      match a' with
      | some true =>
        refine .bind_right fun w _ => .bind_right fun n' _ => ?_
        match n' with
        | some name =>
          refine .bind_right fun m' hm' => ?_
          exact (ih (hskip name w made made' m' hmade hm')).discard.mono fun _ _ h _ => h
        | none => exact .bind (ih hmade) fun _ _ _ _ _ => .ok fun _ => whenKnown_none
      | some false => exact (ih hmade).discard.mono fun _ _ h _ => h
      | none => exact .bind (ih hmade) fun _ _ _ _ _ => .ok fun _ => whenKnown_none

/-- A key that is taken already is taken in the refined loop as well. -/
theorem addUnique_refinedBy (o : Origin) (name : String) {v w : Value}
    {made made' : Fields Value} (hvw : v.RefinedBy w) (hmade : Fields.KeysIn made made') :
    Eval.RefinedBy
      (fun m m' => Fields.KeysIn m m' ∧
        (List.Forall₂ (Value.Keyed Value.RefinedBy) made made' →
          List.Forall₂ (Value.Keyed Value.RefinedBy) m m'))
      (addUnique o name v made) (addUnique o name w made') := by
  unfold addUnique
  by_cases hin : (Fields.get? name made').isSome
  · rw [if_pos hin]
    exact .error
  · rw [if_neg hin, if_neg (mt (hmade name) hin)]
    exact .ok ⟨hmade.set name v w, fun hS => Fields.forall₂_set hS name hvw⟩

theorem keysIn_of_addUnique (o : Origin) (name : String) (w : Value)
    {made made' m' : Fields Value} (hmade : Fields.KeysIn made made')
    (h : addUnique o name w made' = .ok m') : Fields.KeysIn made m' := by
  unfold addUnique at h
  split at h
  · cases h
  · cases h
    exact hmade.set_right name w

/-- Collecting the values of one key never fails. -/
theorem addGrouped_refinedBy (name : String) {v w : Value} {made made' : Fields (List Value)}
    (hvw : v.RefinedBy w) :
    Eval.RefinedBy
      (fun m m' => True ∧
        (List.Forall₂ (Value.Keyed (List.Forall₂ Value.RefinedBy)) made made' →
          List.Forall₂ (Value.Keyed (List.Forall₂ Value.RefinedBy)) m m'))
      (addGrouped name v made) (addGrouped name w made') := by
  refine .ok ⟨trivial, fun hS => Fields.forall₂_alter hS name ?_ ?_⟩
  · simpa using hvw
  · intro vs ws hvs
    exact List.rel_append hvs (.cons hvw .nil)

section Fields

variable {keep keep' : Value × Value → Eval (Option Bool)}
  {value value' : Value × Value → Eval Value} {key key' : Value × Value → Eval (Option String)}
  (h : List.Forall₂ (fun p q => RoundRefinedBy keep keep' value value' p q ∧
    (keep p = .ok (some true) → Eval.RefinedBy (WhenKnown Eq) (key p) (key' q))) ps qs)

include h

/-- The invariant where each key may come once is that every key taken is taken in both loops. -/
theorem fields_addUnique_refinedBy (o : Origin) :
    Eval.RefinedBy (WhenKnown (List.Forall₂ (Value.Keyed Value.RefinedBy)))
      (fields keep value key (addUnique o) [] ps)
      (fields keep' value' key' (addUnique o) [] qs) := by
  have hkeys : Fields.KeysIn ([] : Fields Value) ([] : Fields Value) := fun _ h => h
  have hfields := fields_refinedBy
    (fun name _ _ _ _ hvw hmade => addUnique_refinedBy o name hvw hmade)
    (fun name w _ _ _ => keysIn_of_addUnique o name w) h hkeys
  exact hfields.mono fun _ _ hrel => hrel .nil

/-- Where values are collected there is nothing that could fail, and so no invariant to keep. -/
theorem fields_addGrouped_refinedBy :
    Eval.RefinedBy (WhenKnown (List.Forall₂ (Value.Keyed (List.Forall₂ Value.RefinedBy))))
      (fields keep value key addGrouped [] ps) (fields keep' value' key' addGrouped [] qs) := by
  refine Eval.RefinedBy.mono (fields_refinedBy (T := fun _ _ => True)
    (fun name _ _ _ _ hvw _ => addGrouped_refinedBy name hvw) (fun _ _ _ _ _ h _ => h) h trivial)
    fun _ _ hrel => hrel .nil

end Fields

end Loop

end ResourceTables
