import ResourceTables.Proofs.Grouping.Ordered

/-!
# Grouping and plain loops

A loop that makes an object yields a pair for each item that its condition keeps. With grouping the
values of one key are collected, and without it a key may come once.

* `Loop.Yields`: the pairs that the rounds of a loop yield, in the order of the rounds;
* `Loop.Groups`: the values of all pairs, grouped by key;
* `Loop.addAll_unique`: what grouping makes decides what comes of the same pairs without it;
* `Expr.evaluate_grouping`: the groups hold one value for each item that is kept, and where each
  group has one value, the plain loop gives each key this value; otherwise it fails.
-/

namespace ResourceTables

namespace Fields

variable {fields : Fields α} {name : String} {a : α}

/-- In sorted fields, looking a name up finds its only field. -/
theorem Sorted.get?_eq_some_iff (h : Sorted fields) :
    get? name fields = some a ↔ (name, a) ∈ fields := by
  induction fields with
  | nil => simp [get?]
  | cons f fields ih =>
    obtain ⟨k, b⟩ := f
    rw [get?, List.mem_cons, Prod.mk.injEq]
    split
    · next hk =>
      subst hk
      -- No other field can have the name, which comes before all of them.
      have hrest : (name, a) ∉ fields := fun hmem =>
        String.lt_irrefl name (List.rel_of_pairwise_cons h hmem)
      simp [hrest, eq_comm]
    · next hk => simp [hk, ih h.of_cons]

/-- A change is found under its own name, and all else under the others. -/
theorem Sorted.get?_alter (h : Sorted fields) (f : Option α → α) (name n : String) :
    get? n (Fields.alter f name fields) = if n = name then some (f (get? name fields))
      else get? n fields := by
  fun_induction Fields.alter f name fields with
  | case1 => simp [get?]
  | case2 v rest => by_cases hn : n = name <;> simp [get?, hn]
  -- Names are sorted, so from a larger one on the name is not found.
  | case3 k v rest hne hlt =>
    have hnone : get? name rest = none := by
      rw [Option.eq_none_iff_forall_ne_some]
      intro b hb
      have hrest : Sorted rest := h.of_cons
      have hmem := hrest.get?_eq_some_iff.1 hb
      exact String.lt_asymm hlt (List.rel_of_pairwise_cons h hmem)
    by_cases hn : n = name
    · simp [get?, hn, hne, hnone]
    · simp [get?, hn]
  | case4 k v rest hne hlt ih =>
    by_cases hn : n = k
    · simp [get?, hn, Ne.symm hne]
    · simp [get?, hn, hne, ih h.of_cons]

/-- The values of the pairs with the given name, as they come. -/
def valuesOf (name : String) (pairs : List (String × α)) : List α :=
  (pairs.filter fun p => p.1 = name).map Prod.snd

theorem valuesOf_append (name : String) (pairs : List (String × α)) (n : String) (a : α) :
    valuesOf name (pairs ++ [(n, a)]) = valuesOf name pairs ++ if name = n then [a] else [] := by
  by_cases h : name = n
  · simp [valuesOf, h]
  · simp [valuesOf, h, Ne.symm h]

/-- A group of its own for each field. -/
def alone (fields : Fields α) : Fields (List α) :=
  fields.map fun (name, a) => (name, [a])

theorem get?_map (f : α → β) (name : String) (fields : Fields α) :
    get? name (fields.map fun (n, a) => (n, f a)) = (get? name fields).map f := by
  induction fields with
  | nil => rfl
  | cons p fields ih =>
    rw [List.map_cons, get?, get?]
    split
    · rfl
    · exact ih

theorem get?_alone (name : String) (fields : Fields α) :
    get? name (alone fields) = (get? name fields).map fun a => [a] :=
  get?_map (fun a => [a]) name fields

end Fields

namespace Loop

variable {keep : Value × Value → Eval (Option Bool)} {value : Value × Value → Eval Value}
  {key : Value × Value → Eval (Option String)} {items : List (Value × Value)}
  {pairs : List (String × Value)} {groups : Fields (List Value)}

/-! ## Pairs -/

/-- The items whose condition is true yield pairs of a key and a value, one each and in order, and
the others are left out, for which it is false. -/
inductive Yields (keep : Value × Value → Eval (Option Bool)) (value : Value × Value → Eval Value)
    (key : Value × Value → Eval (Option String)) :
    List (Value × Value) → List (String × Value) → Prop
  | nil : Yields keep value key [] []
  | skip {item items pairs} (hkeep : keep item = .ok (some false))
      (hrest : Yields keep value key items pairs) : Yields keep value key (item :: items) pairs
  | take {item items pairs v name} (hkeep : keep item = .ok (some true))
      (hvalue : value item = .ok v) (hkey : key item = .ok (some name))
      (hrest : Yields keep value key items pairs) :
      Yields keep value key (item :: items) ((name, v) :: pairs)

/-- What a loop makes of its items is what it makes of the pairs that they yield. -/
theorem Yields.fields_eq (h : Yields keep value key items pairs)
    (add : String → Value → α → Eval α) (made : α) :
    fields keep value key add made items =
      (pairs.foldlM (fun made p => add p.1 p.2 made) made).map some := by
  induction h generalizing made with
  | nil => rfl
  | skip hkeep _ ih =>
    rw [fields, hkeep]
    exact ih made
  | @take item items pairs v name hkeep hvalue hkey _ ih =>
    rw [fields, hkeep, List.foldlM_cons]
    change value item >>= _ = _
    rw [hvalue]
    change key item >>= _ = _
    rw [hkey]
    change (add name v made >>= fun made => fields keep value key add made items) = _
    cases add name v made with
    | error e => rfl
    | ok made' => exact ih made'

/-- A loop that knows what it makes yields pairs. -/
theorem exists_yields {add : String → Value → α → Eval α} {made a : α}
    (h : fields keep value key add made items = .ok (some a)) :
    ∃ pairs, Yields keep value key items pairs := by
  induction items generalizing made with
  | nil => exact ⟨[], .nil⟩
  | cons item items ih =>
    rw [fields, bind_eq_ok_iff] at h
    obtain ⟨kept, hkeep, h⟩ := h
    -- Whether an item is kept, and under which name, is known, or the loop would know less.
    match kept with
    | some false =>
      obtain ⟨pairs, hpairs⟩ := ih h
      exact ⟨pairs, .skip hkeep hpairs⟩
    | some true =>
      obtain ⟨v, hvalue, h⟩ := bind_eq_ok_iff.1 h
      obtain ⟨name, hkey, h⟩ := bind_eq_ok_iff.1 h
      match name with
      | some name =>
        obtain ⟨made', -, h⟩ := bind_eq_ok_iff.1 h
        obtain ⟨pairs, hpairs⟩ := ih h
        exact ⟨(name, v) :: pairs, .take hkeep hvalue hkey hpairs⟩
      | none =>
        obtain ⟨_, -, h⟩ := bind_eq_ok_iff.1 h
        cases h
    | none =>
      obtain ⟨_, -, h⟩ := bind_eq_ok_iff.1 h
      cases h

/-! ## Groups -/

/-- The values of all pairs, grouped by name. -/
structure Groups (pairs : List (String × Value)) (groups : Fields (List Value)) : Prop where
  /-- The groups come in the order of their names, each once. -/
  sorted : Fields.Sorted groups
  /-- The group of a name holds the values of its pairs as they come, and there is none for a name
  without pairs. -/
  mem_iff : ∀ name vs, (name, vs) ∈ groups ↔ vs = Fields.valuesOf name pairs ∧ vs ≠ []
  /-- All groups together hold the values of all pairs. -/
  perm : (groups.flatMap fun g => g.2.map fun v => (g.1, v)).Perm pairs

theorem groups_nil : Groups [] [] :=
  ⟨Fields.sorted_nil, by simp [Fields.valuesOf], by simp⟩

/-- The group of a name, if it has one, holds the values of its pairs. -/
theorem Groups.getD_get? (h : Groups pairs groups) (name : String) :
    (Fields.get? name groups).getD [] = Fields.valuesOf name pairs := by
  cases hget : Fields.get? name groups with
  | some vs => exact ((h.mem_iff name vs).1 (h.sorted.get?_eq_some_iff.1 hget)).1
  | none =>
    by_cases hnil : Fields.valuesOf name pairs = []
    · exact hnil.symm
    · have hmem := (h.mem_iff name _).2 ⟨rfl, hnil⟩
      rw [← h.sorted.get?_eq_some_iff, hget] at hmem
      cases hmem

/-- One more value in its group is one more value in all. -/
theorem perm_alter_grouped (name : String) (v : Value) (groups : Fields (List Value)) :
    ((Fields.alter (fun vs => vs.getD [] ++ [v]) name groups).flatMap
      fun g => g.2.map fun v => (g.1, v)).Perm
      ((groups.flatMap fun g => g.2.map fun v => (g.1, v)) ++ [(name, v)]) := by
  fun_induction Fields.alter (fun vs => vs.getD [] ++ [v]) name groups with
  | case1 => simp
  | case2 vs rest =>
    simp only [List.flatMap_cons, Option.getD_some, List.map_append, List.append_assoc]
    exact List.perm_append_comm.append_left _
  | case3 k vs rest =>
    rw [List.flatMap_cons]
    exact List.perm_append_comm
  | case4 k vs rest _ _ ih =>
    rw [List.flatMap_cons, List.flatMap_cons, List.append_assoc]
    exact ih.append_left _

/-- Taking a pair in keeps the values of all pairs grouped. -/
theorem Groups.addGrouped (h : Groups pairs groups) (name : String) (v : Value) :
    Ensures (Groups (pairs ++ [(name, v)])) (addGrouped name v groups) := by
  refine .ok ⟨h.sorted.alter _ name, fun n vs => ?_, ?_⟩
  -- In sorted fields membership is lookup, which tells the changed group from the others.
  · rw [← (h.sorted.alter _ name).get?_eq_some_iff, h.sorted.get?_alter, h.getD_get?,
      Fields.valuesOf_append]
    by_cases hn : n = name
    · subst hn
      simp only [if_pos, Option.some.injEq]
      constructor
      · rintro rfl
        exact ⟨rfl, by simp⟩
      · exact fun hvs => hvs.1.symm
    · rw [if_neg hn, if_neg hn, List.append_nil, h.sorted.get?_eq_some_iff]
      exact h.mem_iff n vs
  · exact (perm_alter_grouped name v groups).trans (h.perm.append_right _)

/-- Grouping groups the values of all pairs. -/
theorem ensures_groups (pairs : List (String × Value)) :
    Ensures (Groups pairs)
      (pairs.foldlM (fun made p => Loop.addGrouped p.1 p.2 made) []) :=
  Ensures.foldlM_taken (fun _ _ p _ h => h.addGrouped p.1 p.2) groups_nil

/-! ## Without grouping -/

/-- The first value of a name makes a group of its own. -/
theorem alter_alone {made : Fields Value} {name : String} (v : Value)
    (h : Fields.get? name made = none) :
    Fields.alter (fun vs => vs.getD [] ++ [v]) name (Fields.alone made) =
      Fields.alone (Fields.set name v made) := by
  induction made with
  | nil => rfl
  | cons f made ih =>
    obtain ⟨k, w⟩ := f
    rw [Fields.get?] at h
    split at h
    · cases h
    · next hk =>
      rw [Fields.alone, Fields.set, List.map_cons, Fields.alter, Fields.alter, if_neg hk, if_neg hk]
      split
      · rfl
      · exact congrArg ((k, [w]) :: ·) (ih h)

/-- A group with more than one value. -/
def Shared (name : String) (groups : Fields (List Value)) : Prop :=
  ∃ vs, (name, vs) ∈ groups ∧ 1 < vs.length

/-- A group does not lose values when another one is taken in. -/
theorem Shared.addGrouped {name : String} (h : Shared name groups) (n : String) (v : Value) :
    Ensures (Shared name) (addGrouped n v groups) := by
  obtain ⟨vs, hmem, hlength⟩ := h
  refine .ok ?_
  fun_induction Fields.alter (fun vs => vs.getD [] ++ [v]) n groups with
  | case1 => cases hmem
  | case2 ws rest =>
    rcases List.mem_cons.1 hmem with heq | hmem
    · cases heq
      exact ⟨vs ++ [v], List.mem_cons_self, by simp; omega⟩
    · exact ⟨vs, List.mem_cons_of_mem _ hmem, hlength⟩
  | case3 k ws rest => exact ⟨vs, List.mem_cons_of_mem _ hmem, hlength⟩
  | case4 k ws rest _ _ ih =>
    rcases List.mem_cons.1 hmem with heq | hmem
    · exact ⟨vs, heq ▸ List.mem_cons_self, hlength⟩
    · obtain ⟨us, hus, hlong⟩ := ih hmem
      exact ⟨us, List.mem_cons_of_mem _ hus, hlong⟩

/-- A second value of a name is in one group with the first. -/
theorem shared_alter_alone {made : Fields Value} {name : String} (v : Value)
    (h : (Fields.get? name made).isSome) (hsorted : Fields.Sorted made) :
    Shared name (Fields.alter (fun vs => vs.getD [] ++ [v]) name (Fields.alone made)) := by
  obtain ⟨w, hw⟩ := Option.isSome_iff_exists.1 h
  have halone : Fields.Sorted (Fields.alone made) := hsorted.map fun w => [w]
  refine ⟨[w, v], ?_, by simp⟩
  rw [← (halone.alter _ name).get?_eq_some_iff, halone.get?_alter, if_pos rfl, Fields.get?_alone,
    hw]
  rfl

/-- Where no name has two values, each gets its value without grouping too. Otherwise there is a
name with several values for which the loop fails. -/
theorem addAll_unique (o : Origin) (pairs : List (String × Value)) {made : Fields Value}
    (hmade : Fields.Sorted made)
    (hgroups : pairs.foldlM (fun made p => addGrouped p.1 p.2 made) (Fields.alone made) =
      .ok groups) :
    (∃ fields, pairs.foldlM (fun made p => addUnique o p.1 p.2 made) made = .ok fields ∧
        groups = Fields.alone fields) ∨
      ∃ name, pairs.foldlM (fun made p => addUnique o p.1 p.2 made) made =
          .error (.invalid o (.duplicateKey name)) ∧ Shared name groups := by
  induction pairs generalizing made with
  | nil =>
    cases hgroups
    exact .inl ⟨made, rfl, rfl⟩
  | cons p pairs ih =>
    obtain ⟨name, v⟩ := p
    rw [List.foldlM_cons] at hgroups
    rw [List.foldlM_cons, addUnique]
    change pairs.foldlM _ (Fields.alter _ name (Fields.alone made)) = _ at hgroups
    split
    · next hsome =>
      -- The group of the name already has two values here, and keeps them.
      have hshared := shared_alter_alone v hsome hmade
      refine .inr ⟨name, rfl, ?_⟩
      exact Ensures.foldlM (Q := Shared name) (fun _ h p _ => h.addGrouped p.1 p.2) hshared _
        hgroups
    · next hnone =>
      rw [Option.not_isSome_iff_eq_none] at hnone
      rw [alter_alone v hnone] at hgroups
      exact ih (hmade.set name v) hgroups

end Loop

/-! ## Loops -/

/-- The keys and elements of a collection in the order in which a loop takes them: those of a tuple
by their indices, and those of an object as its fields come. -/
inductive Value.Iterates : Value → List (Value × Value) → Prop
  | tuple (elements : List Value) :
    Iterates (.tuple elements) (elements.mapIdx fun i v => (.number (.ofNat i), v))
  | object (fields : Fields Value) :
    Iterates (.object fields) (fields.map fun (name, v) => (.string name, v))

theorem Value.iterates_of_elements {v : Value} {o : Origin} {items : List (Value × Value)}
    (h : v.elements o = .ok (some items)) : v.Iterates items := by
  cases v with
  | tuple elements =>
    cases h
    have hitems := Iterates.tuple elements
    rw [List.mapIdx_eq_zipIdx_map] at hitems
    exact hitems
  | object fields =>
    cases h
    exact .object fields
  | _ => cases h

/-- A loop that knows what it makes runs over a known collection. -/
theorem Loop.over_eq_ok_some {s : Scope} {collection : Expr} {a : α}
    {run : List (Value × Value) → Eval (Option α)}
    (h : Loop.over (collection.items s) run = .ok (some a)) :
    ∃ v items, collection.evaluate s = .ok v ∧ v.elements collection.origin = .ok (some items) ∧
      run items = .ok (some a) := by
  obtain ⟨items, hitems, hrun⟩ := bind_eq_ok_iff.1 h
  obtain ⟨v, hv, helements⟩ := bind_eq_ok_iff.1 hitems
  cases items with
  | none => cases hrun
  | some items => exact ⟨v, items, hv, helements, hrun⟩

/-- The value of a loop without grouping is made of the pairs that its rounds yield. -/
theorem Expr.evaluate_unique_of_yields (o : Origin) {vars : LoopVars} {collection key value : Expr}
    {cond : Option Expr} {s : Scope} {v : Value} {items : List (Value × Value)}
    {pairs : List (String × Value)} (hv : collection.evaluate s = .ok v)
    (helements : v.elements collection.origin = .ok (some items))
    (hyields : Loop.Yields (fun item => Expr.holds (Loop.bind vars s item) cond)
      (fun item => value.evaluate (Loop.bind vars s item)) (Loop.keyText s vars key) items pairs) :
    (Expr.forObject o vars collection key value cond false).evaluate s =
      (pairs.foldlM (fun made p => Loop.addUnique o p.1 p.2 made) []).map .object := by
  rw [evaluate_forObject_unique, Expr.items, hv]
  change (v.elements collection.origin >>= _) >>= _ = _
  rw [helements]
  change Loop.fields _ _ _ _ _ items >>= _ = _
  rw [hyields.fields_eq]
  cases pairs.foldlM (fun made p => Loop.addUnique o p.1 p.2 made) [] <;> rfl

/-- So is the value of a loop with grouping. -/
theorem Expr.evaluate_grouping_of_yields (o : Origin) {vars : LoopVars}
    {collection key value : Expr} {cond : Option Expr} {s : Scope} {v : Value}
    {items : List (Value × Value)} {pairs : List (String × Value)}
    (hv : collection.evaluate s = .ok v)
    (helements : v.elements collection.origin = .ok (some items))
    (hyields : Loop.Yields (fun item => Expr.holds (Loop.bind vars s item) cond)
      (fun item => value.evaluate (Loop.bind vars s item)) (Loop.keyText s vars key) items pairs) :
    (Expr.forObject o vars collection key value cond true).evaluate s =
      (pairs.foldlM (fun made p => Loop.addGrouped p.1 p.2 made) []).map fun groups =>
        .object (groups.map fun (name, vs) => (name, .tuple vs)) := by
  rw [evaluate_forObject_grouping, Expr.items, hv]
  change (v.elements collection.origin >>= _) >>= _ = _
  rw [helements]
  change Loop.fields _ _ _ _ _ items >>= _ = _
  rw [hyields.fields_eq]
  cases pairs.foldlM (fun made p => Loop.addGrouped p.1 p.2 made) [] <;> rfl

/-- Where a loop with grouping gives a known object, its groups hold one value for each item whose
condition is true, each group in the order of the items: of a tuple by index, of an object by name.
The same loop without grouping gives each key its value if each group has one value, and fails
otherwise. -/
theorem Expr.evaluate_grouping (o o' : Origin) (vars : LoopVars) (collection key value : Expr)
    (cond : Option Expr) (s : Scope) (object : Fields Value)
    (h : (Expr.forObject o vars collection key value cond true).evaluate s = .ok (.object object)) :
    ∃ v items pairs groups,
      (collection.evaluate s = .ok v ∧ v.Iterates items ∧ (s.Ordered → v.Ordered)) ∧
      Loop.Yields (fun item => Expr.holds (Loop.bind vars s item) cond)
        (fun item => value.evaluate (Loop.bind vars s item)) (Loop.keyText s vars key) items pairs ∧
      (Loop.Groups pairs groups ∧ object = groups.map fun (name, vs) => (name, .tuple vs)) ∧
      ((∀ g ∈ groups, g.2.length = 1) → ∃ fields,
        (Expr.forObject o' vars collection key value cond false).evaluate s =
          .ok (.object fields) ∧ groups = fields.map fun (name, v) => (name, [v])) ∧
      ((∃ g ∈ groups, g.2.length ≠ 1) → ∃ name vs, (name, vs) ∈ groups ∧ 1 < vs.length ∧
        (Expr.forObject o' vars collection key value cond false).evaluate s =
          .error (.invalid o' (.duplicateKey name))) := by
  rw [evaluate_forObject_grouping, bind_eq_ok_iff] at h
  obtain ⟨made, hmade, hobject⟩ := h
  match made with
  | none => cases hobject
  | some groups =>
    cases hobject
    obtain ⟨v, items, hv, helements, hrun⟩ := Loop.over_eq_ok_some hmade
    obtain ⟨pairs, hyields⟩ := Loop.exists_yields hrun
    rw [hyields.fields_eq, map_eq_ok_iff] at hrun
    obtain ⟨_, hgroups, hsame⟩ := hrun
    cases hsame
    -- Without grouping the rounds yield the same pairs.
    have hplain := evaluate_unique_of_yields o' hv helements hyields
    have hcases := Loop.addAll_unique o' pairs Fields.sorted_nil hgroups
    have hordered : s.Ordered → v.Ordered := fun hs => collection.ensures_ordered s hs v hv
    refine ⟨v, items, pairs, groups, ⟨hv, Value.iterates_of_elements helements, hordered⟩, hyields,
      ⟨Loop.ensures_groups pairs groups hgroups, rfl⟩, fun hsingle => ?_, fun hlong => ?_⟩
    · rcases hcases with ⟨fields, hfields, rfl⟩ | ⟨name, -, vs, hmem, hlength⟩
      · exact ⟨fields, by rw [hplain, hfields]; rfl, rfl⟩
      · exact absurd (hsingle _ hmem) (Nat.ne_of_gt hlength)
    · rcases hcases with ⟨fields, -, rfl⟩ | ⟨name, herror, vs, hmem, hlength⟩
      · obtain ⟨g, hg, hne⟩ := hlong
        obtain ⟨f, -, rfl⟩ := List.mem_map.1 hg
        exact absurd rfl hne
      · exact ⟨name, vs, hmem, hlength, by rw [hplain, herror]; rfl⟩

/-- `{for k, v in c : v => k...}` collects the keys of equal values, and without the dots there may be
none. -/
theorem Expr.evaluate_grouping_repeated :
    let loop := Expr.forObject default ⟨some "k", "v"⟩ (.variable default "c")
      (.variable default "v") (.variable default "k") none
    let s := Scope.empty.bind "c"
      (.object [("a", .string "x"), ("b", .string "y"), ("c", .string "x")])
    let object : Fields Value :=
      [("x", .tuple [.string "a", .string "c"]), ("y", .tuple [.string "b"])]
    (loop true).evaluate s = .ok (.object object) ∧
      ∃ groups : Fields (List Value), object = groups.map (fun (name, vs) => (name, .tuple vs)) ∧
        ∃ name vs, (name, vs) ∈ groups ∧ 1 < vs.length ∧
          (loop false).evaluate s = .error (.invalid default (.duplicateKey name)) := by
  intro loop s object
  have hgrouping : (loop true).evaluate s = .ok (.object object) := by rfl
  -- The first group has two values, so the other loop fails at it.
  obtain ⟨v, items, pairs, groups, -, -, ⟨-, hobject⟩, -, hlong⟩ :=
    evaluate_grouping default default _ _ _ _ _ s object hgrouping
  refine ⟨hgrouping, groups, hobject, hlong ?_⟩
  obtain ⟨g, rest, rfl, hfirst, -⟩ := List.map_eq_cons_iff.1 hobject.symm
  obtain ⟨name, vs⟩ := g
  cases hfirst
  exact ⟨_, List.mem_cons_self, by simp⟩

end ResourceTables
