import ResourceTables.Proofs.Decimal.Positional
import ResourceTables.Proofs.Grouping.Groups
import ResourceTables.Proofs.Refinement.Operations

/-!
# Equality

Two values are equal if both are null, if they are one text, number or truth value, or if their
parts are equal. Nulls need not be of one kind, and numbers not be written alike. Of wholly known
values this is an equivalence, so it does not matter to `==` and `!=` which operand comes first.

* `Value.ByParts`: a relation that tuples and objects have when their parts have it;
* `Value.equals_induction`: equal values have every such relation;
* `Value.equals_refl`, `Value.equals_symm`, `Value.equals_trans`: equality is an equivalence;
* `Value.Same`: equality told by the fields that are found under each name;
* `Value.equals_iff_same`: this is what is computed, as the fields of an object are sorted;
* `BinaryOp.applyEquality_comm`, `BinaryOp.applyEquality_eq_unknown_iff`: the operators on values;
* `Expr.evaluate_equality`: the laws of equality for expressions.
-/

namespace ResourceTables

/-! ## Fields under names -/

namespace Fields

variable {R : α → β → Prop} {fs : Fields α} {gs : Fields β} {name : String}

/-- A name up to the first one is not found behind it. -/
theorem Sorted.get?_eq_none {f : String × α} (h : Sorted (f :: fs)) (hle : name ≤ f.1) :
    get? name fs = none := by
  refine Option.eq_none_iff_forall_ne_some.2 fun a ha => ?_
  have hrest : Sorted fs := h.of_cons
  have hlt : f.1 < name := List.rel_of_pairwise_cons h (hrest.get?_eq_some_iff.1 ha)
  exact hle.not_gt hlt

/-- The first name comes before all that are found. -/
theorem Sorted.le_of_isSome_get? {f : String × α} (h : Sorted (f :: fs))
    (hname : (get? name (f :: fs)).isSome) : f.1 ≤ name := by
  refine le_of_not_gt fun hlt => ?_
  rw [get?, if_neg hlt.ne, h.get?_eq_none hlt.le] at hname
  cases hname

/-- If the same names are found in sorted fields, with related values, the fields are related one by
one. -/
theorem Sorted.forall₂_of_get? (hf : Sorted fs) (hg : Sorted gs)
    (hnames : ∀ name, (get? name fs).isSome = (get? name gs).isSome)
    (h : ∀ name a b, get? name fs = some a → get? name gs = some b → R a b) :
    List.Forall₂ (Value.Keyed R) fs gs := by
  induction fs generalizing gs with
  | nil =>
    cases gs with
    | nil => exact .nil
    | cons g gs => simpa [get?] using hnames g.1
  | cons f fs ih =>
    cases gs with
    | nil => simpa [get?] using hnames f.1
    | cons g gs =>
      obtain ⟨k, a⟩ := f
      obtain ⟨l, b⟩ := g
      -- Both first names are found on both sides, and so neither comes before the other.
      obtain rfl : k = l := by
        refine le_antisymm (hf.le_of_isSome_get? ?_) (hg.le_of_isSome_get? ?_)
        · rw [hnames]
          simp [get?]
        · rw [← hnames]
          simp [get?]
      have hab : R a b := h k a b (by simp [get?]) (by simp [get?])
      refine .cons ⟨rfl, hab⟩ (ih hf.of_cons hg.of_cons (fun name => ?_) fun name c d hc hd => ?_)
      · by_cases hname : name = k
        · rw [hf.get?_eq_none hname.le, hg.get?_eq_none hname.le]
          rfl
        · simpa [get?, hname] using hnames name
      · have hname : name ≠ k := by
          rintro rfl
          rw [hf.get?_eq_none le_rfl] at hc
          cases hc
        exact h name c d (by simpa [get?, hname] using hc) (by simpa [get?, hname] using hd)

end Fields

namespace Value

variable {u v w : Value}

/-! ## Equal parts -/

theorem allEqual_iff {vs ws : List Value} :
    allEqual vs ws = true ↔ List.Forall₂ (fun v w => v.equals w = true) vs ws := by
  induction vs generalizing ws with
  | nil => cases ws <;> simp [allEqual]
  | cons v vs ih => cases ws <;> simp [allEqual, ih]

theorem fieldsEqual_iff {fs gs : List (String × Value)} :
    fieldsEqual fs gs = true ↔ List.Forall₂ (Keyed fun v w => v.equals w = true) fs gs := by
  induction fs generalizing gs with
  | nil => cases gs <;> simp [fieldsEqual]
  | cons f fs ih => cases gs <;> simp [fieldsEqual, ih, Keyed]

theorem equals_tuple {vs : List Value} :
    (tuple vs).equals w = true ↔
      ∃ ws, w = tuple ws ∧ List.Forall₂ (fun v w => v.equals w = true) vs ws := by
  cases w <;> simp [equals, allEqual_iff]

theorem equals_object {fs : List (String × Value)} :
    (object fs).equals w = true ↔
      ∃ gs, w = object gs ∧ List.Forall₂ (Keyed fun v w => v.equals w = true) fs gs := by
  cases w <;> simp [equals, fieldsEqual_iff]

@[simp]
theorem equals_null {k : ValueKind} : (null k).equals w = true ↔ ∃ l, w = null l := by
  cases w <;> simp [equals]

@[simp]
theorem equals_string {s : String} : (string s).equals w = true ↔ w = string s := by
  cases w <;> simp [equals, @eq_comm _ s]

@[simp]
theorem equals_bool {b : Bool} : (bool b).equals w = true ↔ w = bool b := by
  cases w <;> simp [equals, @eq_comm _ b]

@[simp]
theorem equals_number {d : Decimal} :
    (number d).equals w = true ↔ ∃ e, w = number e ∧ d.value = e.value := by
  cases w <;> simp [equals, Decimal.sameAs_iff]

@[simp]
theorem equals_unknown {k : ValueKind} : (unknown k).equals w = false := by
  cases w <;> simp [equals]

/-! ## Induction over equal values -/

/-- The relation holds of equal values without parts, and of tuples and objects when it holds part
by part. -/
structure ByParts (P : Value → Value → Prop) : Prop where
  /-- Nulls of all kinds are related. -/
  null : ∀ k l, P (null k) (null l)
  /-- A text is related to itself. -/
  string : ∀ s, P (string s) (string s)
  /-- A number is related to the same number, however it is written. -/
  number : ∀ d e : Decimal, d.value = e.value → P (number d) (number e)
  /-- A truth value is related to itself. -/
  bool : ∀ b, P (bool b) (bool b)
  /-- Tuples are related when their elements are. -/
  tuple : ∀ vs ws, List.Forall₂ P vs ws → P (tuple vs) (tuple ws)
  /-- Objects are related when they have the same names, with related values. -/
  object : ∀ fs gs, List.Forall₂ (Keyed P) fs gs → P (object fs) (object gs)

mutual

/-- Equal values have every relation that goes by parts. -/
theorem equals_induction {P : Value → Value → Prop} (hP : ByParts P) (v w : Value)
    (h : v.equals w = true) : P v w := by
  -- The induction is on the first value alone, which leaves one shape for the second.
  match v with
  | unknown k => simp at h
  | null k =>
    obtain ⟨l, rfl⟩ := equals_null.1 h
    exact hP.null k l
  | string s =>
    obtain rfl := equals_string.1 h
    exact hP.string s
  | number d =>
    obtain ⟨e, rfl, hvalue⟩ := equals_number.1 h
    exact hP.number d e hvalue
  | bool b =>
    obtain rfl := equals_bool.1 h
    exact hP.bool b
  | tuple vs =>
    obtain ⟨ws, rfl, hvs⟩ := equals_tuple.1 h
    exact hP.tuple vs ws (forall₂_of_equals hP vs ws hvs)
  | object fs =>
    obtain ⟨gs, rfl, hfs⟩ := equals_object.1 h
    exact hP.object fs gs (forall₂_keyed_of_equals hP fs gs hfs)

private theorem forall₂_of_equals {P : Value → Value → Prop} (hP : ByParts P) (vs ws : List Value)
    (h : List.Forall₂ (fun v w => v.equals w = true) vs ws) : List.Forall₂ P vs ws := by
  match vs, h with
  | [], .nil => exact .nil
  | v :: vs, .cons hv hvs =>
    exact .cons (equals_induction hP v _ hv) (forall₂_of_equals hP vs _ hvs)

private theorem forall₂_keyed_of_equals {P : Value → Value → Prop} (hP : ByParts P)
    (fs gs : List (String × Value))
    (h : List.Forall₂ (Keyed fun v w => v.equals w = true) fs gs) :
    List.Forall₂ (Keyed P) fs gs := by
  match fs, h with
  | [], .nil => exact .nil
  | (_, v) :: fs, .cons ⟨hname, hv⟩ hfs =>
    exact .cons ⟨hname, equals_induction hP v _ hv⟩ (forall₂_keyed_of_equals hP fs _ hfs)

end

/-! ## An equivalence -/

mutual

theorem equals_refl (v : Value) (h : v.whollyKnown) : v.equals v = true := by
  match v with
  | unknown k => simp [whollyKnown] at h
  | null _ | string _ | number _ | bool _ => simp
  | tuple vs =>
    rw [whollyKnown] at h
    exact allEqual_refl vs h
  | object fs =>
    rw [whollyKnown] at h
    exact fieldsEqual_refl fs h

private theorem allEqual_refl (vs : List Value) (h : allWhollyKnown vs) :
    allEqual vs vs = true := by
  match vs with
  | [] => rfl
  | v :: vs =>
    simp only [allWhollyKnown, Bool.and_eq_true] at h
    simp [allEqual, equals_refl v h.1, allEqual_refl vs h.2]

private theorem fieldsEqual_refl (fs : List (String × Value)) (h : fieldsWhollyKnown fs) :
    fieldsEqual fs fs = true := by
  match fs with
  | [] => rfl
  | (_, v) :: fs =>
    simp only [fieldsWhollyKnown, Bool.and_eq_true] at h
    simp [fieldsEqual, equals_refl v h.1, fieldsEqual_refl fs h.2]

end

theorem byParts_flip : ByParts fun v w => w.equals v = true where
  null := by simp
  string := by simp
  number _ _ hvalue := by simp [hvalue]
  bool := by simp
  tuple vs _ hvs := equals_tuple.2 ⟨vs, rfl, hvs.flip⟩
  object fs _ hfs :=
    equals_object.2 ⟨fs, rfl, List.Forall₂.flip (hfs.imp fun _ _ h => ⟨h.1.symm, h.2⟩)⟩

theorem equals_symm (h : v.equals w = true) : w.equals v = true :=
  equals_induction byParts_flip v w h

/-- It goes by parts that what equals the second value equals the first. -/
theorem byParts_trans : ByParts fun u v => ∀ w, v.equals w = true → u.equals w = true where
  null := by simp
  string := by simp
  number _ _ hvalue := by simp [hvalue]
  bool := by simp
  tuple us vs hus w hw := by
    obtain ⟨ws, rfl, hws⟩ := equals_tuple.1 hw
    refine equals_tuple.2 ⟨ws, rfl, List.forall₂_iff_get.2
      ⟨hus.length_eq.trans hws.length_eq, fun i hi hk => ?_⟩⟩
    -- At each place, the element between the two is equal to both.
    have hj : i < vs.length := hus.length_eq ▸ hi
    exact hus.get hi hj _ (hws.get hj hk)
  object fs gs hfs w hw := by
    obtain ⟨es, rfl, hes⟩ := equals_object.1 hw
    refine equals_object.2 ⟨es, rfl, List.forall₂_iff_get.2
      ⟨hfs.length_eq.trans hes.length_eq, fun i hi hk => ?_⟩⟩
    have hj : i < gs.length := hfs.length_eq ▸ hi
    obtain ⟨hname, hequals⟩ := hfs.get hi hj
    obtain ⟨hname', hvalue⟩ := hes.get hj hk
    exact ⟨hname.trans hname', hequals _ hvalue⟩

theorem equals_trans (huv : u.equals v = true) (hvw : v.equals w = true) : u.equals w = true :=
  equals_induction byParts_trans u v huv w hvw

theorem equals_comm (v w : Value) : v.equals w = w.equals v :=
  Bool.eq_iff_iff.2 ⟨equals_symm, equals_symm⟩

/-! ## Equality by names -/

/-- The values say the same: they are both null, or one text, number or truth value, or they have
equal elements at each place, or equal fields under each name. -/
inductive Same : Value → Value → Prop
  | null {k l} : Same (null k) (null l)
  | string {s} : Same (string s) (string s)
  | number {d e : Decimal} (h : d.value = e.value) : Same (number d) (number e)
  | bool {b} : Same (bool b) (bool b)
  | tuple {vs ws : List Value} (hlength : vs.length = ws.length)
      (h : ∀ p ∈ vs.zip ws, Same p.1 p.2) : Same (tuple vs) (tuple ws)
  | object {fs gs : List (String × Value)}
      (hnames : ∀ name, (Fields.get? name fs).isSome = (Fields.get? name gs).isSome)
      (h : ∀ name v w, Fields.get? name fs = some v → Fields.get? name gs = some w → Same v w) :
      Same (object fs) (object gs)

theorem byParts_same : ByParts Same where
  null _ _ := .null
  string _ := .string
  number _ _ hvalue := .number hvalue
  bool _ := .bool
  tuple vs ws hvs := by
    obtain ⟨hlength, hzip⟩ := List.forall₂_iff_zip.1 hvs
    exact .tuple hlength fun p hp => hzip hp
  object fs gs hfs := by
    refine .object (fun name => ?_) fun name v w hv hw => ?_
    · have hrel := Fields.rel_get? hfs name
      generalize Fields.get? name fs = x, Fields.get? name gs = y at hrel
      cases hrel <;> rfl
    · have hrel := Fields.rel_get? hfs name
      rw [hv, hw] at hrel
      cases hrel with
      | some hvw => exact hvw

/-- In which order fields are listed does not matter, because they are sorted. -/
theorem Same.equals (h : v.Same w) (hv : v.Ordered) (hw : w.Ordered) : v.equals w = true := by
  induction h with
  | null | string | bool => simp
  | number hvalue => simp [hvalue]
  | @tuple vs ws hlength _ ih =>
    cases hv with
    | tuple hvs =>
      cases hw with
      | tuple hws =>
        refine equals_tuple.2 ⟨ws, rfl, List.forall₂_iff_zip.2 ⟨hlength, fun {v w} hp => ?_⟩⟩
        exact ih (v, w) hp (hvs v (List.of_mem_zip hp).1) (hws w (List.of_mem_zip hp).2)
  | @object fs gs hnames _ ih =>
    cases hv with
    | object hsorted hfs =>
      cases hw with
      | object hsorted' hgs =>
        refine equals_object.2 ⟨gs, rfl, hsorted.forall₂_of_get? hsorted' hnames ?_⟩
        intro name v w hf hg
        exact ih name v w hf hg (Fields.of_get? hfs hf) (Fields.of_get? hgs hg)

theorem equals_iff_same (hv : v.Ordered) (hw : w.Ordered) : v.equals w = true ↔ v.Same w :=
  ⟨equals_induction byParts_same v w, fun h => h.equals hv hw⟩

theorem equals_equivalence :
    Equivalence fun v w : {v : Value // v.whollyKnown} => v.1.equals w.1 = true where
  refl v := equals_refl v.1 v.2
  symm := equals_symm
  trans := equals_trans

end Value

/-! ## The operators -/

namespace BinaryOp

variable {v w : Value}

theorem applyEquality_comm (opposite : Bool) (v w : Value) :
    applyEquality opposite v w = applyEquality opposite w v := by
  rw [applyEquality, applyEquality, Bool.and_comm, Value.equals_comm]

theorem applyEquality_of_whollyKnown (opposite : Bool) (hv : v.whollyKnown) (hw : w.whollyKnown) :
    applyEquality opposite v w = .bool (v.equals w != opposite) := by
  rw [applyEquality, hv, hw]
  rfl

theorem applyEquality_eq_unknown_iff (opposite : Bool) :
    applyEquality opposite v w = .unknown .bool ↔
      v.whollyKnown = false ∨ w.whollyKnown = false := by
  rw [← Bool.and_eq_false_iff]
  unfold applyEquality
  split <;> simp_all

end BinaryOp

namespace Expr

theorem evaluate_binary {a b : Expr} {s : Scope} {v w : Value} (o : Origin) (op : BinaryOp)
    (ha : a.evaluate s = .ok v) (hb : b.evaluate s = .ok w) :
    (binary o op a b).evaluate s = op.apply v w a.origin b.origin o := by
  rw [evaluate, ha, hb]
  rfl

/-- It does not matter to `==` which operand comes first, and `!=` is the opposite of it. -/
theorem evaluate_equality :
    -- Of wholly known values equality is an equivalence.
    (Equivalence fun v w : {v : Value // v.whollyKnown} => v.1.equals w.1 = true) ∧
    -- The fields of objects are compared by name, in whatever order they are written.
    (∀ v w : Value, v.Ordered → w.Ordered → (v.equals w = true ↔ v.Same w)) ∧
    -- If both operands have values so do the operators, which are unknown exactly if one of the
    -- operands is not wholly known.
    ∀ (a b : Expr) (s : Scope) (v w : Value), a.evaluate s = .ok v → b.evaluate s = .ok w →
      ∀ o o' o'', ∃ equal differ,
        (binary o .eq a b).evaluate s = .ok equal ∧
        (binary o' .eq b a).evaluate s = .ok equal ∧
        (binary o'' .ne a b).evaluate s = .ok differ ∧
        (v.whollyKnown → w.whollyKnown →
          equal = .bool (v.equals w) ∧ differ = .bool !(v.equals w)) ∧
        (equal = .unknown .bool ↔ v.whollyKnown = false ∨ w.whollyKnown = false) ∧
        (differ = .unknown .bool ↔ v.whollyKnown = false ∨ w.whollyKnown = false) := by
  refine ⟨Value.equals_equivalence, fun v w => Value.equals_iff_same, ?_⟩
  intro a b s v w ha hb o o' o''
  refine ⟨BinaryOp.applyEquality false v w, BinaryOp.applyEquality true v w,
    evaluate_binary o .eq ha hb, ?_, evaluate_binary o'' .ne ha hb, fun hv hw => ?_,
    BinaryOp.applyEquality_eq_unknown_iff false, BinaryOp.applyEquality_eq_unknown_iff true⟩
  · rw [BinaryOp.applyEquality_comm]
    exact evaluate_binary o' .eq hb ha
  · simp [BinaryOp.applyEquality_of_whollyKnown _ hv hw]

/-- With a null text for `x`, `{k = [x, 1.50], j = true}` equals `{j = true, k = [null, 1.5]}`. -/
theorem evaluate_equality_nested :
    let yes := literal default (.bool true)
    let a := object default [.mk (.variable default "k") (.tuple default
      [.variable default "x", .literal default (.number ⟨false, 150, -2⟩)]),
      .mk (.variable default "j") yes]
    let b := object default [.mk (.variable default "j") yes,
      .mk (.variable default "k") (.tuple default
        [.literal default .null, .literal default (.number ⟨false, 15, -1⟩)])]
    let s := Scope.empty.bind "x" (.null .string)
    ∃ v w, a.evaluate s = .ok v ∧ b.evaluate s = .ok w ∧ v.Same w ∧
      (binary default .eq a b).evaluate s = .ok (.bool true) ∧
      (binary default .eq b a).evaluate s = .ok (.bool true) ∧
      (binary default .ne a b).evaluate s = .ok (.bool false) := by
  intro yes a b s
  let v : Value :=
    .object [("j", .bool true), ("k", .tuple [.null .string, .number ⟨false, 150, -2⟩])]
  let w : Value :=
    .object [("j", .bool true), ("k", .tuple [.null .dynamic, .number ⟨false, 15, -1⟩])]
  have ha : a.evaluate s = .ok v := by cbv
  have hb : b.evaluate s = .ok w := by cbv
  have hs : s.Ordered := Scope.Ordered.bind (fun _ _ h => by cases h) "x" .null
  have hv : v.Ordered := a.ensures_ordered s hs v ha
  have hw : w.Ordered := b.ensures_ordered s hs w hb
  have hvw : v.equals w = true := by decide +kernel
  -- The values are the same, so what the operators give need not be evaluated.
  obtain ⟨-, hsame, hoperators⟩ := evaluate_equality
  obtain ⟨equal, differ, heq, heq', hne, hknown, -⟩ :=
    hoperators a b s v w ha hb default default default
  obtain ⟨rfl, rfl⟩ := hknown (by decide +kernel) (by decide +kernel)
  rw [hvw] at heq heq' hne
  exact ⟨v, w, ha, hb, (hsame v w hv hw).1 hvw, heq, heq', hne⟩

end Expr

end ResourceTables
