import ResourceTables.Proofs.Refinement.Forms
import ResourceTables.Proofs.Knownness.Evaluate

/-!
# Objects in order

The fields of an object are kept sorted by name, so running over them goes by the names. Nothing
that is evaluated breaks this.

* `Fields.Sorted`: the names come in order, each once;
* `Value.Ordered`: the fields of every object in the value are sorted;
* `BinaryOp.Makes`, `UnaryOp.Makes`: what operators can make of any operands;
* `Expr.ensures_ordered`: where the values of all names are ordered, so is the value of an
  expression.
-/

namespace ResourceTables

namespace Fields

/-- The names come in order, each once. -/
def Sorted (fields : Fields α) : Prop :=
  fields.Pairwise fun f g => f.1 < g.1

variable {fields : Fields α} {name : String}

theorem sorted_nil : Sorted ([] : Fields α) :=
  .nil

/-- A change brings in no name but its own. -/
theorem name_mem_alter {f : Option α → α} {g : String × α} (hg : g ∈ alter f name fields) :
    g.1 = name ∨ ∃ a, (g.1, a) ∈ fields := by
  fun_induction alter f name fields with
  | case1 =>
    obtain rfl : g = (name, f none) := by simpa using hg
    exact .inl rfl
  | case2 v rest =>
    rcases List.mem_cons.1 hg with rfl | hmem
    · exact .inl rfl
    · exact .inr ⟨g.2, List.mem_cons_of_mem _ hmem⟩
  | case3 k v rest _ _ =>
    rcases List.mem_cons.1 hg with rfl | hmem
    · exact .inl rfl
    · exact .inr ⟨g.2, hmem⟩
  | case4 k v rest _ _ ih =>
    rcases List.mem_cons.1 hg with rfl | hmem
    · exact .inr ⟨v, List.mem_cons_self⟩
    · exact (ih hmem).imp_right fun ⟨a, ha⟩ => ⟨a, List.mem_cons_of_mem _ ha⟩

theorem Sorted.alter (h : Sorted fields) (f : Option α → α) (name : String) :
    Sorted (alter f name fields) := by
  fun_induction Fields.alter f name fields with
  | case1 => exact List.pairwise_singleton _ _
  | case2 v rest => exact h.of_cons.cons fun g hg => List.rel_of_pairwise_cons h hg
  | case3 k v rest _ hlt =>
    -- The new name comes before the first, and so before all others.
    refine h.cons fun g hg => ?_
    rcases List.mem_cons.1 hg with rfl | hmem
    · exact hlt
    · exact String.lt_trans hlt (List.rel_of_pairwise_cons h hmem)
  | case4 k v rest hne hlt ih =>
    refine (ih h.of_cons).cons fun g hg => ?_
    -- Behind the first name come the others and the new one, which is not before it.
    rcases name_mem_alter hg with heq | ⟨a, ha⟩
    · rw [heq]
      exact String.not_le.1 fun hle => hne (String.le_antisymm hle (String.not_lt.1 hlt))
    · have hlater : ∀ b ∈ rest, k < b.1 := fun b hb => List.rel_of_pairwise_cons h hb
      exact hlater (g.1, a) ha

theorem Sorted.set (h : Sorted fields) (name : String) (a : α) : Sorted (set name a fields) :=
  h.alter _ name

theorem Sorted.map (h : Sorted fields) (f : α → β) :
    Sorted (fields.map fun (name, a) => (name, f a)) :=
  List.Pairwise.map _ (fun _ _ hlt => hlt) h

end Fields

/-- The fields of every object in the value are sorted. -/
inductive Value.Ordered : Value → Prop
  | unknown {kind} : Ordered (.unknown kind)
  | null {kind} : Ordered (.null kind)
  | string {s} : Ordered (.string s)
  | number {d} : Ordered (.number d)
  | bool {b} : Ordered (.bool b)
  | tuple {items} (h : ∀ v ∈ items, Ordered v) : Ordered (.tuple items)
  | object {fields : List (String × Value)} (hsorted : Fields.Sorted fields)
      (h : ∀ f ∈ fields, Ordered f.2) : Ordered (.object fields)

/-- The names of the scope stand for ordered values. -/
def Scope.Ordered (s : Scope) : Prop :=
  ∀ name v, s name = some v → v.Ordered

theorem Scope.Ordered.bind {s : Scope} {v : Value} (hs : s.Ordered) (name : String)
    (hv : v.Ordered) : (s.bind name v).Ordered := by
  intro n w hw
  unfold Scope.bind at hw
  split at hw
  · cases hw
    exact hv
  · exact hs n w hw

theorem Scope.Ordered.loopBind {s : Scope} {p : Value × Value} (hs : s.Ordered) (vars : LoopVars)
    (hp : p.1.Ordered ∧ p.2.Ordered) : (Loop.bind vars s p).Ordered := by
  have hinner := hs.bind vars.value hp.2
  unfold Loop.bind
  cases vars.key with
  | none => exact hinner
  | some key => exact hinner.bind key hp.1

/-! ## Operations -/

namespace Value.Ordered

variable {v w : Value}

theorem getAttr (hv : v.Ordered) (name : String) (o : Origin) :
    Ensures Ordered (v.getAttr name o) := by
  cases hv with
  | @object fields hsorted h =>
    simp only [Value.getAttr]
    cases hfield : Fields.get? name fields with
    | none => exact .error
    | some field => exact .ok (Fields.of_get? h hfield)
  | unknown => exact .ok .unknown
  | _ => exact .error

theorem elementAt {items : List Value} (h : ∀ v ∈ items, v.Ordered) (n : Decimal) (o : Origin) :
    Ensures Ordered (elementAt items n o) := by
  unfold Value.elementAt
  split
  · split
    · next item hitem => exact .ok (h item (List.mem_of_getElem? hitem))
    · exact .error
  · exact .error

theorem index (hv : v.Ordered) (key : Value) (o : Origin) : Ensures Ordered (v.index key o) := by
  unfold Value.index
  split
  · exact .error
  · split
    · exact .error
    · split
      · exact .ok .unknown
      · cases hv with
        | tuple h =>
          refine .bind .trivial fun n _ => ?_
          cases n with
          | none => exact .ok .unknown
          | some n => exact elementAt h n o
        | @object fields hsorted h =>
          refine .bind .trivial fun name _ => ?_
          cases name with
          | none => exact .ok .unknown
          | some name =>
            dsimp only
            split
            · next field hfield => exact .ok (Fields.of_get? h hfield)
            · exact .error
        | _ => exact .error

/-- The keys and elements of an ordered value are ordered. -/
theorem elements (hv : v.Ordered) (o : Origin) :
    Ensures (fun items => ∀ ps, items = some ps → ∀ p ∈ ps, p.1.Ordered ∧ p.2.Ordered)
      (v.elements o) := by
  cases hv with
  | unknown => exact .ok nofun
  | @tuple items h =>
    refine .ok ?_
    rintro _ ⟨⟩ p hp
    obtain ⟨⟨item, i⟩, hitem, rfl⟩ := List.mem_map.1 hp
    exact ⟨.number, h item (List.fst_mem_of_mem_zipIdx hitem)⟩
  | @object fields hsorted h =>
    refine .ok ?_
    rintro _ ⟨⟩ p hp
    obtain ⟨f, hf, rfl⟩ := List.mem_map.1 hp
    exact ⟨.string, h f hf⟩
  | _ => exact .error

theorem of_mem_splatElements (hv : v.Ordered) (hw : w ∈ v.splatElements) : w.Ordered := by
  cases v with
  | null k => cases hw
  | tuple items =>
    cases hv with
    | tuple h => exact h w hw
  | _ =>
    obtain rfl : w = _ := by simpa [splatElements] using hw
    exact hv

theorem convertBranch (hv : v.Ordered) (kind : ValueKind) (o : Origin) :
    Ensures Ordered (convertBranch kind v o) := by
  unfold Value.convertBranch
  split
  · refine .bind .trivial fun text _ => ?_
    cases text with
    | none => exact .ok .unknown
    | some text => exact .ok .string
  · exact .ok hv

theorem choose (hv : v.Ordered) (hw : w.Ordered) (cond : Option Bool)
    (yesOrigin noOrigin o : Origin) :
    Ensures Ordered (choose cond v w yesOrigin noOrigin o) := by
  unfold Value.choose
  split
  · exact .error
  · split
    · exact .ok .unknown
    · exact hv.convertBranch _ _
    · exact hw.convertBranch _ _

end Value.Ordered

/-! ## Operators -/

/-- What a binary operator can make of its operands. -/
inductive BinaryOp.Makes (op : BinaryOp) : Value → Prop
  /-- A comparison or an operator of logic makes a truth value. -/
  | bool {b : Bool} : op.Makes (.bool b)
  /-- Of what is not known nothing known is made. -/
  | unknown {kind : ValueKind} : op.Makes (.unknown kind)
  /-- Arithmetic makes a number. -/
  | number {a b d : Decimal} (h : op.arithmetic a b = .ok d) : op.Makes (.number d)

theorem BinaryOp.ensures_makes (op : BinaryOp) (v w : Value) (leftOrigin rightOrigin o : Origin) :
    Ensures op.Makes (op.apply v w leftOrigin rightOrigin o) := by
  -- Operators with one way of being applied make results of one kind.
  have hequality : ∀ opposite, op.Makes (applyEquality opposite v w) := by
    intro opposite
    unfold applyEquality
    split
    · exact .bool
    · exact .unknown
  have hlogic : Ensures op.Makes (op.applyLogic v w leftOrigin rightOrigin) := by
    refine .bind .trivial fun a _ => .bind .trivial fun b _ => ?_
    split
    · exact .ok .bool
    · exact .ok .unknown
  have hnumbers : Ensures op.Makes (op.applyNumbers v w leftOrigin rightOrigin o) := by
    refine .bind .trivial fun a _ => .bind .trivial fun b _ => ?_
    split
    · exact .ok .bool
    · exact .ok .unknown
    · split
      · exact .error
      · split
        · next d h => exact .ok (.number h)
        · exact .error
        · exact .error
    · exact .ok .unknown
  cases op with
  | eq | ne => exact .ok (hequality _)
  | and | or => exact hlogic
  | _ => exact hnumbers

/-- What a unary operator can make of its operand. -/
inductive UnaryOp.Makes : Value → Prop
  /-- Negation of a truth value makes a truth value. -/
  | bool {b : Bool} : Makes (.bool b)
  /-- Of what is not known nothing known is made. -/
  | unknown {kind : ValueKind} : Makes (.unknown kind)
  /-- The opposite of a number is a number. -/
  | number {a d : Decimal} (h : a.neg = .ok d) : Makes (.number d)

theorem UnaryOp.ensures_makes (op : UnaryOp) (v : Value) (o : Origin) :
    Ensures Makes (op.apply v o) := by
  cases op with
  | not =>
    refine .bind .trivial fun b _ => ?_
    cases b with
    | none => exact .ok .unknown
    | some b => exact .ok .bool
  | negate =>
    refine .bind .trivial fun d _ => ?_
    cases d with
    | none => exact .ok .unknown
    | some d =>
      dsimp only
      split
      · next d h => exact .ok (.number h)
      · exact .error

/-- No operator makes an object. -/
theorem BinaryOp.ensures_ordered (op : BinaryOp) (v w : Value) (leftOrigin rightOrigin o : Origin) :
    Ensures Value.Ordered (op.apply v w leftOrigin rightOrigin o) := by
  refine (op.ensures_makes v w _ _ o).mono fun made h => ?_
  cases h with
  | bool => exact .bool
  | unknown => exact .unknown
  | number => exact .number

theorem UnaryOp.ensures_ordered (op : UnaryOp) (v : Value) (o : Origin) :
    Ensures Value.Ordered (op.apply v o) := by
  refine (op.ensures_makes v o).mono fun made h => ?_
  cases h with
  | bool => exact .bool
  | unknown => exact .unknown
  | number => exact .number

/-! ## Loops -/

namespace Loop

variable {items : List (Value × Value)} {keep : Value × Value → Eval (Option Bool)}
  {value : Value × Value → Eval Value} {key : Value × Value → Eval (Option String)}

theorem ensures_values_of {P : Value → Prop} (hvalue : ∀ p ∈ items, Ensures P (value p)) :
    Ensures (fun vs => ∀ ws, vs = some ws → ∀ w ∈ ws, P w) (values keep value items) := by
  induction items with
  | nil =>
    refine .ok ?_
    rintro _ ⟨⟩
    simp
  | cons p items ih =>
    obtain ⟨hp, hitems⟩ := List.forall_mem_cons.1 hvalue
    refine .bind .trivial fun kept _ => ?_
    match kept with
    | some true =>
      refine .bind hp fun v hv => .bind (ih hitems) fun vs hvs => .ok fun ws hws => ?_
      obtain ⟨rest, rfl, rfl⟩ := Option.map_eq_some_iff.1 hws
      exact List.forall_mem_cons.2 ⟨hv, hvs rest rfl⟩
    | some false => exact ih hitems
    | none => exact .bind .trivial fun _ _ => .ok nofun

/-- What a loop makes of its pairs has a property that taking in a pair keeps. -/
theorem ensures_fields_of {add : String → Value → α → Eval α} {P : Value → Prop} {Q : α → Prop}
    (hadd : ∀ name v made, P v → Q made → Ensures Q (add name v made))
    (hvalue : ∀ p ∈ items, Ensures P (value p)) {made : α} (hmade : Q made) :
    Ensures (fun o => ∀ a, o = some a → Q a) (fields keep value key add made items) := by
  induction items generalizing made with
  | nil =>
    refine .ok ?_
    rintro _ ⟨⟩
    exact hmade
  | cons p items ih =>
    obtain ⟨hp, hitems⟩ := List.forall_mem_cons.1 hvalue
    -- Where a condition or a name is unknown, so is what the loop makes, and nothing is to be
    -- shown.
    refine .bind .trivial fun kept _ => ?_
    match kept with
    | some true =>
      refine .bind hp fun v hv => .bind .trivial fun name _ => ?_
      match name with
      | some name => exact .bind (hadd name v made hv hmade) fun made' hmade' => ih hitems hmade'
      | none => exact .bind .trivial fun _ _ => .ok nofun
    | some false => exact ih hitems hmade
    | none => exact .bind .trivial fun _ _ => .ok nofun

/-- The fields are sorted, and their values are ordered. -/
def OrderedFields (fields : Fields Value) : Prop :=
  Fields.Sorted fields ∧ ∀ f ∈ fields, f.2.Ordered

theorem orderedFields_nil : OrderedFields [] :=
  ⟨Fields.sorted_nil, by simp⟩

theorem OrderedFields.set {made : Fields Value} {v : Value} (h : OrderedFields made) (name : String)
    (hv : v.Ordered) : OrderedFields (Fields.set name v made) :=
  ⟨h.1.set name v, Fields.forall_set name h.2 hv⟩

theorem OrderedFields.addUnique {made : Fields Value} {v : Value} (h : OrderedFields made)
    (o : Origin) (name : String) (hv : v.Ordered) :
    Ensures OrderedFields (addUnique o name v made) := by
  unfold Loop.addUnique
  split
  · exact .error
  · exact .ok (h.set name hv)

/-- The groups are sorted, and their values are ordered. -/
def OrderedGroups (groups : Fields (List Value)) : Prop :=
  Fields.Sorted groups ∧ ∀ g ∈ groups, ∀ v ∈ g.2, v.Ordered

theorem OrderedGroups.addGrouped {made : Fields (List Value)} {v : Value} (h : OrderedGroups made)
    (name : String) (hv : v.Ordered) : Ensures OrderedGroups (addGrouped name v made) := by
  refine .ok ⟨h.1.alter _ name, Fields.forall_alter
    (P := fun vs : List Value => ∀ v ∈ vs, v.Ordered) name h.2 (fun _ h => h) (by simpa using hv)
    fun vs hvs => ?_⟩
  exact List.forall_mem_append.2 ⟨hvs, by simpa using hv⟩

theorem OrderedGroups.object {groups : Fields (List Value)} (h : OrderedGroups groups) :
    (Value.object (groups.map fun (name, vs) => (name, .tuple vs))).Ordered := by
  refine .object (h.1.map _) fun f hf => ?_
  obtain ⟨g, hg, rfl⟩ := List.mem_map.1 hf
  exact .tuple (h.2 g hg)

/-- A loop over an ordered collection has what its rounds ensure. -/
theorem ensures_over_ordered {s : Scope} {collection : Expr} {P : α → Prop}
    {run : List (Value × Value) → Eval (Option α)}
    (h : Ensures Value.Ordered (collection.evaluate s))
    (hrun : ∀ items, (∀ p ∈ items, p.1.Ordered ∧ p.2.Ordered) →
      Ensures (fun made => ∀ a, made = some a → P a) (run items)) :
    Ensures (fun made => ∀ a, made = some a → P a) (Loop.over (collection.items s) run) := by
  refine .bind (.bind h fun v hv => hv.elements _) fun items hitems => ?_
  cases items with
  | none => exact .ok nofun
  | some ps => exact hrun ps (hitems ps rfl)

end Loop

/-! ## Evaluation -/

mutual

/-- Where the values of all names are ordered, so is the value of an expression. -/
theorem Expr.ensures_ordered (e : Expr) (s : Scope) (hs : s.Ordered) :
    Ensures Value.Ordered (e.evaluate s) := by
  match e with
  | .literal o value =>
    rw [Expr.evaluate]
    cases value with
    | null => exact .ok .null
    | bool b => exact .ok .bool
    | number d => exact .ok .number
  | .template _ [.interp e] =>
    rw [Expr.evaluate]
    exact e.ensures_ordered s hs
  | .template o [] | .template o [.text _] | .template o [.cond _ _ _] | .template o [.loop _ _ _]
  | .template o (_ :: _ :: _) =>
    rw [Expr.evaluate_template _ _ _ (by simp)]
    refine .bind .trivial fun text _ => ?_
    cases text with
    | none => exact .ok .unknown
    | some text => exact .ok .string
  | .variable _ name =>
    rw [Expr.evaluate]
    cases hname : s name with
    | none => exact .ok .unknown
    | some v => exact .ok (hs name v hname)
  | .getAttr o target name =>
    rw [Expr.evaluate]
    exact .bind (target.ensures_ordered s hs) fun v hv => hv.getAttr name o
  | .index o target key =>
    rw [Expr.evaluate]
    exact .bind (target.ensures_ordered s hs) fun v hv => .bind .trivial fun k _ => hv.index k o
  | .splat o target steps _ =>
    rw [Expr.evaluate]
    refine .bind (target.ensures_ordered s hs) fun v hv => ?_
    split
    · refine .bind (.mapM fun w hw => Step.ensures_ordered steps s hs o
        (hv.of_mem_splatElements hw)) fun ws hws => ?_
      exact .ok (.tuple hws)
    · exact .ok .unknown
  | .call _ _ args _ =>
    rw [Expr.evaluate]
    exact .bind .trivial fun _ _ => .ok .unknown
  | .tuple _ items =>
    rw [Expr.evaluate]
    exact .bind (Expr.ensures_orderedAll items s hs) fun vs hvs => .ok (.tuple hvs)
  | .object o items =>
    rw [Expr.evaluate_object]
    refine .bind (ObjectItem.ensures_ordered items s hs Loop.orderedFields_nil) fun fs hfs => ?_
    cases fs with
    | none => exact .ok .unknown
    | some fields => exact .ok (.object (hfs fields rfl).1 (hfs fields rfl).2)
  | .forTuple o vars collection value cond =>
    rw [Expr.evaluate_forTuple]
    refine .bind (Loop.ensures_over_ordered (P := fun ws => ∀ w ∈ ws, w.Ordered)
      (collection.ensures_ordered s hs) fun items hitems => Loop.ensures_values_of fun p hp =>
        value.ensures_ordered _ (hs.loopBind vars (hitems p hp))) fun vs hvs => ?_
    cases vs with
    | none => exact .ok .unknown
    | some ws => exact .ok (.tuple (hvs ws rfl))
  | .forObject o vars collection key value cond true =>
    rw [Expr.evaluate_forObject_grouping]
    refine .bind (Loop.ensures_over_ordered (P := Loop.OrderedGroups)
      (collection.ensures_ordered s hs) fun items hitems => Loop.ensures_fields_of
        (fun name v made hv hmade => hmade.addGrouped name hv)
        (fun p hp => value.ensures_ordered _ (hs.loopBind vars (hitems p hp)))
        ⟨Fields.sorted_nil, by simp⟩) fun fs hfs => ?_
    cases fs with
    | none => exact .ok .unknown
    | some groups => exact .ok (hfs groups rfl).object
  | .forObject o vars collection key value cond false =>
    rw [Expr.evaluate_forObject_unique]
    refine .bind (Loop.ensures_over_ordered (P := Loop.OrderedFields)
      (collection.ensures_ordered s hs) fun items hitems => Loop.ensures_fields_of
        (fun name v made hv hmade => hmade.addUnique o name hv)
        (fun p hp => value.ensures_ordered _ (hs.loopBind vars (hitems p hp)))
        Loop.orderedFields_nil) fun fs hfs => ?_
    cases fs with
    | none => exact .ok .unknown
    | some fields => exact .ok (.object (hfs fields rfl).1 (hfs fields rfl).2)
  -- Of the condition only its value matters, which orders nothing.
  | .conditional o cond yes no =>
    rw [Expr.evaluate_conditional]
    refine .bind .trivial fun c _ => .bind (yes.ensures_ordered s hs) fun v hv => ?_
    exact .bind (no.ensures_ordered s hs) fun w hw => hv.choose hw c _ _ o
  | .binary o op left right =>
    rw [Expr.evaluate]
    exact .bind .trivial fun v _ => .bind .trivial fun w _ => op.ensures_ordered v w _ _ o
  | .unary _ op operand =>
    rw [Expr.evaluate]
    exact .bind .trivial fun v _ => op.ensures_ordered v _
  | .parens _ inner =>
    rw [Expr.evaluate]
    exact inner.ensures_ordered s hs

theorem Expr.ensures_orderedAll (es : List Expr) (s : Scope) (hs : s.Ordered) :
    Ensures (fun vs => ∀ v ∈ vs, v.Ordered) (Expr.evaluateAll s es) := by
  match es with
  | [] =>
    rw [Expr.evaluateAll]
    exact .ok (by simp)
  | e :: rest =>
    rw [Expr.evaluateAll]
    refine .bind (e.ensures_ordered s hs) fun v hv => ?_
    exact .bind (Expr.ensures_orderedAll rest s hs) fun vs hvs =>
      .ok (List.forall_mem_cons.2 ⟨hv, hvs⟩)

theorem Step.ensures_ordered (steps : List Step) (s : Scope) (hs : s.Ordered) (o : Origin)
    {v : Value} (hv : v.Ordered) : Ensures Value.Ordered (Step.applyAll s o steps v) := by
  match steps with
  | [] =>
    rw [Step.applyAll]
    exact .ok hv
  | .attr name :: rest =>
    rw [Step.applyAll, Step.apply]
    exact .bind (hv.getAttr name o) fun w hw => Step.ensures_ordered rest s hs o hw
  | .index key :: rest =>
    rw [Step.applyAll, Step.apply]
    refine .bind (.bind .trivial fun k _ => hv.index k o) fun w hw => ?_
    exact Step.ensures_ordered rest s hs o hw

theorem ObjectItem.ensures_ordered (items : List ObjectItem) (s : Scope) (hs : s.Ordered)
    {made : Fields Value} (hmade : Loop.OrderedFields made) :
    Ensures (fun fields => ∀ fs, fields = some fs → Loop.OrderedFields fs)
      (ObjectItem.evaluateAll s made items) := by
  match items with
  | [] =>
    rw [ObjectItem.evaluateAll]
    refine .ok ?_
    rintro _ ⟨⟩
    exact hmade
  | .mk key value :: rest =>
    rw [ObjectItem.evaluateAll_cons]
    refine .bind .trivial fun name _ => .bind (value.ensures_ordered s hs) fun v hv => ?_
    match name with
    | some name => exact ObjectItem.ensures_ordered rest s hs (hmade.set name hv)
    | none => exact .bind .trivial fun _ _ => .ok nofun

end

end ResourceTables
