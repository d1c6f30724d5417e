import ResourceTables.Proofs.Refinement.Choice
import ResourceTables.Proofs.Refinement.Forms
import ResourceTables.Proofs.Refinement.Operations

/-!
# Evaluation in refined scopes

What an expression evaluates to in a scope stays true when the scope is refined, as long as every
conditional that is evaluated on the way is settled. `Expr.Settled` says so along the evaluation:
of the rounds of a loop only those that the scope knows of count, and of the branches of a template
only the one that is rendered.

* `Expr.evaluate_refinedBy`: evaluation of a settled expression respects refinement. The induction
  is on the expression, over all scopes, since loop variables are bound to refined elements.
* `Expr.evaluate_refinedBy_of_conditionalFree`: an expression without conditionals is settled in
  every scope, so that its evaluation respects refinement without further ado.
-/

namespace ResourceTables

/-! ## Settled expressions -/

/-- The item is one that a loop over the collection has a round for. -/
def Expr.Yields (s : Scope) (collection : Expr) (item : Value × Value) : Prop :=
  ∃ items, collection.items s = .ok (some items) ∧ item ∈ items

/-- What the condition and the branches of a conditional evaluate to. -/
structure Expr.Operands (s : Scope) (cond yes no : Expr) (c : Option Bool)
    (yesValue noValue : Value) : Prop where
  /-- The condition, as a truth value. -/
  cond_eq : cond.truth s .condition = .ok c
  /-- The branch for a condition that holds. -/
  yes_eq : yes.evaluate s = .ok yesValue
  /-- The branch for a condition that does not. -/
  no_eq : no.evaluate s = .ok noValue

mutual

/-- Every conditional that is evaluated on the way to the value of the expression is settled. -/
def Expr.Settled (s : Scope) : Expr → Prop
  | .literal _ _ | .variable _ _ => True
  | .template _ parts => Part.AllSettled s parts
  | .getAttr _ target _ => target.Settled s
  | .index _ target key => target.Settled s ∧ key.Settled s
  | .splat _ target steps _ => target.Settled s ∧ Step.AllSettled s steps
  | .call _ _ args _ => Expr.AllSettled s args
  | .tuple _ items => Expr.AllSettled s items
  | .object _ items => ObjectItem.AllSettled s items
  | .forTuple _ vars collection value cond =>
    collection.Settled s ∧ ∀ item, collection.Yields s item →
      Expr.ConditionSettled (Loop.bind vars s item) cond ∧
      (Expr.holds (Loop.bind vars s item) cond = .ok (some true) →
        value.Settled (Loop.bind vars s item))
  | .forObject _ vars collection key value cond _ =>
    collection.Settled s ∧ ∀ item, collection.Yields s item →
      Expr.ConditionSettled (Loop.bind vars s item) cond ∧
      (Expr.holds (Loop.bind vars s item) cond = .ok (some true) →
        value.Settled (Loop.bind vars s item) ∧ key.Settled (Loop.bind vars s item))
  | .conditional _ cond yes no =>
    cond.Settled s ∧ yes.Settled s ∧ no.Settled s ∧
      ∀ c yesValue noValue, Expr.Operands s cond yes no c yesValue noValue →
        Value.Settled c yesValue noValue
  | .binary _ _ left right => left.Settled s ∧ right.Settled s
  | .unary _ _ operand => operand.Settled s
  | .parens _ inner => inner.Settled s

/-- Several expressions are settled. -/
def Expr.AllSettled (s : Scope) : List Expr → Prop
  | [] => True
  | e :: rest => e.Settled s ∧ Expr.AllSettled s rest

/-- The condition of a loop is settled, if there is one. -/
def Expr.ConditionSettled (s : Scope) : Option Expr → Prop
  | none => True
  | some cond => cond.Settled s

/-- A part of a template is settled, as far as it is rendered. -/
def Part.Settled (s : Scope) : Part → Prop
  | .text _ => True
  | .interp e => e.Settled s
  | .cond test yes no =>
    test.Settled s ∧
      (test.truth s .templateCondition = .ok (some true) → Part.AllSettled s yes) ∧
      (test.truth s .templateCondition = .ok (some false) → Part.AllSettled s no)
  | .loop vars collection body =>
    collection.Settled s ∧ ∀ item, collection.Yields s item →
      Part.AllSettled (Loop.bind vars s item) body

/-- Several parts of a template are settled. -/
def Part.AllSettled (s : Scope) : List Part → Prop
  | [] => True
  | part :: rest => part.Settled s ∧ Part.AllSettled s rest

/-- The step of a splat is settled. -/
def Step.Settled (s : Scope) : Step → Prop
  | .attr _ => True
  | .index key => key.Settled s

/-- All steps of a splat are settled. -/
def Step.AllSettled (s : Scope) : List Step → Prop
  | [] => True
  | step :: rest => step.Settled s ∧ Step.AllSettled s rest

/-- The keys and values of an object constructor are settled. -/
def ObjectItem.AllSettled (s : Scope) : List ObjectItem → Prop
  | [] => True
  | .mk key value :: rest => key.Settled s ∧ value.Settled s ∧ ObjectItem.AllSettled s rest

end

/-! ## Steps that many forms share -/

section Steps

variable {s s' : Scope}

/-- What an evaluation collects is refined as a value, which is unknown when anything in it is. -/
theorem refinedBy_elim {R : α → α → Prop} {x y : Eval (Option α)} {k : ValueKind} {f : α → Value}
    (h : Eval.RefinedBy (WhenKnown R) x y) (hf : ∀ a b, R a b → (f a).RefinedBy (f b))
    (hkind : ∀ a, (f a).kind = k) :
    Eval.RefinedBy Value.RefinedBy (do return (← x).elim (.unknown k) f)
      (do return (← y).elim (.unknown k) f) := by
  refine .bind h fun a b _ _ hab => .ok ?_
  match a with
  | some a =>
    obtain ⟨b, rfl, hR⟩ := whenKnown_some.1 hab
    exact hf a b hR
  | none =>
    match b with
    | some b => exact Value.refinedBy_of_kind (hkind b)
    | none => exact Value.refinedBy_refl _

theorem Expr.truth_refinedBy {test : Expr} (role : Role)
    (h : Eval.RefinedBy Value.RefinedBy (test.evaluate s) (test.evaluate s')) :
    Eval.RefinedBy (WhenKnown Eq) (test.truth s role) (test.truth s' role) :=
  .bind h fun _ _ _ _ hv => Value.toBool_refinedBy hv _ _

theorem Expr.keyText_refinedBy {key : Expr}
    (h : Eval.RefinedBy Value.RefinedBy (key.evaluate s) (key.evaluate s')) :
    Eval.RefinedBy (WhenKnown Eq) (key.keyText s) (key.keyText s') := by
  unfold Expr.keyText
  split
  · exact .refl (whenKnown_refl fun _ => rfl) _
  · exact .bind h fun _ _ _ _ hv => Value.toText_refinedBy hv _ _

/-- A loop over a refined collection is refined with its rounds. -/
theorem Loop.over_refinedBy {collection : Expr} {R : α → α → Prop}
    {run run' : List (Value × Value) → Eval (Option α)}
    (h : Eval.RefinedBy Value.RefinedBy (collection.evaluate s) (collection.evaluate s'))
    (hrun : ∀ ps qs,
      List.Forall₂ (fun p q => collection.Yields s p ∧ Value.Keyed Value.RefinedBy p q) ps qs →
      Eval.RefinedBy (WhenKnown R) (run ps) (run' qs)) :
    Eval.RefinedBy (WhenKnown R) (Loop.over (collection.items s) run)
      (Loop.over (collection.items s') run') := by
  have hitems : Eval.RefinedBy (WhenKnown (List.Forall₂ (Value.Keyed Value.RefinedBy)))
      (collection.items s) (collection.items s') :=
    .bind h fun _ _ _ _ hv => Value.elements_refinedBy hv _
  refine .bind hitems fun ps qs hps _ hpq => ?_
  match ps with
  | none => exact .ok_left fun _ => whenKnown_none
  | some ps =>
    obtain ⟨qs, rfl, hall⟩ := whenKnown_some.1 hpq
    exact hrun ps qs ((List.forall₂_and_left _ _).2 ⟨fun p hp => ⟨ps, hps, hp⟩, hall⟩)

end Steps

/-! ## Evaluation respects refinement -/

mutual

/-- What a settled expression evaluates to is refined with the scope. -/
theorem Expr.evaluate_refinedBy (e : Expr) (s s' : Scope) (hs : s.RefinedBy s')
    (he : e.Settled s) : Eval.RefinedBy Value.RefinedBy (e.evaluate s) (e.evaluate s') := by
  -- One case for each form. The scopes are arbitrary, since a loop binds its variables anew.
  match e with
  | .literal _ value =>
    rw [Expr.evaluate, Expr.evaluate]
    exact .ok (Value.refinedBy_refl _)
  | .variable _ name =>
    rw [Expr.evaluate, Expr.evaluate]
    exact .ok (hs name)
  | .template o [.interp e] =>
    rw [Expr.evaluate, Expr.evaluate]
    exact e.evaluate_refinedBy s s' hs he.1
  | .template o [] | .template o [.text _] | .template o [.cond _ _ _] | .template o [.loop _ _ _]
  | .template o (_ :: _ :: _) =>
    rw [Expr.evaluate_template _ _ _ (by simp), Expr.evaluate_template _ _ _ (by simp)]
    refine refinedBy_elim (Part.renderAll_refinedBy _ s s' hs he) ?_ fun _ => rfl
    rintro text _ rfl
    exact Value.refinedBy_refl _
  | .getAttr o target name =>
    rw [Expr.evaluate, Expr.evaluate]
    exact .bind (target.evaluate_refinedBy s s' hs he) fun _ _ _ _ h =>
      Value.getAttr_refinedBy h name o
  | .index o target key =>
    rw [Expr.evaluate, Expr.evaluate]
    refine .bind (target.evaluate_refinedBy s s' hs he.1) fun v w _ _ hv => ?_
    refine .bind (key.evaluate_refinedBy s s' hs he.2) fun k l _ _ hk => ?_
    exact Value.index_refinedBy hv hk o
  | .splat o target steps _ =>
    rw [Expr.evaluate, Expr.evaluate]
    refine .bind (target.evaluate_refinedBy s s' hs he.1) fun v w _ _ hvw => ?_
    by_cases hv : v.isKnown
    · -- A known target has as many elements as its refinement, or is an element itself.
      have hw : w.isKnown := Value.isKnown_of_refinedBy hvw hv
      rw [if_pos hv, if_pos hw]
      refine .bind (Eval.RefinedBy.mapM ?_) fun vs ws _ _ hvs =>
        .ok (Value.refinedBy_tuple.2 ⟨ws, rfl, hvs⟩)
      refine (Value.splatElements_refinedBy hvw hv).imp fun a b hab => ?_
      exact Step.applyAll_refinedBy steps s s' hs he.2 o hab
    · rw [if_neg hv]
      exact .ok_left Value.refinedBy_unknown_dynamic
  | .call _ _ args _ =>
    -- A call is unknown in every scope, so that only errors in its arguments are left.
    rw [Expr.evaluate, Expr.evaluate]
    exact .bind (Expr.evaluateAll_refinedBy args s s' hs he) fun _ _ _ _ _ =>
      .ok (Value.refinedBy_refl _)
  | .tuple _ items =>
    rw [Expr.evaluate, Expr.evaluate]
    exact .bind (Expr.evaluateAll_refinedBy items s s' hs he) fun vs ws _ _ hvs =>
      .ok (Value.refinedBy_tuple.2 ⟨ws, rfl, hvs⟩)
  | .object o items =>
    rw [Expr.evaluate_object, Expr.evaluate_object]
    refine refinedBy_elim ((ObjectItem.evaluateAll_refinedBy items s s' hs he [] []).mono
      fun _ _ h => h .nil) ?_ fun _ => rfl
    exact fun fs gs hfs => Value.refinedBy_object.2 ⟨gs, rfl, hfs⟩
  | .forTuple o vars collection value cond =>
    obtain ⟨hcollection, hrounds⟩ := he
    rw [Expr.evaluate_forTuple, Expr.evaluate_forTuple]
    refine refinedBy_elim (Loop.over_refinedBy (collection.evaluate_refinedBy s s' hs hcollection)
      fun ps qs hpq => Loop.values_refinedBy (hpq.imp fun p q ⟨hp, hkey, hitem⟩ => ?_))
      (fun vs ws hvs => Value.refinedBy_tuple.2 ⟨ws, rfl, hvs⟩) fun _ => rfl
    have hs' := hs.loopBind vars hkey hitem
    exact ⟨Expr.holds_refinedBy cond _ _ hs' (hrounds p hp).1,
      fun hkeep => value.evaluate_refinedBy _ _ hs' ((hrounds p hp).2 hkeep)⟩
  | .forObject o vars collection key value cond grouping =>
    obtain ⟨hcollection, hrounds⟩ := he
    -- The rounds agree with each other both with grouping and without.
    have hall : ∀ ps qs,
        List.Forall₂ (fun p q => collection.Yields s p ∧ Value.Keyed Value.RefinedBy p q) ps qs →
        List.Forall₂ (fun p q =>
          Loop.RoundRefinedBy (fun item => Expr.holds (Loop.bind vars s item) cond)
            (fun item => Expr.holds (Loop.bind vars s' item) cond)
            (fun item => value.evaluate (Loop.bind vars s item))
            (fun item => value.evaluate (Loop.bind vars s' item)) p q ∧
          (Expr.holds (Loop.bind vars s p) cond = .ok (some true) →
            Eval.RefinedBy (WhenKnown Eq) (Loop.keyText s vars key p)
              (Loop.keyText s' vars key q))) ps qs := by
      refine fun ps qs hpq => hpq.imp fun p q ⟨hp, hkey, hitem⟩ => ?_
      have hs' := hs.loopBind vars hkey hitem
      refine ⟨⟨Expr.holds_refinedBy cond _ _ hs' (hrounds p hp).1, fun hkeep =>
        value.evaluate_refinedBy _ _ hs' ((hrounds p hp).2 hkeep).1⟩, fun hkeep => ?_⟩
      exact .bind (key.evaluate_refinedBy _ _ hs' ((hrounds p hp).2 hkeep).2) fun _ _ _ _ hk =>
        Value.toText_refinedBy hk _ _
    have hover := collection.evaluate_refinedBy s s' hs hcollection
    match grouping with
    | true =>
      rw [Expr.evaluate_forObject_grouping, Expr.evaluate_forObject_grouping]
      refine refinedBy_elim (Loop.over_refinedBy hover fun ps qs hpq =>
        Loop.fields_addGrouped_refinedBy (hall ps qs hpq)) (fun fs gs hfs => ?_) fun _ => rfl
      refine Value.refinedBy_object.2 ⟨_, rfl, ?_⟩
      rw [List.forall₂_map_left_iff, List.forall₂_map_right_iff]
      exact hfs.imp fun f g ⟨hname, hvs⟩ => ⟨hname, Value.refinedBy_tuple.2 ⟨_, rfl, hvs⟩⟩
    | false =>
      rw [Expr.evaluate_forObject_unique, Expr.evaluate_forObject_unique]
      exact refinedBy_elim (Loop.over_refinedBy hover fun ps qs hpq =>
        Loop.fields_addUnique_refinedBy (hall ps qs hpq) o)
        (fun fs gs hfs => Value.refinedBy_object.2 ⟨gs, rfl, hfs⟩) fun _ => rfl
  | .conditional o cond yes no =>
    obtain ⟨hcond, hyes, hno, hsettled⟩ := he
    rw [Expr.evaluate_conditional, Expr.evaluate_conditional]
    refine .bind (Expr.truth_refinedBy _ (cond.evaluate_refinedBy s s' hs hcond))
      fun c c' hc _ hcc => ?_
    refine .bind (yes.evaluate_refinedBy s s' hs hyes) fun v v' hv _ hvv => ?_
    refine .bind (no.evaluate_refinedBy s s' hs hno) fun w w' hw _ hww => ?_
    exact Value.choose_refinedBy_of_settled _ _ _ (hsettled c v w ⟨hc, hv, hw⟩) hcc hvv hww
  | .binary o op left right =>
    rw [Expr.evaluate, Expr.evaluate]
    refine .bind (left.evaluate_refinedBy s s' hs he.1) fun v v' _ _ hv => ?_
    refine .bind (right.evaluate_refinedBy s s' hs he.2) fun w w' _ _ hw => ?_
    exact op.apply_refinedBy hv hw _ _ _
  | .unary _ op operand =>
    rw [Expr.evaluate, Expr.evaluate]
    exact .bind (operand.evaluate_refinedBy s s' hs he) fun _ _ _ _ hv => op.apply_refinedBy hv _
  | .parens _ inner =>
    rw [Expr.evaluate, Expr.evaluate]
    exact inner.evaluate_refinedBy s s' hs he

/-- The values of settled expressions are refined with the scope. -/
theorem Expr.evaluateAll_refinedBy (es : List Expr) (s s' : Scope) (hs : s.RefinedBy s')
    (he : Expr.AllSettled s es) :
    Eval.RefinedBy (List.Forall₂ Value.RefinedBy) (Expr.evaluateAll s es)
      (Expr.evaluateAll s' es) := by
  match es with
  | [] =>
    rw [Expr.evaluateAll, Expr.evaluateAll]
    exact .ok .nil
  | e :: rest =>
    rw [Expr.evaluateAll, Expr.evaluateAll]
    refine .bind (e.evaluate_refinedBy s s' hs he.1) fun v w _ _ hv => ?_
    exact .bind (Expr.evaluateAll_refinedBy rest s s' hs he.2) fun vs ws _ _ hvs =>
      .ok (.cons hv hvs)

/-- What a settled condition of a loop is known to be stays so. -/
theorem Expr.holds_refinedBy (cond : Option Expr) (s s' : Scope) (hs : s.RefinedBy s')
    (hc : Expr.ConditionSettled s cond) :
    Eval.RefinedBy (WhenKnown Eq) (Expr.holds s cond) (Expr.holds s' cond) := by
  match cond with
  | none =>
    rw [Expr.holds, Expr.holds]
    exact .ok (whenKnown_refl (fun _ => rfl) _)
  | some cond =>
    rw [Expr.holds, Expr.holds]
    exact Expr.truth_refinedBy _ (cond.evaluate_refinedBy s s' hs hc)

/-- The text of settled parts stays what it is known to be. -/
theorem Part.renderAll_refinedBy (parts : List Part) (s s' : Scope) (hs : s.RefinedBy s')
    (hp : Part.AllSettled s parts) :
    Eval.RefinedBy (WhenKnown Eq) (Part.renderAll s parts) (Part.renderAll s' parts) := by
  match parts with
  | [] =>
    rw [Part.renderAll, Part.renderAll]
    exact .ok (whenKnown_refl (fun _ => rfl) _)
  | part :: rest =>
    rw [Part.renderAll, Part.renderAll]
    refine .bind (part.render_refinedBy s s' hs hp.1) fun a a' _ _ ha => ?_
    exact .bind (Part.renderAll_refinedBy rest s s' hs hp.2) fun b b' _ _ hb =>
      .ok (whenKnown_append ha hb)

/-- The text of a settled part stays what it is known to be. -/
theorem Part.render_refinedBy (part : Part) (s s' : Scope) (hs : s.RefinedBy s')
    (hp : part.Settled s) :
    Eval.RefinedBy (WhenKnown Eq) (part.render s) (part.render s') := by
  match part with
  | .text text =>
    rw [Part.render, Part.render]
    exact .ok (whenKnown_refl (fun _ => rfl) _)
  | .interp e =>
    rw [Part.render, Part.render]
    exact .bind (e.evaluate_refinedBy s s' hs hp) fun _ _ _ _ h => Value.toText_refinedBy h _ _
  | .cond test yes no =>
    obtain ⟨htest, hyes, hno⟩ := hp
    rw [Part.render_cond, Part.render_cond]
    refine .bind (Expr.truth_refinedBy _ (test.evaluate_refinedBy s s' hs htest))
      fun c c' hc _ hcc => ?_
    match c with
    | some true =>
      obtain ⟨_, rfl, rfl⟩ := whenKnown_some.1 hcc
      exact Part.renderAll_refinedBy yes s s' hs (hyes hc)
    | some false =>
      obtain ⟨_, rfl, rfl⟩ := whenKnown_some.1 hcc
      exact Part.renderAll_refinedBy no s s' hs (hno hc)
    -- An unknown condition makes the text unknown, which every text refines.
    | none => exact .ok_left fun _ => whenKnown_none
  | .loop vars collection body =>
    rw [Part.render_loop, Part.render_loop]
    refine Loop.over_refinedBy (collection.evaluate_refinedBy s s' hs hp.1) fun ps qs hpq =>
      Loop.texts_refinedBy (hpq.imp fun p q ⟨hp', hkey, hitem⟩ => ?_)
    exact Part.renderAll_refinedBy body _ _ (hs.loopBind vars hkey hitem) (hp.2 p hp')

/-- The value that settled steps lead to is refined with the value that they start from. -/
theorem Step.applyAll_refinedBy (steps : List Step) (s s' : Scope) (hs : s.RefinedBy s')
    (hsteps : Step.AllSettled s steps) (o : Origin) {v w : Value} (hvw : v.RefinedBy w) :
    Eval.RefinedBy Value.RefinedBy (Step.applyAll s o steps v) (Step.applyAll s' o steps w) := by
  match steps with
  | [] =>
    rw [Step.applyAll, Step.applyAll]
    exact .ok hvw
  | .attr name :: rest =>
    rw [Step.applyAll, Step.applyAll, Step.apply, Step.apply]
    exact .bind (Value.getAttr_refinedBy hvw name o) fun _ _ _ _ h =>
      Step.applyAll_refinedBy rest s s' hs hsteps.2 o h
  | .index key :: rest =>
    rw [Step.applyAll, Step.applyAll, Step.apply, Step.apply]
    refine .bind (.bind (key.evaluate_refinedBy s s' hs hsteps.1) fun _ _ _ _ hk =>
      Value.index_refinedBy hvw hk o) fun _ _ _ _ h => ?_
    exact Step.applyAll_refinedBy rest s s' hs hsteps.2 o h

/-- The fields of a settled object constructor are refined with those that were there before. -/
theorem ObjectItem.evaluateAll_refinedBy (items : List ObjectItem) (s s' : Scope)
    (hs : s.RefinedBy s') (hi : ObjectItem.AllSettled s items) (made made' : Fields Value) :
    Eval.RefinedBy (fun o o' => List.Forall₂ (Value.Keyed Value.RefinedBy) made made' →
        WhenKnown (List.Forall₂ (Value.Keyed Value.RefinedBy)) o o')
      (ObjectItem.evaluateAll s made items) (ObjectItem.evaluateAll s' made' items) := by
  match items with
  | [] =>
    rw [ObjectItem.evaluateAll, ObjectItem.evaluateAll]
    exact .ok fun hmade => whenKnown_some.2 ⟨made', rfl, hmade⟩
  | .mk key value :: rest =>
    rw [ObjectItem.evaluateAll_cons, ObjectItem.evaluateAll_cons]
    refine .bind (Expr.keyText_refinedBy (key.evaluate_refinedBy s s' hs hi.1))
      fun n n' _ _ hn => ?_
    refine .bind (value.evaluate_refinedBy s s' hs hi.2.1) fun v w _ _ hvw => ?_
    have ih := ObjectItem.evaluateAll_refinedBy rest s s' hs hi.2.2
    match n with
    | some name =>
      obtain ⟨_, rfl, rfl⟩ := whenKnown_some.1 hn
      exact (ih _ _).mono fun _ _ h hmade => h (Fields.forall₂_set hmade name hvw)
    | none =>
      -- The refined constructor may take the item in, but fails where the items behind fail.
      match n' with
      | some name => exact (ih _ _).discard.mono fun _ _ h _ => h
      | none => exact .bind (ih made made') fun _ _ _ _ _ => .ok fun _ => whenKnown_none

end

/-! ## Expressions without conditionals -/

mutual

/-- No conditional is anywhere in the expression. -/
def Expr.conditionalFree : Expr → Bool
  | .literal _ _ | .variable _ _ => true
  | .template _ parts => Part.allConditionalFree parts
  | .getAttr _ target _ => target.conditionalFree
  | .index _ target key => target.conditionalFree && key.conditionalFree
  | .splat _ target steps _ => target.conditionalFree && Step.allConditionalFree steps
  | .call _ _ args _ => Expr.allConditionalFree args
  | .tuple _ items => Expr.allConditionalFree items
  | .object _ items => ObjectItem.allConditionalFree items
  | .forTuple _ _ collection value cond =>
    collection.conditionalFree && value.conditionalFree && Expr.conditionConditionalFree cond
  | .forObject _ _ collection key value cond _ =>
    collection.conditionalFree && key.conditionalFree && value.conditionalFree &&
      Expr.conditionConditionalFree cond
  | .conditional _ _ _ _ => false
  | .binary _ _ left right => left.conditionalFree && right.conditionalFree
  | .unary _ _ operand => operand.conditionalFree
  | .parens _ inner => inner.conditionalFree

/-- No conditional is in any of the expressions. -/
def Expr.allConditionalFree : List Expr → Bool
  | [] => true
  | e :: rest => e.conditionalFree && Expr.allConditionalFree rest

/-- No conditional is in the condition of a loop. -/
def Expr.conditionConditionalFree : Option Expr → Bool
  | none => true
  | some cond => cond.conditionalFree

/-- No conditional is in the part of a template. A directive with branches is none. -/
def Part.conditionalFree : Part → Bool
  | .text _ => true
  | .interp e => e.conditionalFree
  | .cond test yes no =>
    test.conditionalFree && Part.allConditionalFree yes && Part.allConditionalFree no
  | .loop _ collection body => collection.conditionalFree && Part.allConditionalFree body

/-- No conditional is in any part of a template. -/
def Part.allConditionalFree : List Part → Bool
  | [] => true
  | part :: rest => part.conditionalFree && Part.allConditionalFree rest

/-- No conditional is in the step of a splat. -/
def Step.conditionalFree : Step → Bool
  | .attr _ => true
  | .index key => key.conditionalFree

/-- No conditional is in any step of a splat. -/
def Step.allConditionalFree : List Step → Bool
  | [] => true
  | step :: rest => step.conditionalFree && Step.allConditionalFree rest

/-- No conditional is in the keys and values of an object constructor. -/
def ObjectItem.allConditionalFree : List ObjectItem → Bool
  | [] => true
  | .mk key value :: rest =>
    key.conditionalFree && value.conditionalFree && ObjectItem.allConditionalFree rest

end

mutual

/-- An expression without conditionals is settled in every scope. -/
theorem Expr.settled_of_conditionalFree (e : Expr) (h : e.conditionalFree) (s : Scope) :
    e.Settled s := by
  match e with
  | .literal _ _ | .variable _ _ => trivial
  | .template _ parts => exact Part.allSettled_of_conditionalFree parts h s
  | .getAttr _ target _ => exact target.settled_of_conditionalFree h s
  | .index _ target key =>
    rw [Expr.conditionalFree, Bool.and_eq_true] at h
    exact ⟨target.settled_of_conditionalFree h.1 s, key.settled_of_conditionalFree h.2 s⟩
  | .splat _ target steps _ =>
    rw [Expr.conditionalFree, Bool.and_eq_true] at h
    exact ⟨target.settled_of_conditionalFree h.1 s, Step.allSettled_of_conditionalFree steps h.2 s⟩
  | .call _ _ args _ => exact Expr.allSettled_of_conditionalFree args h s
  | .tuple _ items => exact Expr.allSettled_of_conditionalFree items h s
  | .object _ items => exact ObjectItem.allSettled_of_conditionalFree items h s
  -- A loop is settled if its rounds are, whatever its variables stand for.
  | .forTuple _ vars collection value cond =>
    rw [Expr.conditionalFree, Bool.and_eq_true, Bool.and_eq_true] at h
    obtain ⟨⟨hcollection, hvalue⟩, hcond⟩ := h
    exact ⟨collection.settled_of_conditionalFree hcollection s, fun item _ =>
      ⟨Expr.conditionSettled_of_conditionalFree cond hcond _,
        fun _ => value.settled_of_conditionalFree hvalue _⟩⟩
  | .forObject _ vars collection key value cond _ =>
    rw [Expr.conditionalFree, Bool.and_eq_true, Bool.and_eq_true, Bool.and_eq_true] at h
    obtain ⟨⟨⟨hcollection, hkey⟩, hvalue⟩, hcond⟩ := h
    exact ⟨collection.settled_of_conditionalFree hcollection s, fun item _ =>
      ⟨Expr.conditionSettled_of_conditionalFree cond hcond _, fun _ =>
        ⟨value.settled_of_conditionalFree hvalue _, key.settled_of_conditionalFree hkey _⟩⟩⟩
  | .conditional _ _ _ _ => cases h
  | .binary _ _ left right =>
    rw [Expr.conditionalFree, Bool.and_eq_true] at h
    exact ⟨left.settled_of_conditionalFree h.1 s, right.settled_of_conditionalFree h.2 s⟩
  | .unary _ _ operand => exact operand.settled_of_conditionalFree h s
  | .parens _ inner => exact inner.settled_of_conditionalFree h s

private theorem Expr.allSettled_of_conditionalFree (es : List Expr)
    (h : Expr.allConditionalFree es) (s : Scope) : Expr.AllSettled s es := by
  match es with
  | [] => trivial
  | e :: rest =>
    rw [Expr.allConditionalFree, Bool.and_eq_true] at h
    exact ⟨e.settled_of_conditionalFree h.1 s, Expr.allSettled_of_conditionalFree rest h.2 s⟩

private theorem Expr.conditionSettled_of_conditionalFree (cond : Option Expr)
    (h : Expr.conditionConditionalFree cond) (s : Scope) : Expr.ConditionSettled s cond := by
  match cond with
  | none => trivial
  | some cond => exact cond.settled_of_conditionalFree h s

private theorem Part.settled_of_conditionalFree (part : Part) (h : part.conditionalFree)
    (s : Scope) : part.Settled s := by
  match part with
  | .text _ => trivial
  | .interp e => exact e.settled_of_conditionalFree h s
  | .cond test yes no =>
    rw [Part.conditionalFree, Bool.and_eq_true, Bool.and_eq_true] at h
    obtain ⟨⟨htest, hyes⟩, hno⟩ := h
    exact ⟨test.settled_of_conditionalFree htest s,
      fun _ => Part.allSettled_of_conditionalFree yes hyes s,
      fun _ => Part.allSettled_of_conditionalFree no hno s⟩
  | .loop vars collection body =>
    rw [Part.conditionalFree, Bool.and_eq_true] at h
    exact ⟨collection.settled_of_conditionalFree h.1 s,
      fun _ _ => Part.allSettled_of_conditionalFree body h.2 _⟩

private theorem Part.allSettled_of_conditionalFree (parts : List Part)
    (h : Part.allConditionalFree parts) (s : Scope) : Part.AllSettled s parts := by
  match parts with
  | [] => trivial
  | part :: rest =>
    rw [Part.allConditionalFree, Bool.and_eq_true] at h
    exact ⟨part.settled_of_conditionalFree h.1 s, Part.allSettled_of_conditionalFree rest h.2 s⟩

private theorem Step.settled_of_conditionalFree (step : Step) (h : step.conditionalFree)
    (s : Scope) : step.Settled s := by
  match step with
  | .attr _ => trivial
  | .index key => exact key.settled_of_conditionalFree h s

private theorem Step.allSettled_of_conditionalFree (steps : List Step)
    (h : Step.allConditionalFree steps) (s : Scope) : Step.AllSettled s steps := by
  match steps with
  | [] => trivial
  | step :: rest =>
    rw [Step.allConditionalFree, Bool.and_eq_true] at h
    exact ⟨step.settled_of_conditionalFree h.1 s, Step.allSettled_of_conditionalFree rest h.2 s⟩

private theorem ObjectItem.allSettled_of_conditionalFree (items : List ObjectItem)
    (h : ObjectItem.allConditionalFree items) (s : Scope) : ObjectItem.AllSettled s items := by
  match items with
  | [] => trivial
  | .mk key value :: rest =>
    rw [ObjectItem.allConditionalFree, Bool.and_eq_true, Bool.and_eq_true] at h
    obtain ⟨⟨hkey, hvalue⟩, hrest⟩ := h
    exact ⟨key.settled_of_conditionalFree hkey s, value.settled_of_conditionalFree hvalue s,
      ObjectItem.allSettled_of_conditionalFree rest hrest s⟩

end

/-- What an expression without conditionals evaluates to stays true when the scope is refined: an
error stays an error, a value is refined, and one that is wholly known stays the same. -/
theorem Expr.evaluate_refinedBy_of_conditionalFree {e : Expr} (he : e.conditionalFree)
    {s s' : Scope} (hs : s.RefinedBy s') :
    (∀ err, e.evaluate s = .error err → ∃ err', e.evaluate s' = .error err') ∧
    ∀ v v', e.evaluate s = .ok v → e.evaluate s' = .ok v' →
      v.RefinedBy v' ∧ (v.whollyKnown → v' = v) := by
  have h := e.evaluate_refinedBy s s' hs (e.settled_of_conditionalFree he s)
  refine ⟨h.stays_error, fun v v' hv hv' => ?_⟩
  have hvv := h.rel v v' hv hv'
  exact ⟨hvv, Value.eq_of_refinedBy v v' hvv⟩

/-- The unknown part of `[u, 2 > 1]` turns out to be `true`, and the known part stays. -/
theorem Expr.evaluate_refinedBy_of_conditionalFree_pair :
    let e := Expr.tuple default [.variable default "u",
      .binary default .gt (.literal default (.number (.ofNat 2)))
        (.literal default (.number (.ofNat 1)))]
    let v := Value.tuple [.unknown .dynamic, .bool true]
    let v' := Value.tuple [.bool true, .bool true]
    let s' := Scope.empty.bind "u" (.bool true)
    (e.conditionalFree ∧ Scope.empty.RefinedBy s') ∧
      e.evaluate .empty = .ok v ∧ e.evaluate s' = .ok v' ∧
      v.RefinedBy v' ∧ (v.whollyKnown → v' = v) := by
  intro e v v' s'
  have he : e.conditionalFree := rfl
  have hs : Scope.empty.RefinedBy s' := fun _ => Value.refinedBy_unknown_dynamic _
  exact ⟨⟨he, hs⟩, rfl, rfl, (e.evaluate_refinedBy_of_conditionalFree he hs).2 v v' rfl rfl⟩

end ResourceTables
