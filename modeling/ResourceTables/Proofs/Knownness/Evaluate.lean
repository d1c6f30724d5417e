import ResourceTables.Inventory.Resolve
import ResourceTables.Proofs.Knownness.Operations
import ResourceTables.Proofs.Refinement.Forms

/-!
# Expressions that are known before anything is applied

A value is unknown because of a name without a known value or because of a call, and for no other
reason.

* `Expr.freeNames`: the names that an expression reads. The variables of a loop are bound in its
  rounds, and a name that is a key of an object stands for itself;
* `Expr.callFree`: no function is called anywhere in the expression;
* `Expr.evaluate_whollyKnown`: an expression without calls whose free names stand for wholly known
  values has a wholly known value, if it has one at all, and is not shown as unknown in a table.
-/

namespace ResourceTables

/-! ## What an expression depends on -/

/-- The variables of a loop. -/
def LoopVars.names (vars : LoopVars) : List String :=
  vars.value :: vars.key.toList

/-- The names without those that a loop binds. -/
def LoopVars.unbound (vars : LoopVars) (names : List String) : List String :=
  names.filter (· ∉ vars.names)

mutual

/-- The names that an expression reads, apart from those that it binds itself. -/
def Expr.freeNames : Expr → List String
  | .literal _ _ => []
  | .template _ parts => Part.allFreeNames parts
  | .variable _ name => [name]
  | .getAttr _ target _ => target.freeNames
  | .index _ target key => target.freeNames ++ key.freeNames
  | .splat _ target steps _ => target.freeNames ++ Step.allFreeNames steps
  | .call _ _ args _ => Expr.allFreeNames args
  | .tuple _ items => Expr.allFreeNames items
  | .object _ items => ObjectItem.allFreeNames items
  | .forTuple _ vars collection value cond =>
    collection.freeNames ++ vars.unbound (value.freeNames ++ Expr.conditionFreeNames cond)
  | .forObject _ vars collection key value cond _ =>
    collection.freeNames ++
      vars.unbound (value.freeNames ++ (key.freeNames ++ Expr.conditionFreeNames cond))
  | .conditional _ cond yes no => cond.freeNames ++ (yes.freeNames ++ no.freeNames)
  | .binary _ _ left right => left.freeNames ++ right.freeNames
  | .unary _ _ operand => operand.freeNames
  | .parens _ inner => inner.freeNames

/-- The names that several expressions read. -/
def Expr.allFreeNames : List Expr → List String
  | [] => []
  | e :: rest => e.freeNames ++ Expr.allFreeNames rest

/-- The names that the condition of a loop reads. -/
def Expr.conditionFreeNames : Option Expr → List String
  | none => []
  | some cond => cond.freeNames

/-- The names that a part of a template reads. -/
def Part.freeNames : Part → List String
  | .text _ => []
  | .interp e => e.freeNames
  | .cond test yes no => test.freeNames ++ (Part.allFreeNames yes ++ Part.allFreeNames no)
  | .loop vars collection body => collection.freeNames ++ vars.unbound (Part.allFreeNames body)

/-- The names that several parts of a template read. -/
def Part.allFreeNames : List Part → List String
  | [] => []
  | part :: rest => part.freeNames ++ Part.allFreeNames rest

/-- The names that a step of a splat reads. -/
def Step.freeNames : Step → List String
  | .attr _ => []
  | .index key => key.freeNames

/-- The names that the steps of a splat read. -/
def Step.allFreeNames : List Step → List String
  | [] => []
  | step :: rest => step.freeNames ++ Step.allFreeNames rest

/-- The names that the items of an object constructor read. -/
def ObjectItem.allFreeNames : List ObjectItem → List String
  | [] => []
  | .mk (.variable _ _) value :: rest => value.freeNames ++ ObjectItem.allFreeNames rest
  | .mk key value :: rest => key.freeNames ++ (value.freeNames ++ ObjectItem.allFreeNames rest)

end

mutual

/-- No function is called anywhere in the expression. -/
def Expr.callFree : Expr → Bool
  | .literal _ _ | .variable _ _ => true
  | .template _ parts => Part.allCallFree parts
  | .getAttr _ target _ => target.callFree
  | .index _ target key => target.callFree && key.callFree
  | .splat _ target steps _ => target.callFree && Step.allCallFree steps
  | .call _ _ _ _ => false
  | .tuple _ items => Expr.allCallFree items
  | .object _ items => ObjectItem.allCallFree items
  | .forTuple _ _ collection value cond =>
    collection.callFree && (value.callFree && Expr.conditionCallFree cond)
  | .forObject _ _ collection key value cond _ =>
    collection.callFree && (value.callFree && (key.callFree && Expr.conditionCallFree cond))
  | .conditional _ cond yes no => cond.callFree && (yes.callFree && no.callFree)
  | .binary _ _ left right => left.callFree && right.callFree
  | .unary _ _ operand => operand.callFree
  | .parens _ inner => inner.callFree

/-- No function is called in any of the expressions. -/
def Expr.allCallFree : List Expr → Bool
  | [] => true
  | e :: rest => e.callFree && Expr.allCallFree rest

/-- No function is called in the condition of a loop. -/
def Expr.conditionCallFree : Option Expr → Bool
  | none => true
  | some cond => cond.callFree

/-- No function is called in the part of a template. -/
def Part.callFree : Part → Bool
  | .text _ => true
  | .interp e => e.callFree
  | .cond test yes no => test.callFree && (Part.allCallFree yes && Part.allCallFree no)
  | .loop _ collection body => collection.callFree && Part.allCallFree body

/-- No function is called in any part of a template. -/
def Part.allCallFree : List Part → Bool
  | [] => true
  | part :: rest => part.callFree && Part.allCallFree rest

/-- No function is called in the step of a splat. -/
def Step.callFree : Step → Bool
  | .attr _ => true
  | .index key => key.callFree

/-- No function is called in any step of a splat. -/
def Step.allCallFree : List Step → Bool
  | [] => true
  | step :: rest => step.callFree && Step.allCallFree rest

/-- No function is called in the keys and values of an object constructor. -/
def ObjectItem.allCallFree : List ObjectItem → Bool
  | [] => true
  | .mk key value :: rest => key.callFree && (value.callFree && ObjectItem.allCallFree rest)

end

/-- The scope binds each of the names to a wholly known value. -/
def Scope.Knows (s : Scope) (names : List String) : Prop :=
  ∀ name ∈ names, ∃ v, s name = some v ∧ v.whollyKnown

namespace Scope

variable {s : Scope} {names others : List String}

theorem knows_append : s.Knows (names ++ others) ↔ s.Knows names ∧ s.Knows others := by
  simp only [Knows, List.mem_append, or_imp, forall_and]

/-- In a round of a loop the variables of the loop are known with its element. -/
theorem Knows.loopBind {vars : LoopVars} (h : s.Knows (vars.unbound names)) {p : Value × Value}
    (hkey : p.1.whollyKnown) (hitem : p.2.whollyKnown) : (Loop.bind vars s p).Knows names := by
  intro name hname
  by_cases hbound : name ∈ vars.names
  · -- A variable of the loop stands for the key or the element.
    unfold Loop.bind Scope.bind
    cases hvars : vars.key with
    | none =>
      obtain rfl : name = vars.value := by simpa [LoopVars.names, hvars] using hbound
      exact ⟨p.2, by simp, hitem⟩
    | some key =>
      by_cases hk : name = key
      · exact ⟨p.1, by simp [hk], hkey⟩
      · obtain rfl : name = vars.value := by simpa [LoopVars.names, hvars, hk] using hbound
        exact ⟨p.2, by simp [hk], hitem⟩
  · -- Any other name stands for what it stands for outside of the loop.
    obtain ⟨v, hv, hknown⟩ := h name (List.mem_filter.2 ⟨hname, by simpa using hbound⟩)
    refine ⟨v, ?_, hknown⟩
    unfold Loop.bind Scope.bind
    cases hvars : vars.key with
    | none =>
      have hne : name ≠ vars.value := by simpa [LoopVars.names, hvars] using hbound
      simp [hne, hv]
    | some key =>
      have hne : name ≠ vars.value ∧ name ≠ key := by simpa [LoopVars.names, hvars] using hbound
      simp [hne, hv]

end Scope

/-- What an object constructor reads, item by item: a name as a key is not read. -/
theorem ObjectItem.knows_allFreeNames_cons {s : Scope} {key value : Expr}
    {rest : List ObjectItem} :
    s.Knows (ObjectItem.allFreeNames (.mk key value :: rest)) ↔
      ((∀ o name, key ≠ .variable o name) → s.Knows key.freeNames) ∧ s.Knows value.freeNames ∧
        s.Knows (ObjectItem.allFreeNames rest) := by
  by_cases hvariable : ∃ o name, key = .variable o name
  · obtain ⟨o, name, rfl⟩ := hvariable
    rw [ObjectItem.allFreeNames, Scope.knows_append]
    simp
  · have hne : ∀ o name, key ≠ .variable o name := fun o name h => hvariable ⟨o, name, h⟩
    rw [ObjectItem.allFreeNames.eq_3 key value rest hne, Scope.knows_append, Scope.knows_append]
    simp [hne]

/-! ## Evaluation -/

section Steps

variable {s : Scope}

theorem Expr.ensures_truth {test : Expr} (role : Role)
    (h : Ensures (·.whollyKnown) (test.evaluate s)) :
    Ensures (·.isSome) (test.truth s role) :=
  .bind h fun _ hv => Value.ensures_toBool (Value.isKnown_of_whollyKnown hv) _ _

/-- A loop over a known collection has what its rounds ensure. -/
theorem Loop.ensures_over {collection : Expr} {P : Option α → Prop}
    {run : List (Value × Value) → Eval (Option α)}
    (h : Ensures (·.whollyKnown) (collection.evaluate s))
    (hrun : ∀ items, (∀ p ∈ items, p.1.whollyKnown ∧ p.2.whollyKnown) →
      Ensures P (run items)) :
    Ensures P (Loop.over (collection.items s) run) := by
  have hitems : Ensures Value.KnownItems (collection.items s) :=
    .bind h fun _ hv => Value.ensures_elements hv _
  refine .bind hitems fun items hknown => ?_
  obtain ⟨pairs, rfl, hpairs⟩ := hknown
  exact hrun pairs hpairs

end Steps

mutual

/-- An expression without calls has a wholly known value where its free names have. -/
theorem Expr.ensures_evaluate (e : Expr) (s : Scope) (hcalls : e.callFree)
    (hs : s.Knows e.freeNames) : Ensures (·.whollyKnown) (e.evaluate s) := by
  -- One case for each form. The scope is arbitrary, since a loop binds its variables anew.
  match e with
  | .literal _ value =>
    rw [Expr.evaluate]
    exact .ok value.whollyKnown_value
  | .variable _ name =>
    obtain ⟨v, hv, hknown⟩ := hs name (by simp [Expr.freeNames])
    rw [Expr.evaluate, hv]
    exact .ok hknown
  | .template _ [.interp e] =>
    rw [Expr.freeNames, Part.allFreeNames, Part.freeNames, Scope.knows_append] at hs
    rw [Expr.callFree, Part.allCallFree, Part.callFree, Bool.and_eq_true] at hcalls
    rw [Expr.evaluate]
    exact e.ensures_evaluate s hcalls.1 hs.1
  | .template o [] | .template o [.text _] | .template o [.cond _ _ _] | .template o [.loop _ _ _]
  | .template o (_ :: _ :: _) =>
    rw [Expr.evaluate_template _ _ _ (by simp)]
    refine .bind (Part.ensures_renderAll _ s hcalls hs) fun text htext => ?_
    obtain ⟨text, rfl⟩ := Option.isSome_iff_exists.1 htext
    exact .ok rfl
  | .getAttr o target name =>
    rw [Expr.evaluate]
    exact .bind (target.ensures_evaluate s hcalls hs) fun v hv => Value.ensures_getAttr hv name o
  | .index o target key =>
    rw [Expr.callFree, Bool.and_eq_true] at hcalls
    rw [Expr.freeNames, Scope.knows_append] at hs
    rw [Expr.evaluate]
    refine .bind (target.ensures_evaluate s hcalls.1 hs.1) fun v hv => ?_
    refine .bind (key.ensures_evaluate s hcalls.2 hs.2) fun k hk => ?_
    exact Value.ensures_index hv (Value.isKnown_of_whollyKnown hk) o
  | .splat o target steps _ =>
    rw [Expr.callFree, Bool.and_eq_true] at hcalls
    rw [Expr.freeNames, Scope.knows_append] at hs
    rw [Expr.evaluate]
    refine .bind (target.ensures_evaluate s hcalls.1 hs.1) fun v hv => ?_
    rw [if_pos (Value.isKnown_of_whollyKnown hv)]
    refine .bind (.mapM fun w hw => Step.ensures_applyAll steps s hcalls.2 hs.2 o
      (Value.whollyKnown_of_mem_splatElements hv hw)) fun ws hws => ?_
    exact .ok (Value.whollyKnown_tuple.2 hws)
  | .call _ _ _ _ => cases hcalls
  | .tuple _ items =>
    rw [Expr.evaluate]
    exact .bind (Expr.ensures_evaluateAll items s hcalls hs) fun vs hvs =>
      .ok (Value.whollyKnown_tuple.2 hvs)
  | .object o items =>
    rw [Expr.evaluate_object]
    refine .bind (ObjectItem.ensures_evaluateAll items s hcalls hs [] (by simp)) fun fs hfs => ?_
    obtain ⟨fields, rfl, hfields⟩ := hfs
    exact .ok (Value.whollyKnown_object.2 hfields)
  | .forTuple o vars collection value cond =>
    rw [Expr.callFree, Bool.and_eq_true, Bool.and_eq_true] at hcalls
    rw [Expr.freeNames, Scope.knows_append] at hs
    obtain ⟨hcollection, hvalue, hcond⟩ := hcalls
    rw [Expr.evaluate_forTuple]
    refine .bind (Loop.ensures_over (P := Loop.KnownValues)
      (collection.ensures_evaluate s hcollection hs.1) fun items hitems => ?_) fun vs hvs => ?_
    · -- The rounds know what the loop knows, and its variables besides.
      have hround : ∀ p ∈ items, (Loop.bind vars s p).Knows value.freeNames ∧
          (Loop.bind vars s p).Knows (Expr.conditionFreeNames cond) := fun p hp =>
        Scope.knows_append.1 (hs.2.loopBind (hitems p hp).1 (hitems p hp).2)
      exact Loop.ensures_values
        (fun p hp => Expr.ensures_holds cond _ hcond (hround p hp).2)
        (fun p hp => value.ensures_evaluate _ hvalue (hround p hp).1)
    · obtain ⟨ws, rfl, hws⟩ := hvs
      exact .ok (Value.whollyKnown_tuple.2 hws)
  | .forObject o vars collection key value cond grouping =>
    rw [Expr.callFree, Bool.and_eq_true, Bool.and_eq_true, Bool.and_eq_true] at hcalls
    rw [Expr.freeNames, Scope.knows_append] at hs
    obtain ⟨hcollection, hvalue, hkey, hcond⟩ := hcalls
    have hover := collection.ensures_evaluate s hcollection hs.1
    have hround : ∀ p : Value × Value, p.1.whollyKnown ∧ p.2.whollyKnown →
        (Loop.bind vars s p).Knows value.freeNames ∧ (Loop.bind vars s p).Knows key.freeNames ∧
          (Loop.bind vars s p).Knows (Expr.conditionFreeNames cond) := by
      intro p hp
      have hall := hs.2.loopBind hp.1 hp.2
      rwa [Scope.knows_append, Scope.knows_append] at hall
    -- The rounds are known both with grouping and without.
    have hfields : ∀ {β : Type} {add : String → Value → β → Eval β} {P : β → Prop} {made : β},
        (∀ name v made, v.whollyKnown → P made → Ensures P (add name v made)) → P made →
        ∀ items : List (Value × Value), (∀ p ∈ items, p.1.whollyKnown ∧ p.2.whollyKnown) →
          Ensures (fun o => ∃ b, o = some b ∧ P b)
            (Loop.fields (fun item => Expr.holds (Loop.bind vars s item) cond)
              (fun item => value.evaluate (Loop.bind vars s item)) (Loop.keyText s vars key) add
              made items) := by
      intro β add P made hadd hmade items hitems
      refine Loop.ensures_fields hadd
        (fun p hp => Expr.ensures_holds cond _ hcond (hround p (hitems p hp)).2.2)
        (fun p hp => value.ensures_evaluate _ hvalue (hround p (hitems p hp)).1)
        (fun p hp => ?_) hmade
      exact .bind (key.ensures_evaluate _ hkey (hround p (hitems p hp)).2.1) fun k hk =>
        Value.ensures_toText (Value.isKnown_of_whollyKnown hk) _ _
    match grouping with
    | true =>
      rw [Expr.evaluate_forObject_grouping]
      refine .bind (Loop.ensures_over hover (hfields Loop.ensures_addGrouped (by simp)))
        fun fs hfs => ?_
      obtain ⟨fields, rfl, hknown⟩ := hfs
      refine .ok (Value.whollyKnown_object.2 fun f hf => ?_)
      obtain ⟨g, hg, rfl⟩ := List.mem_map.1 hf
      exact Value.whollyKnown_tuple.2 (hknown g hg)
    | false =>
      rw [Expr.evaluate_forObject_unique]
      refine .bind (Loop.ensures_over hover (hfields (Loop.ensures_addUnique o) (by simp)))
        fun fs hfs => ?_
      obtain ⟨fields, rfl, hknown⟩ := hfs
      exact .ok (Value.whollyKnown_object.2 hknown)
  | .conditional o cond yes no =>
    rw [Expr.callFree, Bool.and_eq_true, Bool.and_eq_true] at hcalls
    rw [Expr.freeNames, Scope.knows_append, Scope.knows_append] at hs
    obtain ⟨hcond, hyes, hno⟩ := hcalls
    rw [Expr.evaluate_conditional]
    refine .bind (Expr.ensures_truth _ (cond.ensures_evaluate s hcond hs.1)) fun c hc => ?_
    refine .bind (yes.ensures_evaluate s hyes hs.2.1) fun v hv => ?_
    refine .bind (no.ensures_evaluate s hno hs.2.2) fun w hw => ?_
    exact Value.ensures_choose hc hv hw _ _ o
  | .binary o op left right =>
    rw [Expr.callFree, Bool.and_eq_true] at hcalls
    rw [Expr.freeNames, Scope.knows_append] at hs
    rw [Expr.evaluate]
    refine .bind (left.ensures_evaluate s hcalls.1 hs.1) fun v hv => ?_
    refine .bind (right.ensures_evaluate s hcalls.2 hs.2) fun w hw => ?_
    exact op.ensures_apply hv hw _ _ o
  | .unary _ op operand =>
    rw [Expr.evaluate]
    exact .bind (operand.ensures_evaluate s hcalls hs) fun v hv =>
      op.ensures_apply (Value.isKnown_of_whollyKnown hv) _
  | .parens _ inner =>
    rw [Expr.evaluate]
    exact inner.ensures_evaluate s hcalls hs

/-- Expressions without calls have wholly known values where their free names have. -/
theorem Expr.ensures_evaluateAll (es : List Expr) (s : Scope) (hcalls : Expr.allCallFree es)
    (hs : s.Knows (Expr.allFreeNames es)) :
    Ensures (fun vs => ∀ v ∈ vs, v.whollyKnown) (Expr.evaluateAll s es) := by
  match es with
  | [] =>
    rw [Expr.evaluateAll]
    exact .ok (by simp)
  | e :: rest =>
    rw [Expr.allCallFree, Bool.and_eq_true] at hcalls
    rw [Expr.allFreeNames, Scope.knows_append] at hs
    rw [Expr.evaluateAll]
    refine .bind (e.ensures_evaluate s hcalls.1 hs.1) fun v hv => ?_
    refine .bind (Expr.ensures_evaluateAll rest s hcalls.2 hs.2) fun vs hvs => .ok ?_
    simpa using ⟨hv, hvs⟩

/-- Whether a round of a loop is kept is known where the free names of the condition are. -/
theorem Expr.ensures_holds (cond : Option Expr) (s : Scope) (hcalls : Expr.conditionCallFree cond)
    (hs : s.Knows (Expr.conditionFreeNames cond)) :
    Ensures (·.isSome) (Expr.holds s cond) := by
  match cond with
  | none =>
    rw [Expr.holds]
    exact .ok rfl
  | some cond =>
    rw [Expr.holds]
    exact Expr.ensures_truth _ (cond.ensures_evaluate s hcalls hs)

/-- The text of parts without calls is known where their free names are. -/
theorem Part.ensures_renderAll (parts : List Part) (s : Scope) (hcalls : Part.allCallFree parts)
    (hs : s.Knows (Part.allFreeNames parts)) :
    Ensures (·.isSome) (Part.renderAll s parts) := by
  match parts with
  | [] =>
    rw [Part.renderAll]
    exact .ok rfl
  | part :: rest =>
    rw [Part.allCallFree, Bool.and_eq_true] at hcalls
    rw [Part.allFreeNames, Scope.knows_append] at hs
    rw [Part.renderAll]
    refine .bind (part.ensures_render s hcalls.1 hs.1) fun a ha => ?_
    refine .bind (Part.ensures_renderAll rest s hcalls.2 hs.2) fun b hb => ?_
    exact .ok (Loop.isSome_append ha hb)

/-- The text of a part without calls is known where its free names are. -/
theorem Part.ensures_render (part : Part) (s : Scope) (hcalls : part.callFree)
    (hs : s.Knows part.freeNames) : Ensures (·.isSome) (part.render s) := by
  match part with
  | .text text =>
    rw [Part.render]
    exact .ok rfl
  | .interp e =>
    rw [Part.render]
    exact .bind (e.ensures_evaluate s hcalls hs) fun v hv =>
      Value.ensures_toText (Value.isKnown_of_whollyKnown hv) _ _
  -- The condition is known, so one of the texts is chosen.
  | .cond test yes no =>
    rw [Part.callFree, Bool.and_eq_true, Bool.and_eq_true] at hcalls
    rw [Part.freeNames, Scope.knows_append, Scope.knows_append] at hs
    rw [Part.render_cond]
    refine .bind (Expr.ensures_truth _ (test.ensures_evaluate s hcalls.1 hs.1)) fun c hc => ?_
    obtain ⟨c, rfl⟩ := Option.isSome_iff_exists.1 hc
    cases c with
    | true => exact Part.ensures_renderAll yes s hcalls.2.1 hs.2.1
    | false => exact Part.ensures_renderAll no s hcalls.2.2 hs.2.2
  | .loop vars collection body =>
    rw [Part.callFree, Bool.and_eq_true] at hcalls
    rw [Part.freeNames, Scope.knows_append] at hs
    rw [Part.render_loop]
    refine Loop.ensures_over (collection.ensures_evaluate s hcalls.1 hs.1) fun items hitems => ?_
    exact Loop.ensures_texts fun p hp => Part.ensures_renderAll body _ hcalls.2
      (hs.2.loopBind (hitems p hp).1 (hitems p hp).2)

/-- The value that steps without calls lead to is wholly known where their free names and the value
that they start from are. -/
theorem Step.ensures_applyAll (steps : List Step) (s : Scope) (hcalls : Step.allCallFree steps)
    (hs : s.Knows (Step.allFreeNames steps)) (o : Origin) {v : Value} (hv : v.whollyKnown) :
    Ensures (·.whollyKnown) (Step.applyAll s o steps v) := by
  match steps with
  | [] =>
    rw [Step.applyAll]
    exact .ok hv
  | .attr name :: rest =>
    rw [Step.applyAll, Step.apply]
    exact .bind (Value.ensures_getAttr hv name o) fun w hw =>
      Step.ensures_applyAll rest s hcalls hs o hw
  | .index key :: rest =>
    rw [Step.allCallFree, Step.callFree, Bool.and_eq_true] at hcalls
    rw [Step.allFreeNames, Step.freeNames, Scope.knows_append] at hs
    rw [Step.applyAll, Step.apply]
    refine .bind (.bind (key.ensures_evaluate s hcalls.1 hs.1) fun k hk =>
      Value.ensures_index hv (Value.isKnown_of_whollyKnown hk) o) fun w hw => ?_
    exact Step.ensures_applyAll rest s hcalls.2 hs.2 o hw

/-- The fields of an object constructor without calls are wholly known where its free names and the
fields that were there before are. -/
theorem ObjectItem.ensures_evaluateAll (items : List ObjectItem) (s : Scope)
    (hcalls : ObjectItem.allCallFree items) (hs : s.Knows (ObjectItem.allFreeNames items))
    (made : Fields Value) (hmade : ∀ f ∈ made, f.2.whollyKnown) :
    Ensures (fun fs => ∃ fields, fs = some fields ∧ ∀ f ∈ fields, f.2.whollyKnown)
      (ObjectItem.evaluateAll s made items) := by
  match items with
  | [] =>
    rw [ObjectItem.evaluateAll]
    exact .ok ⟨made, rfl, hmade⟩
  | .mk key value :: rest =>
    rw [ObjectItem.allCallFree, Bool.and_eq_true, Bool.and_eq_true] at hcalls
    obtain ⟨hkey, hvalue, hrest⟩ := hcalls
    obtain ⟨hnames, hvalueNames, hrestNames⟩ := ObjectItem.knows_allFreeNames_cons.1 hs
    rw [ObjectItem.evaluateAll_cons]
    -- A name as a key stands for itself; any other key is evaluated.
    have hname : Ensures (·.isSome) (key.keyText s) := by
      by_cases hvariable : ∃ o name, key = .variable o name
      · obtain ⟨o, name, rfl⟩ := hvariable
        exact .ok rfl
      · rw [Expr.keyText.eq_2 s key fun o name h => hvariable ⟨o, name, h⟩]
        exact .bind (key.ensures_evaluate s hkey (hnames fun o name h => hvariable ⟨o, name, h⟩))
          fun k hk => Value.ensures_toText (Value.isKnown_of_whollyKnown hk) _ _
    refine .bind hname fun name hname => ?_
    obtain ⟨name, rfl⟩ := Option.isSome_iff_exists.1 hname
    refine .bind (value.ensures_evaluate s hvalue hvalueNames) fun v hv => ?_
    exact ObjectItem.ensures_evaluateAll rest s hrest hrestNames (Fields.set name v made)
      (Fields.forall_set (P := fun v : Value => v.whollyKnown) name hmade hv)

end

/-! ## Attributes -/

/-- The cell of a wholly known value is not unknown. -/
theorem Resource.cellOf_ne_unknown (a : Attribute) {v : Value} (h : v.whollyKnown)
    (source : Option String) : cellOf a v ≠ .ok (.unknown source) := by
  intro hcell
  cases v with
  | unknown k => cases h
  | null k => cases k <;> cases hcell
  | _ => cases hcell

/-- Where an attribute has a cell, the cell is that of the value of its expression. -/
theorem Resource.resolveCell_eq_ok {schema : ResourceSchema} {content : Content} {name : String}
    {a : Attribute} {cell : Cell} (ha : content.attribute? name = some a)
    (h : resolveCell schema content name = .ok cell) :
    ∃ v, a.expr.evaluate Scope.empty = .ok v ∧ cellOf a v = .ok cell := by
  simp only [resolveCell, ha] at h
  split at h
  · cases h
  · cases h
  · next v hv => exact ⟨v, hv, mapError_eq_ok_iff.1 h⟩

/-- An expression without calls has a wholly known value, if it has one at all, in a scope that
binds its free names to wholly known values. So an attribute that reads nothing is not shown as
unknown. -/
theorem Expr.evaluate_whollyKnown (e : Expr) (hcalls : e.callFree) :
    (∀ s v, s.Knows e.freeNames → e.evaluate s = .ok v → v.whollyKnown) ∧
      (e.freeNames = [] → ∀ schema content name a, content.attribute? name = some a → a.expr = e →
        ∀ source, Resource.resolveCell schema content name ≠ .ok (.unknown source)) := by
  refine ⟨fun s v hs hv => e.ensures_evaluate s hcalls hs v hv, ?_⟩
  intro hnames schema content name a ha hexpr source hcell
  obtain ⟨v, hv, hvcell⟩ := Resource.resolveCell_eq_ok ha hcell
  rw [hexpr] at hv
  have hs : Scope.empty.Knows e.freeNames := by
    rw [hnames]
    intro name hname
    cases hname
  exact Resource.cellOf_ne_unknown a (e.ensures_evaluate _ hcalls hs v hv) source hvcell

/-- `[for v in [region, true] : v]` reads `region` alone, and `true ? "x" : "y"` reads nothing. -/
theorem Expr.evaluate_whollyKnown_loop :
    let loop := Expr.forTuple default ⟨none, "v"⟩
      (.tuple default [.variable default "region", .literal default (.bool true)])
      (.variable default "v") none
    let choice := Expr.conditional default (.literal default (.bool true))
      (.template default [.text "x"]) (.template default [.text "y"])
    let s := Scope.empty.bind "region" (.string "eu")
    let v := Value.tuple [.string "eu", .bool true]
    let schema : ResourceSchema := ⟨[]⟩
    let content : Content := ⟨[⟨"size", choice, default⟩], []⟩
    (loop.callFree ∧ loop.freeNames = ["region"] ∧ loop.evaluate s = .ok v ∧ v.whollyKnown) ∧
      (choice.callFree ∧ choice.freeNames = [] ∧
        Resource.resolveCell schema content "size" = .ok (.string "x") ∧
        ∀ source, Resource.resolveCell schema content "size" ≠ .ok (.unknown source)) := by
  intro loop choice s v schema content
  have hs : s.Knows loop.freeNames := by
    intro name hname
    obtain rfl : name = "region" := List.mem_singleton.1 hname
    exact ⟨.string "eu", rfl, rfl⟩
  refine ⟨⟨rfl, rfl, rfl, (loop.evaluate_whollyKnown rfl).1 s v hs rfl⟩, rfl, rfl, rfl, ?_⟩
  exact (choice.evaluate_whollyKnown rfl).2 rfl schema content "size" _ rfl rfl

end ResourceTables
