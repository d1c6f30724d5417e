import ResourceTables.Proofs.Limits.Loops
import ResourceTables.Proofs.Limits.Trees
import ResourceTables.Proofs.Refinement.Forms

/-!
# Evaluation within the limits

A bounded expression has a bounded value in a bounded scope, or an error that has words, unless a
text that evaluation converts to a number is out of range.

* `Expr.numerals`: the texts that the evaluation of an expression converts to numbers, one after the
  other, up to the first error;
* `Expr.delivers_evaluate`: what evaluation gives where these texts are in range.
-/

namespace ResourceTables

mutual

/-- The texts that the evaluation of an expression converts to numbers. -/
def Expr.numerals (s : Scope) : Expr → List String
  | .literal _ _ | .variable _ _ => []
  | .template _ parts => Part.allNumerals s parts
  | .getAttr _ target _ => target.numerals s
  | .index _ target key =>
    target.numerals s ++ following (target.evaluate s) fun v =>
      key.numerals s ++ following (key.evaluate s) fun k => v.indexNumeral k
  | .splat o target steps _ =>
    target.numerals s ++ following (target.evaluate s) fun v =>
      if v.isKnown then
        inTurn (Step.applyAll s o steps) (Step.allNumerals s o steps) v.splatElements
      else []
  | .call _ _ args _ => Expr.allNumerals s args
  | .tuple _ items => Expr.allNumerals s items
  | .object _ items => ObjectItem.allNumerals s items
  | .forTuple _ vars collection value cond =>
    collection.numerals s ++ following (collection.items s) fun items =>
      Loop.valuesNumerals (fun item => Expr.holds (Loop.bind vars s item) cond)
        (fun item => value.evaluate (Loop.bind vars s item))
        (fun item => Expr.conditionNumerals (Loop.bind vars s item) cond)
        (fun item => value.numerals (Loop.bind vars s item)) (items.getD [])
  | .forObject o vars collection key value cond grouping =>
    collection.numerals s ++ following (collection.items s) fun items =>
      let keep := fun item => Expr.holds (Loop.bind vars s item) cond
      let evaluated := fun item => value.evaluate (Loop.bind vars s item)
      let ofKeep := fun item => Expr.conditionNumerals (Loop.bind vars s item) cond
      let ofValue := fun item => value.numerals (Loop.bind vars s item)
      let ofKey := fun item => key.numerals (Loop.bind vars s item)
      if grouping then
        Loop.fieldsNumerals keep evaluated (Loop.keyText s vars key) ofKeep ofValue ofKey
          Loop.addGrouped [] (items.getD [])
      else
        Loop.fieldsNumerals keep evaluated (Loop.keyText s vars key) ofKeep ofValue ofKey
          (Loop.addUnique o) [] (items.getD [])
  -- Both branches are evaluated, whatever the condition is.
  | .conditional _ cond yes no =>
    cond.numerals s ++ following (cond.truth s .condition) fun _ =>
      yes.numerals s ++ following (yes.evaluate s) fun _ => no.numerals s
  | .binary _ op left right =>
    left.numerals s ++ following (left.evaluate s) fun v =>
      right.numerals s ++ following (right.evaluate s) fun w => op.numerals v w left.origin
  | .unary _ op operand =>
    operand.numerals s ++ following (operand.evaluate s) fun v => op.numerals v
  | .parens _ inner => inner.numerals s

/-- The texts that the evaluation of several expressions converts to numbers. -/
def Expr.allNumerals (s : Scope) : List Expr → List String
  | [] => []
  | e :: rest => e.numerals s ++ following (e.evaluate s) fun _ => Expr.allNumerals s rest

/-- The texts that the condition of a loop converts to numbers. -/
def Expr.conditionNumerals (s : Scope) : Option Expr → List String
  | none => []
  | some cond => cond.numerals s

/-- The texts that a part of a template converts to numbers. -/
def Part.numerals (s : Scope) : Part → List String
  | .text _ => []
  | .interp e => e.numerals s
  -- Of the branches of a directive only the one that is chosen is rendered.
  | .cond test yes no =>
    test.numerals s ++ following (test.truth s .templateCondition) fun
      | some true => Part.allNumerals s yes
      | some false => Part.allNumerals s no
      | none => []
  | .loop vars collection body =>
    collection.numerals s ++ following (collection.items s) fun items =>
      inTurn (fun item => Part.renderAll (Loop.bind vars s item) body)
        (fun item => Part.allNumerals (Loop.bind vars s item) body) (items.getD [])

/-- The texts that the parts of a template convert to numbers. -/
def Part.allNumerals (s : Scope) : List Part → List String
  | [] => []
  | part :: rest => part.numerals s ++ following (part.render s) fun _ => Part.allNumerals s rest

/-- The texts that the steps of a splat convert to numbers, from the value on that they start
from. -/
def Step.allNumerals (s : Scope) (o : Origin) : List Step → Value → List String
  | [], _ => []
  | .attr name :: rest, v => following (v.getAttr name o) fun w => Step.allNumerals s o rest w
  | .index key :: rest, v =>
    key.numerals s ++ following (key.evaluate s) fun k =>
      v.indexNumeral k ++ following (v.index k o) fun w => Step.allNumerals s o rest w

/-- The texts that the keys and values of an object constructor convert to numbers. -/
def ObjectItem.allNumerals (s : Scope) : List ObjectItem → List String
  | [] => []
  | .mk key value :: rest =>
    key.numerals s ++ following (key.keyText s) fun _ =>
      value.numerals s ++ following (value.evaluate s) fun _ => ObjectItem.allNumerals s rest

end

/-! ## Scopes and loops -/

theorem Scope.bounded_empty : Scope.empty.Bounded := by
  rintro name v ⟨⟩

theorem Scope.Bounded.bind {s : Scope} (hs : s.Bounded) (name : String) {v : Value}
    (hv : v.Bounded) : (s.bind name v).Bounded := by
  intro n w hw
  unfold Scope.bind at hw
  split at hw
  · obtain rfl := Option.some.inj hw
    exact hv
  · exact hs n w hw

theorem Scope.Bounded.loopBind {s : Scope} (hs : s.Bounded) (vars : LoopVars) {p : Value × Value}
    (hp : p.1.Bounded ∧ p.2.Bounded) : (Loop.bind vars s p).Bounded := by
  unfold Loop.bind
  split
  · exact (hs.bind _ hp.2).bind _ hp.1
  · exact hs.bind _ hp.2

section Steps

variable {s : Scope} {found : List String}

theorem Expr.delivers_truth {test : Expr} (role : Role)
    (h : Delivers Value.Bounded EvalError.Worded (test.evaluate s)) :
    Delivers (fun _ => True) EvalError.Worded (test.truth s role) :=
  .bind h fun v _ => v.delivers_toBool _ _

theorem Expr.delivers_items {collection : Expr}
    (h : Delivers Value.Bounded EvalError.Worded (collection.evaluate s)) :
    Delivers (fun items => ∀ ps, items = some ps → Value.BoundedItems ps) EvalError.Worded
      (collection.items s) :=
  .bind h fun _ hv => Value.delivers_elements hv _

/-- A loop over a bounded collection has what its rounds give. -/
theorem Loop.delivers_over {collection : Expr} {P : Option α → Prop}
    {run : List (Value × Value) → Eval (Option α)} {more : List (Value × Value) → List String}
    (h : ∀ t ∈ found ++ following (collection.items s) fun items => more (items.getD []),
      TextInRange t)
    (hcollection : (∀ t ∈ found, TextInRange t) →
      Delivers Value.Bounded EvalError.Worded (collection.evaluate s))
    (hnone : P none)
    (hrun : ∀ ps, Value.BoundedItems ps → (∀ t ∈ more ps, TextInRange t) →
      Delivers P EvalError.Worded (run ps)) :
    Delivers P EvalError.Worded (Loop.over (collection.items s) run) := by
  refine .bind_following h (fun h => Expr.delivers_items (hcollection h)) fun items hitems h => ?_
  cases items with
  | none => exact .ok hnone
  | some ps => exact hrun ps (hitems ps rfl) h

variable {collection : Expr} {keep : Value × Value → Eval (Option Bool)}
  {value : Value × Value → Eval Value} {key : Value × Value → Eval (Option String)}
  {ofKeep ofValue ofKey : Value × Value → List String}

/-- The values that a loop over a bounded collection makes are bounded and not too many. -/
theorem Loop.delivers_overValues
    (h : ∀ t ∈ found ++ following (collection.items s) fun items =>
      Loop.valuesNumerals keep value ofKeep ofValue (items.getD []), TextInRange t)
    (hcollection : (∀ t ∈ found, TextInRange t) →
      Delivers Value.Bounded EvalError.Worded (collection.evaluate s))
    (hkeep : ∀ p, p.1.Bounded ∧ p.2.Bounded → (∀ t ∈ ofKeep p, TextInRange t) →
      Delivers (fun _ => True) EvalError.Worded (keep p))
    (hvalue : ∀ p, p.1.Bounded ∧ p.2.Bounded → (∀ t ∈ ofValue p, TextInRange t) →
      Delivers Value.Bounded EvalError.Worded (value p)) :
    Delivers (fun vs => ∀ ws, vs = some ws → ws.length ≤ itemLimit ∧ ∀ w ∈ ws, w.Bounded)
      EvalError.Worded (Loop.over (collection.items s) (Loop.values keep value)) := by
  refine Loop.delivers_over h hcollection (by simp) fun ps hps h => ?_
  refine (Loop.delivers_values h (fun p hp => hkeep p (hps.2 p hp))
    (fun p hp => hvalue p (hps.2 p hp))).mono fun vs hvs ws hws => ?_
  exact ⟨(hvs ws hws).1.trans hps.1, (hvs ws hws).2⟩

/-- What a loop over a bounded collection makes key by key has a property that counts the rounds, up
to the limit of them. -/
theorem Loop.delivers_overFields {P : Nat → α → Prop} {add : String → Value → α → Eval α} {made : α}
    (h : ∀ t ∈ found ++ following (collection.items s) fun items =>
      Loop.fieldsNumerals keep value key ofKeep ofValue ofKey add made (items.getD []),
      TextInRange t)
    (hcollection : (∀ t ∈ found, TextInRange t) →
      Delivers Value.Bounded EvalError.Worded (collection.evaluate s))
    (hmade : P 0 made)
    (hadd : ∀ n name v made, v.Bounded → P n made →
      Delivers (P (n + 1)) EvalError.Worded (add name v made))
    (hmono : ∀ n k made, P n made → n ≤ k → P k made)
    (hkeep : ∀ p, p.1.Bounded ∧ p.2.Bounded → (∀ t ∈ ofKeep p, TextInRange t) →
      Delivers (fun _ => True) EvalError.Worded (keep p))
    (hvalue : ∀ p, p.1.Bounded ∧ p.2.Bounded → (∀ t ∈ ofValue p, TextInRange t) →
      Delivers Value.Bounded EvalError.Worded (value p))
    (hkey : ∀ p, p.1.Bounded ∧ p.2.Bounded → (∀ t ∈ ofKey p, TextInRange t) →
      Delivers (fun _ => True) EvalError.Worded (key p)) :
    Delivers (fun fields => ∀ a, fields = some a → P itemLimit a) EvalError.Worded
      (Loop.over (collection.items s) (Loop.fields keep value key add made)) := by
  -- A bounded collection has so many elements at most, so the rounds are within the limit.
  refine Loop.delivers_over h hcollection (by simp) fun ps hps h => ?_
  refine (Loop.delivers_fields h hadd (fun n made hmade => hmono n _ made hmade n.le_succ)
    (fun p hp => hkeep p (hps.2 p hp)) (fun p hp => hvalue p (hps.2 p hp))
    (fun p hp => hkey p (hps.2 p hp)) hmade).mono fun fields hfields a ha => ?_
  exact hmono _ _ a (hfields a ha) (by rw [Nat.zero_add]; exact hps.1)

end Steps

/-! ## Evaluation -/

mutual

/-- A bounded expression has a bounded value where the texts that are converted are in range. -/
theorem Expr.delivers_evaluate (e : Expr) (s : Scope) (he : e.Bounded) (hs : s.Bounded)
    (h : ∀ t ∈ e.numerals s, TextInRange t) :
    Delivers Value.Bounded EvalError.Worded (e.evaluate s) := by
  match e with
  | .literal o value =>
    cases he with
    | literal hvalue =>
      rw [Expr.evaluate]
      cases value with
      | null => exact .ok .null
      | bool b => exact .ok .bool
      | number d => exact .ok (.number (hvalue d rfl))
  | .template o parts =>
    cases he with
    | template hparts =>
      rw [Expr.numerals] at h
      by_cases hsingle : ∃ e, parts = [.interp e]
      · -- A template that is one interpolation has the value of that.
        obtain ⟨e, rfl⟩ := hsingle
        rw [Part.allNumerals, Part.numerals] at h
        rw [Expr.evaluate]
        exact e.delivers_evaluate s (ResourceTables.Part.bounded_interp.1 (hparts _ (by simp))) hs
          (List.forall_mem_append.1 h).1
      · rw [Expr.evaluate_template s o parts fun e he => hsingle ⟨e, he⟩]
        refine .bind (Part.delivers_renderAll parts s hparts hs h) fun text _ => ?_
        cases text with
        | none => exact .ok .unknown
        | some text => exact .ok .string
  | .variable _ name =>
    rw [Expr.evaluate]
    cases hname : s name with
    | none => exact .ok .unknown
    | some v => exact .ok (hs name v hname)
  -- What is evaluated later converts its texts with what has come out by then.
  | .getAttr o target name =>
    cases he with
    | getAttr htarget =>
      rw [Expr.numerals] at h
      rw [Expr.evaluate]
      exact .bind (target.delivers_evaluate s htarget hs h) fun v hv =>
        Value.delivers_getAttr hv name o
  | .index o target key =>
    cases he with
    | index htarget hkey =>
      rw [Expr.numerals] at h
      rw [Expr.evaluate]
      refine .bind_following h (target.delivers_evaluate s htarget hs) fun v hv h => ?_
      exact .bind_following h (key.delivers_evaluate s hkey hs) fun k hk h =>
        Value.delivers_index hv hk h o
  | .splat o target steps _ =>
    cases he with
    | splat htarget hsteps =>
      rw [Expr.numerals] at h
      rw [Expr.evaluate]
      refine .bind_following h (target.delivers_evaluate s htarget hs) fun v hv h => ?_
      split
      · next hknown =>
        rw [if_pos hknown] at h
        obtain ⟨hlength, helements⟩ := Value.bounded_splatElements hv
        refine .bind (.mapM_inTurn h fun w hw h =>
          Step.delivers_applyAll steps s hsteps hs o (helements w hw) h) fun ws hws => ?_
        exact .ok (.tuple (hws.1.trans_le hlength) hws.2)
      · exact .ok .unknown
  | .call _ _ args _ =>
    cases he with
    | call hargs =>
      rw [Expr.numerals] at h
      rw [Expr.evaluate]
      exact .bind (Expr.delivers_evaluateAll args s hargs hs h) fun _ _ => .ok .unknown
  | .tuple _ items =>
    cases he with
    | tuple hlength hitems =>
      rw [Expr.numerals] at h
      rw [Expr.evaluate]
      exact .bind (Expr.delivers_evaluateAll items s hitems hs h) fun vs hvs =>
        .ok (.tuple (hvs.1.trans_le hlength) hvs.2)
  | .object o items =>
    cases he with
    | object hlength hitems =>
      rw [Expr.numerals] at h
      rw [Expr.evaluate_object]
      refine .bind (ObjectItem.delivers_evaluateAll items s hitems hs h Loop.fieldsWithin_nil)
        fun fields hfields => ?_
      cases fields with
      | none => exact .ok .unknown
      | some fields =>
        obtain ⟨hcount, hbounded⟩ := hfields fields rfl
        exact .ok (.object (by omega) hbounded)
  | .forTuple o vars collection value cond =>
    cases he with
    | forTuple hcollection hvalue hcond =>
      rw [Expr.numerals] at h
      rw [Expr.evaluate_forTuple]
      refine .bind (Loop.delivers_overValues h (collection.delivers_evaluate s hcollection hs)
        (fun p hp => Expr.delivers_holds cond _ hcond (hs.loopBind vars hp))
        (fun p hp => value.delivers_evaluate _ hvalue (hs.loopBind vars hp))) fun vs hvs => ?_
      cases vs with
      | none => exact .ok .unknown
      | some ws => exact .ok (.tuple (hvs ws rfl).1 (hvs ws rfl).2)
  | .forObject o vars collection key value cond grouping =>
    cases he with
    | forObject hcollection hkey hvalue hcond =>
      have hkeep := fun p hp => Expr.delivers_holds cond _ hcond (hs.loopBind (p := p) vars hp)
      have hround := fun p hp => value.delivers_evaluate _ hvalue (hs.loopBind (p := p) vars hp)
      have hkeys : ∀ p : Value × Value, p.1.Bounded ∧ p.2.Bounded →
          (∀ t ∈ key.numerals (Loop.bind vars s p), TextInRange t) →
          Delivers (fun _ => True) EvalError.Worded (Loop.keyText s vars key p) :=
        fun p hp h => .bind (key.delivers_evaluate _ hkey (hs.loopBind vars hp) h) fun k _ =>
          k.delivers_toText _ _
      rw [Expr.numerals] at h
      match grouping with
      | true =>
        rw [Expr.evaluate_forObject_grouping]
        refine .bind (Loop.delivers_overFields h (collection.delivers_evaluate s hcollection hs)
          Loop.groupsWithin_nil
          (fun n name v made hv hmade => Loop.delivers_addGrouped hmade name hv)
          (fun n k made hmade hk => hmade.mono hk) hkeep hround hkeys) fun fields hfields => ?_
        cases fields with
        | none => exact .ok .unknown
        | some fields => exact .ok (hfields fields rfl).bounded_object
      | false =>
        rw [Expr.evaluate_forObject_unique]
        refine .bind (Loop.delivers_overFields h (collection.delivers_evaluate s hcollection hs)
          Loop.fieldsWithin_nil
          (fun n name v made hv hmade => Loop.delivers_addUnique hmade o name hv)
          (fun n k made hmade hk => hmade.mono hk) hkeep hround hkeys) fun fields hfields => ?_
        cases fields with
        | none => exact .ok .unknown
        | some fields => exact .ok (.object (hfields fields rfl).1 (hfields fields rfl).2)
  | .conditional o cond yes no =>
    cases he with
    | conditional hcond hyes hno =>
      rw [Expr.numerals] at h
      rw [Expr.evaluate_conditional]
      refine .bind_following h
        (fun h => Expr.delivers_truth _ (cond.delivers_evaluate s hcond hs h)) fun c _ h => ?_
      refine .bind_following h (yes.delivers_evaluate s hyes hs) fun v hv h => ?_
      exact .bind (no.delivers_evaluate s hno hs h) fun w hw => Value.delivers_choose c hv hw _ _ o
  | .binary o op left right =>
    cases he with
    | binary hleft hright =>
      rw [Expr.numerals] at h
      rw [Expr.evaluate]
      refine .bind_following h (left.delivers_evaluate s hleft hs) fun v hv h => ?_
      exact .bind_following h (right.delivers_evaluate s hright hs) fun w hw h =>
        BinaryOp.delivers_apply hv hw h _ o
  | .unary _ op operand =>
    cases he with
    | unary hoperand =>
      rw [Expr.numerals] at h
      rw [Expr.evaluate]
      exact .bind_following h (operand.delivers_evaluate s hoperand hs) fun v hv h =>
        UnaryOp.delivers_apply hv h _
  | .parens _ inner =>
    cases he with
    | parens hinner =>
      rw [Expr.numerals] at h
      rw [Expr.evaluate]
      exact inner.delivers_evaluate s hinner hs h

/-- Bounded expressions have as many bounded values. -/
theorem Expr.delivers_evaluateAll (es : List Expr) (s : Scope) (hes : ∀ e ∈ es, e.Bounded)
    (hs : s.Bounded) (h : ∀ t ∈ Expr.allNumerals s es, TextInRange t) :
    Delivers (fun vs => vs.length = es.length ∧ ∀ v ∈ vs, v.Bounded) EvalError.Worded
      (Expr.evaluateAll s es) := by
  match es with
  | [] =>
    rw [Expr.evaluateAll]
    exact .ok ⟨rfl, by simp⟩
  | e :: rest =>
    obtain ⟨he, hrest⟩ := List.forall_mem_cons.1 hes
    rw [Expr.allNumerals] at h
    rw [Expr.evaluateAll]
    refine .bind_following h (e.delivers_evaluate s he hs) fun v hv h => ?_
    refine .bind (Expr.delivers_evaluateAll rest s hrest hs h) fun vs hvs => .ok ⟨?_, ?_⟩
    · rw [List.length_cons, List.length_cons, hvs.1]
    · exact List.forall_mem_cons.2 ⟨hv, hvs.2⟩

theorem Expr.delivers_holds (cond : Option Expr) (s : Scope)
    (hcond : ∀ e, cond = some e → e.Bounded) (hs : s.Bounded)
    (h : ∀ t ∈ Expr.conditionNumerals s cond, TextInRange t) :
    Delivers (fun _ => True) EvalError.Worded (Expr.holds s cond) := by
  match cond with
  | none =>
    rw [Expr.holds]
    exact .ok True.intro
  | some cond =>
    rw [Expr.conditionNumerals] at h
    rw [Expr.holds]
    exact Expr.delivers_truth _ (cond.delivers_evaluate s (hcond cond rfl) hs h)

theorem Part.delivers_renderAll (parts : List Part) (s : Scope) (hparts : ∀ p ∈ parts, p.Bounded)
    (hs : s.Bounded) (h : ∀ t ∈ Part.allNumerals s parts, TextInRange t) :
    Delivers (fun _ => True) EvalError.Worded (Part.renderAll s parts) := by
  match parts with
  | [] =>
    rw [Part.renderAll]
    exact .ok True.intro
  | part :: rest =>
    obtain ⟨hpart, hrest⟩ := List.forall_mem_cons.1 hparts
    rw [Part.allNumerals] at h
    rw [Part.renderAll]
    refine .bind_following h (part.delivers_render s hpart hs) fun _ _ h => ?_
    exact .bind (Part.delivers_renderAll rest s hrest hs h) fun _ _ => .ok True.intro

theorem Part.delivers_render (part : Part) (s : Scope) (hpart : part.Bounded) (hs : s.Bounded)
    (h : ∀ t ∈ part.numerals s, TextInRange t) :
    Delivers (fun _ => True) EvalError.Worded (part.render s) := by
  match part with
  | .text text =>
    rw [Part.render]
    exact .ok True.intro
  | .interp e =>
    rw [Part.numerals] at h
    rw [Part.render]
    exact .bind (e.delivers_evaluate s (Part.bounded_interp.1 hpart) hs h) fun v _ =>
      v.delivers_toText _ _
  | .cond test yes no =>
    obtain ⟨htest, hyes, hno⟩ := Part.bounded_cond.1 hpart
    rw [Part.numerals] at h
    rw [Part.render_cond]
    refine .bind_following h (fun h => Expr.delivers_truth _ (test.delivers_evaluate s htest hs h))
      fun c _ h => ?_
    match c with
    | some true => exact Part.delivers_renderAll yes s hyes hs h
    | some false => exact Part.delivers_renderAll no s hno hs h
    | none => exact .ok True.intro
  | .loop vars collection body =>
    obtain ⟨hcollection, hbody⟩ := Part.bounded_loop.1 hpart
    rw [Part.numerals] at h
    rw [Part.render_loop]
    refine Loop.delivers_over h (collection.delivers_evaluate s hcollection hs) True.intro
      fun ps hps h => ?_
    exact Loop.delivers_texts h fun p hp h =>
      Part.delivers_renderAll body _ hbody (hs.loopBind vars (hps.2 p hp)) h

theorem Step.delivers_applyAll (steps : List Step) (s : Scope)
    (hsteps : ∀ step ∈ steps, step.Bounded) (hs : s.Bounded) (o : Origin) {v : Value}
    (hv : v.Bounded) (h : ∀ t ∈ Step.allNumerals s o steps v, TextInRange t) :
    Delivers Value.Bounded EvalError.Worded (Step.applyAll s o steps v) := by
  match steps with
  | [] =>
    rw [Step.applyAll]
    exact .ok hv
  | .attr name :: rest =>
    rw [Step.allNumerals] at h
    rw [Step.applyAll, Step.apply]
    exact .bind_more h (Value.delivers_getAttr hv name o) fun w hw h =>
      Step.delivers_applyAll rest s (List.forall_mem_cons.1 hsteps).2 hs o hw h
  -- The key comes first, as its value tells which texts are converted next.
  | .index key :: rest =>
    obtain ⟨hstep, hrest⟩ := List.forall_mem_cons.1 hsteps
    cases hstep with
    | index hkey =>
      rw [Step.allNumerals] at h
      rw [Step.applyAll, Step.apply, bind_assoc]
      refine .bind_following h (key.delivers_evaluate s hkey hs) fun k hk h => ?_
      exact .bind_following h (fun h => Value.delivers_index hv hk h o) fun w hw h =>
        Step.delivers_applyAll rest s hrest hs o hw h

theorem ObjectItem.delivers_evaluateAll (items : List ObjectItem) (s : Scope)
    (hitems : ∀ i ∈ items, i.Bounded) (hs : s.Bounded)
    (h : ∀ t ∈ ObjectItem.allNumerals s items, TextInRange t) {n : Nat} {made : Fields Value}
    (hmade : Loop.FieldsWithin n made) :
    Delivers (fun fields => ∀ fs, fields = some fs → Loop.FieldsWithin (n + items.length) fs)
      EvalError.Worded (ObjectItem.evaluateAll s made items) := by
  match items with
  | [] =>
    rw [ObjectItem.evaluateAll]
    rintro _ ⟨⟩
    exact hmade
  | .mk key value :: rest =>
    obtain ⟨hitem, hrest⟩ := List.forall_mem_cons.1 hitems
    cases hitem with
    | mk hkey hvalue =>
      rw [ObjectItem.allNumerals] at h
      rw [ObjectItem.evaluateAll_cons]
      -- A name as a key stands for itself; any other key is evaluated.
      have hname : (∀ t ∈ key.numerals s, TextInRange t) →
          Delivers (fun _ => True) EvalError.Worded (key.keyText s) := by
        intro h
        by_cases hvariable : ∃ o name, key = .variable o name
        · obtain ⟨o, name, rfl⟩ := hvariable
          exact .ok True.intro
        · rw [Expr.keyText.eq_2 s key fun o name h => hvariable ⟨o, name, h⟩]
          exact .bind (key.delivers_evaluate s hkey hs h) fun k _ => k.delivers_toText _ _
      refine .bind_following h hname fun name _ h => ?_
      refine .bind_following h (value.delivers_evaluate s hvalue hs) fun v hv h => ?_
      cases name with
      | some name =>
        refine (ObjectItem.delivers_evaluateAll rest s hrest hs h (hmade.set name hv)).mono ?_
        intro fields hfields fs hfs
        exact (hfields fs hfs).mono (by rw [List.length_cons]; omega)
      | none =>
        exact .bind (ObjectItem.delivers_evaluateAll rest s hrest hs h hmade) fun _ _ =>
          .ok (by simp)

end

end ResourceTables
