import ResourceTables.Proofs.Names.Renaming

/-!
# Evaluation under other names

What an expression evaluates to does not depend on how its names are spelled or on where it is
written. With other names, in a scope in which these stand for the same, it has the same value, or
the same error at the place to which the part at fault has moved.

* `Moves`: a computation that differs from another in the places of its errors only;
* `Value.moves_index`, `BinaryOp.moves_apply` and their like: the operations, one lemma for each;
* `Expr.moves_evaluate`: expressions, with the induction over their parts.
-/

namespace ResourceTables

/-- The error at another place. -/
def EvalError.moved (place : Origin → Origin) : EvalError → EvalError
  | .invalid o cause => .invalid (place o) cause
  | .beyondLimits => .beyondLimits

/-- The second computation has the result of the first, or its error at another place. -/
def Moves (place : Origin → Origin) (x x' : Eval α) : Prop :=
  x' = x.mapError (EvalError.moved place)

namespace Moves

variable {place : Origin → Origin} {x x' : Eval α}

theorem ok {a : α} : Moves place (.ok a) (.ok a) :=
  rfl

theorem invalid {o : Origin} {cause : EvalCause} :
    Moves place (.error (.invalid o cause) : Eval α) (.error (.invalid (place o) cause)) :=
  rfl

theorem beyondLimits : Moves place (.error .beyondLimits : Eval α) (.error .beyondLimits) :=
  rfl

theorem bind {g g' : α → Eval β} (h : Moves place x x') (hg : ∀ a, Moves place (g a) (g' a)) :
    Moves place (x >>= g) (x' >>= g') := by
  obtain rfl := h
  cases x with
  | error e => rfl
  | ok a => exact hg a

theorem mapM {g g' : α → Eval β} (as : List α) (h : ∀ a, Moves place (g a) (g' a)) :
    Moves place (as.mapM g) (as.mapM g') := by
  induction as with
  | nil => exact ok
  | cons a as ih =>
    rw [List.mapM_cons, List.mapM_cons]
    exact bind (h a) fun _ => bind ih fun _ => ok

end Moves

/-! ## Operations -/

namespace Value

variable (place : Origin → Origin) (v : Value) (o : Origin)

theorem moves_toText (role : Role) : Moves place (v.toText o role) (v.toText (place o) role) := by
  cases v <;> rfl

theorem moves_toNumber (role : Role) :
    Moves place (v.toNumber o role) (v.toNumber (place o) role) := by
  cases v with
  | string s =>
    rw [toNumber, toNumber]
    cases Decimal.ofText? s with
    | none => exact .invalid
    | some d =>
      dsimp only
      split
      · exact .ok
      · exact .beyondLimits
  | _ => rfl

theorem moves_toBool (role : Role) : Moves place (v.toBool o role) (v.toBool (place o) role) := by
  unfold toBool
  split <;> rfl

theorem moves_getAttr (name : String) :
    Moves place (v.getAttr name o) (v.getAttr name (place o)) := by
  cases v with
  | object fields =>
    rw [getAttr, getAttr]
    cases Fields.get? name fields <;> rfl
  | _ => rfl

theorem moves_elementAt (items : List Value) (index : Decimal) :
    Moves place (elementAt items index o) (elementAt items index (place o)) := by
  unfold elementAt
  split
  · split <;> rfl
  · exact .invalid

theorem moves_index (key : Value) : Moves place (v.index key o) (v.index key (place o)) := by
  unfold index
  split
  · exact .invalid
  · split
    · exact .invalid
    · split
      · exact .ok
      · split
        · refine .bind (key.moves_toNumber place o .index) fun n => ?_
          cases n with
          | none => exact .ok
          | some n => exact moves_elementAt place o _ n
        · refine .bind (key.moves_toText place o .index) fun name => ?_
          cases name with
          | none => exact .ok
          | some name =>
            dsimp only
            split <;> rfl
        · exact .invalid

theorem moves_elements : Moves place (v.elements o) (v.elements (place o)) := by
  cases v <;> rfl

theorem moves_choose (cond : Option Bool) (yes no : Value) (yesOrigin noOrigin : Origin) :
    Moves place (choose cond yes no yesOrigin noOrigin o)
      (choose cond yes no (place yesOrigin) (place noOrigin) (place o)) := by
  have hbranch : ∀ kind v o, Moves place (convertBranch kind v o)
      (convertBranch kind v (place o)) := by
    intro kind v o
    unfold convertBranch
    split
    · exact .bind (v.moves_toText place o .branch) fun text => by cases text <;> exact .ok
    · exact .ok
  unfold choose
  split
  · exact .invalid
  · split
    · exact .ok
    · exact hbranch ..
    · exact hbranch ..

end Value

section Operators

variable (place : Origin → Origin) (v w : Value) (left right o : Origin)

theorem BinaryOp.moves_apply (op : BinaryOp) :
    Moves place (op.apply v w left right o)
      (op.apply v w (place left) (place right) (place o)) := by
  -- An operator looks at the places of its operands only to say where it fails.
  have hlogic : Moves place (op.applyLogic v w left right)
      (op.applyLogic v w (place left) (place right)) := by
    refine .bind (v.moves_toBool place left _) fun a => ?_
    refine .bind (w.moves_toBool place right _) fun b => ?_
    split <;> exact .ok
  have hnumbers : Moves place (op.applyNumbers v w left right o)
      (op.applyNumbers v w (place left) (place right) (place o)) := by
    refine .bind (v.moves_toNumber place left _) fun a => ?_
    refine .bind (w.moves_toNumber place right _) fun b => ?_
    split
    · exact .ok
    · exact .ok
    · split
      · exact .invalid
      · split <;> rfl
    · exact .ok
  cases op with
  | eq | ne => exact .ok
  | and | or => exact hlogic
  | _ => exact hnumbers

theorem UnaryOp.moves_apply (op : UnaryOp) : Moves place (op.apply v o) (op.apply v (place o)) := by
  cases op with
  | not => exact .bind (v.moves_toBool place o _) fun b => by cases b <;> exact .ok
  | negate =>
    refine .bind (v.moves_toNumber place o _) fun d => ?_
    cases d with
    | none => exact .ok
    | some d =>
      dsimp only
      split <;> rfl

end Operators

/-! ## Loops -/

namespace Loop

variable {place : Origin → Origin}

theorem moves_texts {render render' : Value × Value → Eval (Option String)}
    (h : ∀ item, Moves place (render item) (render' item)) (items : List (Value × Value)) :
    Moves place (texts render items) (texts render' items) := by
  induction items with
  | nil => exact .ok
  | cons item rest ih =>
    rw [texts, texts]
    exact .bind (h item) fun _ => .bind ih fun _ => .ok

theorem moves_values {keep keep' : Value × Value → Eval (Option Bool)}
    {value value' : Value × Value → Eval Value}
    (hkeep : ∀ item, Moves place (keep item) (keep' item))
    (hvalue : ∀ item, Moves place (value item) (value' item)) (items : List (Value × Value)) :
    Moves place (values keep value items) (values keep' value' items) := by
  induction items with
  | nil => exact .ok
  | cons item rest ih =>
    rw [values, values]
    refine .bind (hkeep item) fun kept => ?_
    match kept with
    | some true => exact .bind (hvalue item) fun _ => .bind ih fun _ => .ok
    | some false => exact ih
    | none => exact .bind ih fun _ => .ok

theorem moves_fields {keep keep' : Value × Value → Eval (Option Bool)}
    {value value' : Value × Value → Eval Value} {key key' : Value × Value → Eval (Option String)}
    {add add' : String → Value → α → Eval α}
    (hkeep : ∀ item, Moves place (keep item) (keep' item))
    (hvalue : ∀ item, Moves place (value item) (value' item))
    (hkey : ∀ item, Moves place (key item) (key' item))
    (hadd : ∀ name v made, Moves place (add name v made) (add' name v made))
    (made : α) (items : List (Value × Value)) :
    Moves place (fields keep value key add made items)
      (fields keep' value' key' add' made items) := by
  induction items generalizing made with
  | nil => exact .ok
  | cons item rest ih =>
    rw [fields, fields]
    refine .bind (hkeep item) fun kept => ?_
    match kept with
    | some true =>
      refine .bind (hvalue item) fun v => .bind (hkey item) fun name => ?_
      cases name with
      | some name => exact .bind (hadd name v made) fun made => ih made
      | none => exact .bind (ih made) fun _ => .ok
    | some false => exact ih made
    | none => exact .bind (ih made) fun _ => .ok

theorem moves_addUnique (o : Origin) (name : String) (v : Value) (made : Fields Value) :
    Moves place (addUnique o name v made) (addUnique (place o) name v made) := by
  unfold addUnique
  split
  · exact .invalid
  · exact .ok

theorem moves_over {items items' : Eval (Option (List (Value × Value)))}
    {run run' : List (Value × Value) → Eval (Option α)} (h : Moves place items items')
    (hrun : ∀ items, Moves place (run items) (run' items)) :
    Moves place (Loop.over items run) (Loop.over items' run') := by
  refine .bind h fun items => ?_
  cases items with
  | none => exact .ok
  | some items => exact hrun items

end Loop

/-! ## Expressions -/

section Steps

variable {place : Origin → Origin} {ρ : String → String} {s s' : Scope} {e : Expr}

theorem Expr.moves_truth (role : Role)
    (h : Moves place (e.evaluate s) ((e.rename place ρ).evaluate s')) :
    Moves place (e.truth s role) ((e.rename place ρ).truth s' role) := by
  refine .bind h fun v => ?_
  rw [e.origin_rename]
  exact v.moves_toBool place _ role

theorem Expr.moves_items (h : Moves place (e.evaluate s) ((e.rename place ρ).evaluate s')) :
    Moves place (e.items s) ((e.rename place ρ).items s') := by
  refine .bind h fun v => ?_
  rw [e.origin_rename]
  exact v.moves_elements place _

theorem Loop.moves_keyText {vars vars' : LoopVars} {item : Value × Value}
    (h : Moves place (e.evaluate (Loop.bind vars s item))
      ((e.rename place ρ).evaluate (Loop.bind vars' s' item))) :
    Moves place (Loop.keyText s vars e item) (Loop.keyText s' vars' (e.rename place ρ) item) := by
  refine .bind h fun v => ?_
  rw [e.origin_rename]
  exact v.moves_toText place _ _

end Steps

section Forms

variable {place : Origin → Origin} {ρ σ : String → String} {s s' : Scope} {vars vars' : LoopVars}
  {collection key value : Expr} {cond : Option Expr}

/-- The `for` expression of a tuple, from its collection and its rounds. -/
theorem Expr.moves_forTuple (o : Origin)
    (hcollection : Moves place (collection.evaluate s) ((collection.rename place ρ).evaluate s'))
    (hvalue : ∀ item, Moves place (value.evaluate (Loop.bind vars s item))
      ((value.rename place σ).evaluate (Loop.bind vars' s' item)))
    (hcond : ∀ item, Moves place (Expr.holds (Loop.bind vars s item) cond)
      (Expr.holds (Loop.bind vars' s' item) (Expr.renameCondition place σ cond))) :
    Moves place ((Expr.forTuple o vars collection value cond).evaluate s)
      ((Expr.forTuple (place o) vars' (collection.rename place ρ) (value.rename place σ)
        (Expr.renameCondition place σ cond)).evaluate s') := by
  rw [Expr.evaluate_forTuple, Expr.evaluate_forTuple]
  exact .bind (Loop.moves_over (moves_items hcollection) (Loop.moves_values hcond hvalue))
    fun _ => .ok

/-- The `for` expression of an object, from its collection and its rounds. -/
theorem Expr.moves_forObject (o : Origin) (grouping : Bool)
    (hcollection : Moves place (collection.evaluate s) ((collection.rename place ρ).evaluate s'))
    (hkey : ∀ item, Moves place (key.evaluate (Loop.bind vars s item))
      ((key.rename place σ).evaluate (Loop.bind vars' s' item)))
    (hvalue : ∀ item, Moves place (value.evaluate (Loop.bind vars s item))
      ((value.rename place σ).evaluate (Loop.bind vars' s' item)))
    (hcond : ∀ item, Moves place (Expr.holds (Loop.bind vars s item) cond)
      (Expr.holds (Loop.bind vars' s' item) (Expr.renameCondition place σ cond))) :
    Moves place ((Expr.forObject o vars collection key value cond grouping).evaluate s)
      ((Expr.forObject (place o) vars' (collection.rename place ρ) (key.rename place σ)
        (value.rename place σ) (Expr.renameCondition place σ cond) grouping).evaluate s') := by
  have hitems := moves_items hcollection
  have htext := fun item => Loop.moves_keyText (hkey item)
  cases grouping with
  | true =>
    rw [Expr.evaluate_forObject_grouping, Expr.evaluate_forObject_grouping]
    exact .bind (Loop.moves_over hitems
      (Loop.moves_fields hcond hvalue htext (fun _ _ _ => .ok) [])) fun _ => .ok
  | false =>
    rw [Expr.evaluate_forObject_unique, Expr.evaluate_forObject_unique]
    exact .bind (Loop.moves_over hitems
      (Loop.moves_fields hcond hvalue htext (Loop.moves_addUnique o) [])) fun _ => .ok

/-- The `for` directive of a template, from its collection and its rounds. -/
theorem Part.moves_loop {body : List Part}
    (hcollection : Moves place (collection.evaluate s) ((collection.rename place ρ).evaluate s'))
    (hbody : ∀ item, Moves place (Part.renderAll (Loop.bind vars s item) body)
      (Part.renderAll (Loop.bind vars' s' item) (Part.renameAll place σ body))) :
    Moves place ((Part.loop vars collection body).render s)
      ((Part.loop vars' (collection.rename place ρ) (Part.renameAll place σ body)).render s') := by
  rw [Part.render_loop, Part.render_loop]
  exact Loop.moves_over (Expr.moves_items hcollection) (Loop.moves_texts hbody)

end Forms

mutual

/-- With other names, in a scope in which these stand for the same, an expression has the same
value, or the same error at the place to which the part at fault has moved. -/
theorem Expr.moves_evaluate (place : Origin → Origin) (e : Expr) {ρ : String → String}
    {s s' : Scope} (h : Scope.Renames ρ e.boundNames e.freeNames s s') :
    Moves place (e.evaluate s) ((e.rename place ρ).evaluate s') := by
  -- One case for each form. The scopes and the names are arbitrary, since a loop binds anew.
  match e with
  | .literal _ _ => exact .ok
  | .variable _ name =>
    rw [Expr.rename, Expr.evaluate, Expr.evaluate, (h name (List.mem_singleton_self name)).1]
    exact .ok
  | .template _ [.interp e] =>
    -- It has the value of the expression and is no text.
    rw [Expr.boundNames, Part.allBoundNames, Part.boundNames, Expr.freeNames, Part.allFreeNames,
      Part.freeNames] at h
    rw [Expr.rename, Part.renameAll, Part.rename, Part.renameAll, Expr.evaluate, Expr.evaluate]
    exact e.moves_evaluate place h.append.1
  | .template o [] | .template o [.text _] | .template o [.cond _ _ _] | .template o [.loop _ _ _]
  | .template o (_ :: _ :: _) =>
    rw [Expr.evaluate_template _ _ _ (by simp), Expr.rename,
      Expr.evaluate_template _ _ _ (by simp [Part.renameAll, Part.rename])]
    exact .bind (Part.moves_renderAll place _ h) fun _ => .ok
  | .getAttr o target name =>
    rw [Expr.rename, Expr.evaluate, Expr.evaluate]
    exact .bind (target.moves_evaluate place h) fun v => v.moves_getAttr place o name
  | .index o target key =>
    rw [Expr.boundNames, Expr.freeNames] at h
    rw [Expr.rename, Expr.evaluate, Expr.evaluate]
    refine .bind (target.moves_evaluate place h.append.1) fun v => ?_
    exact .bind (key.moves_evaluate place h.append.2) fun k => v.moves_index place o k
  | .splat o target steps _ =>
    rw [Expr.boundNames, Expr.freeNames] at h
    rw [Expr.rename, Expr.evaluate, Expr.evaluate]
    refine .bind (target.moves_evaluate place h.append.1) fun v => ?_
    split
    · exact .bind (.mapM _ fun w => Step.moves_applyAll place steps h.append.2 o w) fun _ => .ok
    · exact .ok
  | .call _ _ args _ =>
    rw [Expr.rename, Expr.evaluate, Expr.evaluate]
    exact .bind (Expr.moves_evaluateAll place args h) fun _ => .ok
  | .tuple _ items =>
    rw [Expr.rename, Expr.evaluate, Expr.evaluate]
    exact .bind (Expr.moves_evaluateAll place items h) fun _ => .ok
  | .object o items =>
    rw [Expr.rename, Expr.evaluate_object, Expr.evaluate_object]
    exact .bind (ObjectItem.moves_evaluateAll place items h []) fun _ => .ok
  | .forTuple o vars collection value cond =>
    -- Only the collection is read in the scope around the loop.
    rw [Expr.boundNames, Expr.freeNames] at h
    have hround := fun item => (h.append.2.loopBind item).append
    exact Expr.moves_forTuple o (collection.moves_evaluate place h.append.1)
      (fun item => value.moves_evaluate place (hround item).1)
      (fun item => Expr.moves_holds place cond (hround item).2)
  | .forObject o vars collection key value cond grouping =>
    rw [Expr.boundNames, Expr.freeNames] at h
    have hround := fun item => (h.append.2.loopBind item).append
    exact Expr.moves_forObject o grouping (collection.moves_evaluate place h.append.1)
      (fun item => key.moves_evaluate place (hround item).2.append.1)
      (fun item => value.moves_evaluate place (hround item).1)
      (fun item => Expr.moves_holds place cond (hround item).2.append.2)
  | .conditional o cond yes no =>
    rw [Expr.boundNames, Expr.freeNames] at h
    rw [Expr.rename, Expr.evaluate_conditional, Expr.evaluate_conditional, yes.origin_rename,
      no.origin_rename]
    refine .bind (Expr.moves_truth _ (cond.moves_evaluate place h.append.1)) fun c => ?_
    refine .bind (yes.moves_evaluate place h.append.2.append.1) fun v => ?_
    refine .bind (no.moves_evaluate place h.append.2.append.2) fun w => ?_
    exact Value.moves_choose ..
  | .binary o op left right =>
    rw [Expr.boundNames, Expr.freeNames] at h
    rw [Expr.rename, Expr.evaluate, Expr.evaluate, left.origin_rename, right.origin_rename]
    refine .bind (left.moves_evaluate place h.append.1) fun v => ?_
    exact .bind (right.moves_evaluate place h.append.2) fun w => op.moves_apply ..
  | .unary _ op operand =>
    rw [Expr.rename, Expr.evaluate, Expr.evaluate, operand.origin_rename]
    exact .bind (operand.moves_evaluate place h) fun v => op.moves_apply ..
  | .parens _ inner =>
    rw [Expr.rename, Expr.evaluate, Expr.evaluate]
    exact inner.moves_evaluate place h

theorem Expr.moves_evaluateAll (place : Origin → Origin) (es : List Expr) {ρ : String → String}
    {s s' : Scope} (h : Scope.Renames ρ (Expr.allBoundNames es) (Expr.allFreeNames es) s s') :
    Moves place (Expr.evaluateAll s es) (Expr.evaluateAll s' (Expr.renameAll place ρ es)) := by
  match es with
  | [] => exact .ok
  | e :: rest =>
    rw [Expr.allBoundNames, Expr.allFreeNames] at h
    rw [Expr.renameAll, Expr.evaluateAll, Expr.evaluateAll]
    refine .bind (e.moves_evaluate place h.append.1) fun v => ?_
    exact .bind (Expr.moves_evaluateAll place rest h.append.2) fun _ => .ok

theorem Expr.moves_holds (place : Origin → Origin) (cond : Option Expr) {ρ : String → String}
    {s s' : Scope}
    (h : Scope.Renames ρ (Expr.conditionBoundNames cond) (Expr.conditionFreeNames cond) s s') :
    Moves place (Expr.holds s cond) (Expr.holds s' (Expr.renameCondition place ρ cond)) := by
  match cond with
  | none => exact .ok
  | some cond =>
    rw [Expr.renameCondition, Expr.holds, Expr.holds, cond.origin_rename]
    exact .bind (cond.moves_evaluate place h) fun v => v.moves_toBool place _ _

theorem Part.moves_renderAll (place : Origin → Origin) (parts : List Part) {ρ : String → String}
    {s s' : Scope} (h : Scope.Renames ρ (Part.allBoundNames parts) (Part.allFreeNames parts) s s') :
    Moves place (Part.renderAll s parts) (Part.renderAll s' (Part.renameAll place ρ parts)) := by
  match parts with
  | [] => exact .ok
  | part :: rest =>
    rw [Part.allBoundNames, Part.allFreeNames] at h
    rw [Part.renameAll, Part.renderAll, Part.renderAll]
    refine .bind (part.moves_render place h.append.1) fun _ => ?_
    exact .bind (Part.moves_renderAll place rest h.append.2) fun _ => .ok

theorem Part.moves_render (place : Origin → Origin) (part : Part) {ρ : String → String}
    {s s' : Scope} (h : Scope.Renames ρ part.boundNames part.freeNames s s') :
    Moves place (part.render s) ((part.rename place ρ).render s') := by
  match part with
  | .text _ => exact .ok
  | .interp e =>
    rw [Part.rename, Part.render, Part.render, e.origin_rename]
    exact .bind (e.moves_evaluate place h) fun v => v.moves_toText place _ _
  | .cond test yes no =>
    rw [Part.boundNames, Part.freeNames] at h
    rw [Part.rename, Part.render_cond, Part.render_cond]
    refine .bind (Expr.moves_truth _ (test.moves_evaluate place h.append.1)) fun c => ?_
    -- The condition has the same value, so the same texts are chosen.
    match c with
    | some true => exact Part.moves_renderAll place yes h.append.2.append.1
    | some false => exact Part.moves_renderAll place no h.append.2.append.2
    | none => exact .ok
  | .loop vars collection body =>
    rw [Part.boundNames, Part.freeNames] at h
    exact Part.moves_loop (collection.moves_evaluate place h.append.1)
      (fun item => Part.moves_renderAll place body (h.append.2.loopBind item))

theorem Step.moves_applyAll (place : Origin → Origin) (steps : List Step) {ρ : String → String}
    {s s' : Scope} (h : Scope.Renames ρ (Step.allBoundNames steps) (Step.allFreeNames steps) s s')
    (o : Origin) (v : Value) :
    Moves place (Step.applyAll s o steps v)
      (Step.applyAll s' (place o) (Step.renameAll place ρ steps) v) := by
  match steps with
  | [] => exact .ok
  | .attr name :: rest =>
    rw [Step.renameAll, Step.rename, Step.applyAll, Step.applyAll, Step.apply, Step.apply]
    exact .bind (v.moves_getAttr place o name) fun w => Step.moves_applyAll place rest h o w
  | .index key :: rest =>
    rw [Step.allBoundNames, Step.boundNames, Step.allFreeNames, Step.freeNames] at h
    rw [Step.renameAll, Step.rename, Step.applyAll, Step.applyAll, Step.apply, Step.apply]
    refine .bind (.bind (key.moves_evaluate place h.append.1) fun k => v.moves_index place o k)
      fun w => ?_
    exact Step.moves_applyAll place rest h.append.2 o w

theorem ObjectItem.moves_evaluateAll (place : Origin → Origin) (items : List ObjectItem)
    {ρ : String → String} {s s' : Scope}
    (h : Scope.Renames ρ (ObjectItem.allBoundNames items) (ObjectItem.allFreeNames items) s s')
    (made : Fields Value) :
    Moves place (ObjectItem.evaluateAll s made items)
      (ObjectItem.evaluateAll s' made (ObjectItem.renameAll place ρ items)) := by
  match items with
  | [] => exact .ok
  | .mk key value :: rest =>
    obtain ⟨hkey, hvalue, hrest⟩ := ObjectItem.renames_cons h
    obtain ⟨key', hitems, hname⟩ : ∃ key', ObjectItem.renameAll place ρ (.mk key value :: rest) =
        .mk key' (value.rename place ρ) :: ObjectItem.renameAll place ρ rest ∧
          Moves place (key.keyText s) (key'.keyText s') := by
      -- A name as a key stays and stands for itself; any other key is evaluated.
      by_cases hvariable : ∃ o name, key = .variable o name
      · obtain ⟨o, name, rfl⟩ := hvariable
        exact ⟨_, rfl, .ok⟩
      · have hne : ∀ o name, key ≠ .variable o name := fun o name h => hvariable ⟨o, name, h⟩
        have hne' : ∀ o name, key.rename place ρ ≠ .variable o name := by
          intro o name heq
          cases key <;> cases heq
          exact hne _ _ rfl
        refine ⟨_, ObjectItem.renameAll.eq_3 place ρ key value rest hne, ?_⟩
        rw [Expr.keyText.eq_2 s key hne, Expr.keyText.eq_2 s' _ hne', key.origin_rename]
        exact .bind (key.moves_evaluate place (hkey hne)) fun v => v.moves_toText place _ _
    rw [hitems, ObjectItem.evaluateAll_cons, ObjectItem.evaluateAll_cons]
    refine .bind hname fun name => .bind (value.moves_evaluate place hvalue) fun v => ?_
    cases name with
    | some name => exact ObjectItem.moves_evaluateAll place rest hrest _
    | none => exact .bind (ObjectItem.moves_evaluateAll place rest hrest made) fun _ => .ok

end

end ResourceTables
