import ResourceTables.Eval.Evaluate

/-!
# The forms of expressions

Evaluation runs the same few steps in many forms: a condition is evaluated and read as a truth
value, a collection is evaluated and looped over, and what has been collected becomes a value that
is unknown when anything in it was. The equations here show each form as these steps, so that what
is proved of a step once holds in every form that takes it.
-/

namespace ResourceTables

/-- The truth value of an expression that is used as a condition. -/
def Expr.truth (s : Scope) (role : Role) (test : Expr) : Eval (Option Bool) :=
  test.evaluate s >>= fun v => v.toBool test.origin role

/-- The keys and elements of an expression that is looped over. -/
def Expr.items (s : Scope) (collection : Expr) : Eval (Option (List (Value × Value))) :=
  collection.evaluate s >>= fun v => v.elements collection.origin

/-- What is known of a loop over items that may be unknown. -/
def Loop.over (items : Eval (Option (List (Value × Value))))
    (run : List (Value × Value) → Eval (Option α)) : Eval (Option α) :=
  items >>= fun items => items.elim (.ok none) run

/-- The key of an object constructor's item: a name stands for itself. -/
def Expr.keyText (s : Scope) : Expr → Eval (Option String)
  | .variable _ name => .ok (some name)
  | key => do (← key.evaluate s).toText key.origin .objectKey

section Forms

variable (s : Scope) (o : Origin) (vars : LoopVars) (collection : Expr)

/-- Evaluating a template that is more than one interpolation renders its parts. -/
theorem Expr.evaluate_template (parts : List Part) (h : ∀ e, parts ≠ [.interp e]) :
    (Expr.template o parts).evaluate s = (do
      return (← Part.renderAll s parts).elim (.unknown .string) .string) := by
  rw [Expr.evaluate.eq_3 s o parts h]
  refine bind_congr fun text => ?_
  cases text <;> rfl

theorem Expr.evaluate_object (items : List ObjectItem) :
    (Expr.object o items).evaluate s = (do
      return (← ObjectItem.evaluateAll s [] items).elim (.unknown .object) .object) := by
  rw [Expr.evaluate]
  refine bind_congr fun fields => ?_
  cases fields <;> rfl

theorem Expr.evaluate_forTuple (value : Expr) (cond : Option Expr) :
    (Expr.forTuple o vars collection value cond).evaluate s = (do
      let values ← Loop.over (collection.items s)
        (Loop.values (fun item => Expr.holds (Loop.bind vars s item) cond)
          (fun item => value.evaluate (Loop.bind vars s item)))
      return values.elim (.unknown .tuple) .tuple) := by
  simp only [Expr.evaluate, Loop.over, Expr.items, bind_assoc]
  refine bind_congr fun v => bind_congr fun items => ?_
  cases items <;> rfl

/-- The key that a round of a loop gives its value. -/
def Loop.keyText (key : Expr) (item : Value × Value) : Eval (Option String) :=
  key.evaluate (Loop.bind vars s item) >>= fun v => v.toText key.origin .loopKey

theorem Expr.evaluate_forObject_unique (key value : Expr) (cond : Option Expr) :
    (Expr.forObject o vars collection key value cond false).evaluate s = (do
      let fields ← Loop.over (collection.items s)
        (Loop.fields (fun item => Expr.holds (Loop.bind vars s item) cond)
          (fun item => value.evaluate (Loop.bind vars s item)) (Loop.keyText s vars key)
          (Loop.addUnique o) [])
      return fields.elim (.unknown .object) .object) := by
  simp only [Expr.evaluate, Loop.over, Expr.items, bind_assoc]
  refine bind_congr fun v => bind_congr fun items => ?_
  cases items <;> rfl

theorem Expr.evaluate_forObject_grouping (key value : Expr) (cond : Option Expr) :
    (Expr.forObject o vars collection key value cond true).evaluate s = (do
      let fields ← Loop.over (collection.items s)
        (Loop.fields (fun item => Expr.holds (Loop.bind vars s item) cond)
          (fun item => value.evaluate (Loop.bind vars s item)) (Loop.keyText s vars key)
          Loop.addGrouped [])
      return fields.elim (.unknown .object) fun fields =>
        .object (fields.map fun (name, vs) => (name, .tuple vs))) := by
  simp only [Expr.evaluate, Loop.over, Expr.items, bind_assoc]
  refine bind_congr fun v => bind_congr fun items => ?_
  cases items <;> rfl

theorem Expr.evaluate_conditional (cond yes no : Expr) :
    (Expr.conditional o cond yes no).evaluate s = (do
      let c ← cond.truth s .condition
      let yesValue ← yes.evaluate s
      let noValue ← no.evaluate s
      Value.choose c yesValue noValue yes.origin no.origin o) := by
  simp [Expr.evaluate, Expr.truth]

theorem Part.render_cond (test : Expr) (yes no : List Part) :
    (Part.cond test yes no).render s = (do
      match ← test.truth s .templateCondition with
      | some true => Part.renderAll s yes
      | some false => Part.renderAll s no
      | none => return none) := by
  rw [Part.render, Expr.truth]
  exact (bind_assoc _ _ _).symm

theorem Part.render_loop (body : List Part) :
    (Part.loop vars collection body).render s =
      Loop.over (collection.items s)
        (Loop.texts fun item => Part.renderAll (Loop.bind vars s item) body) := by
  simp only [Part.render, Loop.over, Expr.items, bind_assoc]
  refine bind_congr fun v => bind_congr fun items => ?_
  cases items <;> rfl

theorem ObjectItem.evaluateAll_cons (made : Fields Value) (key value : Expr)
    (rest : List ObjectItem) :
    ObjectItem.evaluateAll s made (.mk key value :: rest) = (do
      let name ← key.keyText s
      let v ← value.evaluate s
      match name with
      | some name => ObjectItem.evaluateAll s (Fields.set name v made) rest
      | none =>
        let _ ← ObjectItem.evaluateAll s made rest
        return none) := by
  cases key <;> simp only [ObjectItem.evaluateAll, Expr.keyText, bind_assoc] <;> rfl

end Forms

end ResourceTables
