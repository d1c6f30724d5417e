import ResourceTables.Eval.Operations

/-!
# Evaluation

The value of an expression where nothing but the names of a scope is known. No functions are known
either, so a call is unknown, but its arguments are still evaluated. Parts are evaluated in reading
order and the first error is the error of the whole.
-/

namespace ResourceTables

namespace Loop

/-- The scope of one round of a loop; when both variables have one name it stands for the key. -/
def bind (vars : LoopVars) (s : Scope) (item : Value × Value) : Scope :=
  let inner := s.bind vars.value item.2
  match vars.key with
  | some key => inner.bind key item.1
  | none => inner

/-- The texts of all rounds of a loop one after the other; nothing when one of them is unknown. -/
def texts (render : Value × Value → Eval (Option String)) :
    List (Value × Value) → Eval (Option String)
  | [] => .ok (some "")
  | item :: rest => do
    let s ← render item
    let ss ← texts render rest
    return do return (← s) ++ (← ss)

/-- The values of all rounds that the condition keeps; nothing when it is unknown in one. -/
def values (keep : Value × Value → Eval (Option Bool)) (value : Value × Value → Eval Value) :
    List (Value × Value) → Eval (Option (List Value))
  | [] => .ok (some [])
  | item :: rest => do
    match ← keep item with
    | some true =>
      let v ← value item
      let vs ← values keep value rest
      return vs.map (v :: ·)
    | some false => values keep value rest
    | none =>
      -- The rounds to come are still evaluated, as they may fail.
      let _ ← values keep value rest
      return none

/-- The rounds that the condition keeps, as pairs of a key and a value, given what the rounds before
have made; `add` takes one more pair in. Nothing when a condition or a key is unknown. -/
def fields (keep : Value × Value → Eval (Option Bool)) (value : Value × Value → Eval Value)
    (key : Value × Value → Eval (Option String)) (add : String → Value → α → Eval α) :
    α → List (Value × Value) → Eval (Option α)
  | made, [] => .ok (some made)
  | made, item :: rest => do
    match ← keep item with
    | some true =>
      let v ← value item
      match ← key item with
      | some name => fields keep value key add (← add name v made) rest
      -- Without a name nothing is taken in, but the rounds to come may still fail.
      | none =>
        let _ ← fields keep value key add made rest
        return none
    | some false => fields keep value key add made rest
    | none =>
      let _ ← fields keep value key add made rest
      return none

/-- Takes a pair in where each key may come once. -/
def addUnique (o : Origin) (name : String) (v : Value) (made : Fields Value) :
    Eval (Fields Value) :=
  if (Fields.get? name made).isSome then .error (.invalid o (.duplicateKey name))
  else .ok (Fields.set name v made)

/-- Takes a pair in where the values of one key are collected. -/
def addGrouped (name : String) (v : Value) (made : Fields (List Value)) :
    Eval (Fields (List Value)) :=
  .ok (Fields.alter (fun vs => vs.getD [] ++ [v]) name made)

end Loop

mutual

/-- The value of an expression in a scope. -/
def Expr.evaluate (s : Scope) : Expr → Eval Value
  | .literal _ value => .ok value.value
  | .template _ [.interp e] => e.evaluate s
  | .template _ parts => do
    match ← Part.renderAll s parts with
    | some text => return .string text
    | none => return .unknown .string
  | .variable _ name => .ok ((s name).getD (.unknown .dynamic))
  | .getAttr o target name => do (← target.evaluate s).getAttr name o
  | .index o target key => do
    let v ← target.evaluate s
    v.index (← key.evaluate s) o
  | .splat o target steps _ => do
    let v ← target.evaluate s
    if v.isKnown then
      return .tuple (← v.splatElements.mapM fun element => Step.applyAll s o steps element)
    else return .unknown .dynamic
  -- No function is called, but its arguments may fail.
  | .call _ _ args _ => do
    let _ ← Expr.evaluateAll s args
    return .unknown .dynamic
  | .tuple _ items => do return .tuple (← Expr.evaluateAll s items)
  | .object _ items => do
    match ← ObjectItem.evaluateAll s [] items with
    | some fields => return .object fields
    | none => return .unknown .object
  | .forTuple _ vars collection value cond => do
    match ← (← collection.evaluate s).elements collection.origin with
    | none => return .unknown .tuple
    | some items =>
      let values ← Loop.values (fun item => Expr.holds (Loop.bind vars s item) cond)
        (fun item => value.evaluate (Loop.bind vars s item)) items
      return values.elim (.unknown .tuple) .tuple
  | .forObject o vars collection key value cond grouping => do
    match ← (← collection.evaluate s).elements collection.origin with
    | none => return .unknown .object
    | some items =>
      let keep := fun item => Expr.holds (Loop.bind vars s item) cond
      let value := fun item => value.evaluate (Loop.bind vars s item)
      let key := fun item => do
        (← key.evaluate (Loop.bind vars s item)).toText key.origin .loopKey
      if grouping then
        let fields ← Loop.fields keep value key Loop.addGrouped [] items
        return fields.elim (.unknown .object) fun fields =>
          .object (fields.map fun (name, vs) => (name, .tuple vs))
      else
        let fields ← Loop.fields keep value key (Loop.addUnique o) [] items
        return fields.elim (.unknown .object) .object
  | .conditional o cond yes no => do
    let c ← (← cond.evaluate s).toBool cond.origin .condition
    -- Both branches are evaluated, also the one that is not chosen.
    let yesValue ← yes.evaluate s
    let noValue ← no.evaluate s
    Value.choose c yesValue noValue yes.origin no.origin o
  | .binary o op left right => do
    let a ← left.evaluate s
    let b ← right.evaluate s
    op.apply a b left.origin right.origin o
  | .unary _ op operand => do op.apply (← operand.evaluate s) operand.origin
  | .parens _ inner => inner.evaluate s

/-- The values of several expressions. -/
def Expr.evaluateAll (s : Scope) : List Expr → Eval (List Value)
  | [] => .ok []
  | e :: rest => do
    let v ← e.evaluate s
    return v :: (← Expr.evaluateAll s rest)

/-- Whether the condition of a loop keeps a round; without a condition every round is kept. -/
def Expr.holds (s : Scope) : Option Expr → Eval (Option Bool)
  | none => .ok (some true)
  | some cond => do (← cond.evaluate s).toBool cond.origin .loopCondition

/-- The text of a part of a template; nothing when it is unknown. -/
def Part.render (s : Scope) : Part → Eval (Option String)
  | .text text => .ok (some text)
  | .interp e => do (← e.evaluate s).toText e.origin .interpolation
  | .cond test yes no => do
    match ← (← test.evaluate s).toBool test.origin .templateCondition with
    | some true => Part.renderAll s yes
    | some false => Part.renderAll s no
    | none => return none
  | .loop vars collection body => do
    match ← (← collection.evaluate s).elements collection.origin with
    | some items => Loop.texts (fun item => Part.renderAll (Loop.bind vars s item) body) items
    | none => return none

/-- The text of several parts of a template; nothing when one of them is unknown. -/
def Part.renderAll (s : Scope) : List Part → Eval (Option String)
  | [] => .ok (some "")
  | part :: rest => do
    let text ← part.render s
    let texts ← Part.renderAll s rest
    return do return (← text) ++ (← texts)

/-- The value that a step of a splat at the given origin leads to. -/
def Step.apply (s : Scope) (o : Origin) (v : Value) : Step → Eval Value
  | .attr name => v.getAttr name o
  | .index key => do v.index (← key.evaluate s) o

/-- The value that the steps of a splat lead to, one after the other. -/
def Step.applyAll (s : Scope) (o : Origin) : List Step → Value → Eval Value
  | [], v => .ok v
  | step :: rest, v => do Step.applyAll s o rest (← step.apply s o v)

/-- The fields of an object constructor, given those before; nothing when a key is unknown. A name
as a key stands for itself. -/
def ObjectItem.evaluateAll (s : Scope) (made : Fields Value) :
    List ObjectItem → Eval (Option (Fields Value))
  | [] => .ok (some made)
  | .mk key value :: rest => do
    let name ← match key with
      | .variable _ name => pure (some name)
      | key => do (← key.evaluate s).toText key.origin .objectKey
    let v ← value.evaluate s
    match name with
    | some name => ObjectItem.evaluateAll s (Fields.set name v made) rest
    | none =>
      let _ ← ObjectItem.evaluateAll s made rest
      return none

end

end ResourceTables
