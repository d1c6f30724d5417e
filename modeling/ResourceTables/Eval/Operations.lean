import ResourceTables.Eval.Error

/-!
# Operations on values

Conversions, traversals and operators. Each gives an unknown result where it meets an unknown
operand, and fails only where it would fail whatever the unknown operand turns out to be.
-/

namespace ResourceTables

/-- The result of an evaluation. -/
abbrev Eval := Except EvalError

namespace Value

/-- The truth value as text. -/
def boolText (b : Bool) : String := if b then "true" else "false"

/-- The value as a text; nothing when it is unknown. -/
def toText (v : Value) (o : Origin) (role : Role) : Eval (Option String) :=
  match v with
  | unknown _ => .ok none
  | null _ => .error (.invalid o (.nullText role))
  | string s => .ok (some s)
  | number d => .ok (some d.text)
  | bool b => .ok (some (boolText b))
  | v => .error (.invalid o (.noText role v.kind))

/-- The value as a number; nothing when it is unknown. -/
def toNumber (v : Value) (o : Origin) (role : Role) : Eval (Option Decimal) :=
  match v with
  | unknown _ => .ok none
  | null _ => .error (.invalid o (.nullNumber role))
  | number d => .ok (some d)
  | string s =>
    match Decimal.ofText? s with
    | some d => if d.withinLimits then .ok (some d) else .error .beyondLimits
    | none => .error (.invalid o (.noNumber role .string))
  | v => .error (.invalid o (.noNumber role v.kind))

/-- The value as a truth value; nothing when it is unknown. -/
def toBool (v : Value) (o : Origin) (role : Role) : Eval (Option Bool) :=
  match v with
  | unknown _ => .ok none
  | null _ => .error (.invalid o (.nullBool role))
  | bool b => .ok (some b)
  | string "true" => .ok (some true)
  | string "false" => .ok (some false)
  | v => .error (.invalid o (.noBool role v.kind))

/-- The attribute of the given name. -/
def getAttr (v : Value) (name : String) (o : Origin) : Eval Value :=
  match v with
  | unknown _ => .ok (.unknown .dynamic)
  | null _ => .error (.invalid o (.attributeOfNull name))
  | object fields =>
    match Fields.get? name fields with
    | some field => .ok field
    | none => .error (.invalid o (.noAttribute name))
  | v => .error (.invalid o (.attributeOf name v.kind))

/-- The element of a tuple at a number. -/
def elementAt (items : List Value) (index : Decimal) (o : Origin) : Eval Value :=
  if index.isIntegral && 0 ≤ index.toInt then
    match items[index.toInt.toNat]? with
    | some item => .ok item
    | none => .error (.invalid o (.noElement index))
  else .error (.invalid o (.noElement index))

/-- The element at the given key. -/
def index (v key : Value) (o : Origin) : Eval Value :=
  if v.isNull then .error (.invalid o .indexOfNull)
  else if key.isNull then .error (.invalid o .nullIndex)
  -- Neither is null, but one of them may be anything.
  else if !v.isKnown || !key.isKnown then .ok (.unknown .dynamic)
  else match v with
    | tuple items => do
      match ← key.toNumber o .index with
      | some n => elementAt items n o
      | none => return .unknown .dynamic
    | object fields => do
      match ← key.toText o .index with
      | some name =>
        match Fields.get? name fields with
        | some field => return field
        | none => throw (.invalid o (.noKey name))
      | none => return .unknown .dynamic
    | v => .error (.invalid o (.indexOf v.kind))

/-- The keys and elements that a loop runs over; nothing when they are unknown. -/
def elements (v : Value) (o : Origin) : Eval (Option (List (Value × Value))) :=
  match v with
  | unknown _ => .ok none
  | null _ => .error (.invalid o .loopOverNull)
  | tuple items =>
    .ok (some (items.zipIdx.map fun (item, i) => (.number (.ofNat i), item)))
  | object fields => .ok (some (fields.map fun (k, v) => (.string k, v)))
  | v => .error (.invalid o (.loopOver v.kind))

/-- The values that a splat runs over: the elements of a tuple, nothing for null, and otherwise the
value itself. -/
def splatElements : Value → List Value
  | null _ => []
  | tuple items => items
  | v => [v]

/-- The kind that both branches of a conditional convert to. -/
def unify (yes no : Value) : Option ValueKind :=
  let a := yes.kind
  let b := no.kind
  if a = b then some a
  else if a = .dynamic then some b
  else if b = .dynamic then some a
  else if a.isPrimitive && b.isPrimitive && (a == .string || b == .string) then some .string
  else none

/-- The branch that a conditional chooses, converted to the kind of both. -/
def convertBranch (kind : ValueKind) (v : Value) (o : Origin) : Eval Value :=
  if kind = .string ∧ v.kind ≠ .string ∧ v.kind ≠ .dynamic then do
    match ← v.toText o .branch with
    | some s => return .string s
    | none => return .unknown .string
  else .ok v

/-- The value of a conditional, given its condition and the values and origins of both branches. -/
def choose (cond : Option Bool) (yes no : Value) (yesOrigin noOrigin o : Origin) : Eval Value :=
  match unify yes no with
  | none => .error (.invalid o (.branches yes.kind no.kind))
  | some kind =>
    match cond with
    | none => .ok (.unknown kind)
    | some true => convertBranch kind yes yesOrigin
    | some false => convertBranch kind no noOrigin

end Value

namespace BinaryOp

/-- The operators that compare numbers. -/
def comparison? : BinaryOp → Option (Ordering → Bool)
  | lt => some (· == .lt)
  | gt => some (· == .gt)
  | le => some (· != .gt)
  | ge => some (· != .lt)
  | _ => none

/-- The result of an arithmetic operator on numbers. -/
def arithmetic (op : BinaryOp) (a b : Decimal) : Except Decimal.Fault Decimal :=
  match op with
  | add => a.add b
  | sub => a.sub b
  | mul => a.mul b
  | div => a.div b
  | rem => a.rem b
  | _ => .error .invalid

/-- Equality and its opposite: unknown unless both operands are wholly known. -/
def applyEquality (opposite : Bool) (left right : Value) : Value :=
  if left.whollyKnown && right.whollyKnown then .bool (left.equals right != opposite)
  else .unknown .bool

/-- The operators between truth values. -/
def applyLogic (op : BinaryOp) (left right : Value) (leftOrigin rightOrigin : Origin) :
    Eval Value := do
  let a ← left.toBool leftOrigin (.left op)
  let b ← right.toBool rightOrigin (.right op)
  match a, b with
  | some a, some b => return .bool (if op = .and then a && b else a || b)
  | _, _ => return .unknown .bool

/-- The operators between numbers. -/
def applyNumbers (op : BinaryOp) (left right : Value) (leftOrigin rightOrigin o : Origin) :
    Eval Value := do
  let a ← left.toNumber leftOrigin (.left op)
  let b ← right.toNumber rightOrigin (.right op)
  match op.comparison?, a, b with
  | some holds, some a, some b => return .bool (holds (a.compare b))
  | some _, _, _ => return .unknown .bool
  | none, some a, some b =>
    if (op = .div ∨ op = .rem) ∧ b.isZero then throw (.invalid o .divisionByZero)
    else match op.arithmetic a b with
      | .ok d => return .number d
      | .error .outOfRange => throw (.invalid o .outOfRange)
      | .error .invalid => throw (.invalid o (.invalidOperation op))
  | none, _, _ => return .unknown .number

/-- The result of an operator on two values, given where the operands and the whole are written. -/
def apply (op : BinaryOp) (left right : Value) (leftOrigin rightOrigin o : Origin) : Eval Value :=
  match op with
  | eq => .ok (applyEquality false left right)
  | ne => .ok (applyEquality true left right)
  | and | or => op.applyLogic left right leftOrigin rightOrigin
  | op => op.applyNumbers left right leftOrigin rightOrigin o

end BinaryOp

/-- The result of an operator on one value, given where the operand is written. -/
def UnaryOp.apply (op : UnaryOp) (v : Value) (o : Origin) : Eval Value :=
  match op with
  | .not => do
    match ← v.toBool o (.operand .not) with
    | some b => return .bool !b
    | none => return .unknown .bool
  | .negate => do
    match ← v.toNumber o (.operand .negate) with
    | some d =>
      match d.neg with
      | .ok d => return .number d
      | .error _ => throw .beyondLimits
    | none => return .unknown .number

/-- The value of a constant. -/
def Literal.value : Literal → Value
  | .null => .null .dynamic
  | .bool b => .bool b
  | .number d => .number d

end ResourceTables
