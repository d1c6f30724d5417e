import ResourceTables.Config.Expr
import ResourceTables.Eval.Value
import ResourceTables.Text.Quoted

/-!
# What can be wrong with an expression

The causes for which an expression has no value, whatever the unknown names in it stand for, and
their wording.
-/

namespace ResourceTables

/-- What a value is used as where it has to be converted. -/
inductive Role where
  | interpolation
  | templateCondition
  | objectKey
  | index
  | left (op : BinaryOp)
  | right (op : BinaryOp)
  | operand (op : UnaryOp)
  | condition
  | branch
  | loopCondition
  | loopKey
  deriving DecidableEq, Repr, Inhabited

/-- The role as messages name it. -/
def Role.text : Role → String
  | interpolation => "template interpolation"
  | templateCondition => "template condition"
  | objectKey => "object key"
  | index => "index"
  | left op => "left operand of " ++ op.symbol
  | right op => "right operand of " ++ op.symbol
  | operand op => "operand of " ++ op.symbol
  | condition => "condition"
  | branch => "conditional result"
  | loopCondition => "for expression condition"
  | loopKey => "for expression key"

/-- Why an expression has no value. -/
inductive EvalCause where
  /-- A null is used as a text. -/
  | nullText (role : Role)
  /-- A value that is no text is used as one. -/
  | noText (role : Role) (got : ValueKind)
  /-- A null is used as a number. -/
  | nullNumber (role : Role)
  /-- A value that is no number is used as one. -/
  | noNumber (role : Role) (got : ValueKind)
  /-- A null is used as a truth value. -/
  | nullBool (role : Role)
  /-- A value that is no truth value is used as one. -/
  | noBool (role : Role) (got : ValueKind)
  /-- A null has no attributes. -/
  | attributeOfNull (name : String)
  /-- Only objects have attributes. -/
  | attributeOf (name : String) (got : ValueKind)
  /-- The object has no such attribute. -/
  | noAttribute (name : String)
  /-- A null has no elements. -/
  | indexOfNull
  /-- The index is null. -/
  | nullIndex
  /-- The tuple has no such element. -/
  | noElement (index : Decimal)
  /-- The object has no such element. -/
  | noKey (name : String)
  /-- Only tuples and objects have elements. -/
  | indexOf (got : ValueKind)
  /-- A division by zero. -/
  | divisionByZero
  /-- The result of an operation is too large. -/
  | outOfRange
  /-- The operation is not defined on its operands. -/
  | invalidOperation (op : BinaryOp)
  /-- The branches of a conditional have no kind in common. -/
  | branches (yes no : ValueKind)
  /-- A null has nothing to loop over. -/
  | loopOverNull
  /-- Only tuples and objects can be looped over. -/
  | loopOver (got : ValueKind)
  /-- A loop gives one key twice. -/
  | duplicateKey (name : String)
  deriving DecidableEq, Repr, Inhabited

/-- The cause in words. -/
def EvalCause.text : EvalCause → String
  | nullText role => "invalid " ++ role.text ++ ": the value is null"
  | noText role got => "invalid " ++ role.text ++ ": a string is required, got a " ++ got.text
  | nullNumber role => "invalid " ++ role.text ++ ": a number is required, got null"
  | noNumber role got => "invalid " ++ role.text ++ ": a number is required, got a " ++ got.text
  | nullBool role => "invalid " ++ role.text ++ ": a bool is required, got null"
  | noBool role got => "invalid " ++ role.text ++ ": a bool is required, got a " ++ got.text
  | attributeOfNull name =>
    "attempt to get attribute " ++ Text.quoted name ++ " from a null value"
  | attributeOf name got =>
    "unsupported attribute " ++ Text.quoted name ++ ": a " ++ got.text ++
      " value does not have attributes"
  | noAttribute name =>
    "unsupported attribute: this object does not have an attribute named " ++ Text.quoted name
  | indexOfNull => "attempt to index a null value"
  | nullIndex => "invalid index: the index must not be null"
  | noElement index => "invalid index: the collection has no element at index " ++ index.text
  | noKey name => "invalid index: the object has no element with key " ++ Text.quoted name
  | indexOf got => "invalid index: a " ++ got.text ++ " value does not have any indices"
  | divisionByZero => "division by zero"
  | outOfRange => "arithmetic result is out of range"
  | invalidOperation op => "invalid arithmetic operation " ++ op.symbol
  | branches yes no =>
    "inconsistent conditional result types: " ++ yes.text ++ " and " ++ no.text
  | loopOverNull => "iteration over a null value"
  | loopOver got => "iteration over a non-iterable " ++ got.text ++ " value"
  | duplicateKey name =>
    "duplicate object key " ++ Text.quoted name ++ "; use the ... grouping mode to group values"

/-- Why an evaluation gives no value. -/
inductive EvalError where
  /-- The expression at the origin is invalid. -/
  | invalid (o : Origin) (cause : EvalCause)
  /-- A number is beyond what a number can be. -/
  | beyondLimits
  deriving DecidableEq, Repr, Inhabited

/-- A cause at an origin in words, with the place in front. -/
def EvalCause.messageAt (cause : EvalCause) (o : Origin) : String :=
  o.pos.text ++ ": " ++ cause.text

end ResourceTables
