import ResourceTables.Config.Body
import ResourceTables.Decimal.Notation
import ResourceTables.Native.Escape
import ResourceTables.Native.Template
import ResourceTables.Native.Token

/-!
# Operands

The expressions that a reader builds while it reads. What a construct says can be at fault although
its tokens are right: a number may be out of range, an escape unknown, a directive not closed. Such
faults are kept in the expression and come to light when the whole text has been read, the first
one in reading order, with the parts of a construct before the construct.
-/

namespace ResourceTables.Native

/-- Something whose tokens are right, or the first fault in what it says. -/
abbrev Draft (α : Type) := Except ReadError α

/-- An expression that has been read, with its place. -/
structure Operand where
  /-- Where it begins. -/
  start : Mark
  /-- The offset after it. -/
  stop : Nat
  /-- What it says. -/
  expr : Draft Expr
  deriving Inhabited

namespace Operand

/-- What a list of operands says, in order. -/
def exprs (xs : List Operand) : Draft (List Expr) :=
  xs.mapM (·.expr)

/-- A name, or one of the constants that are written as names. -/
def ofName (t : Token) : Operand :=
  let o := t.start.originTo t.stop
  ⟨t.start, t.stop, .ok <|
    match t.text with
    | "true" => .literal o (.bool true)
    | "false" => .literal o (.bool false)
    | "null" => .literal o .null
    | name => .variable o name⟩

/-- What a number literal says. -/
def numberExpr (t : Token) : Draft Expr :=
  let d := Decimal.ofLiteral false t.text.toList
  if d.withinLimits then .ok (.literal (t.start.originTo t.stop) (.number d))
  else .error .beyondLimits

/-- A number. -/
def ofNumber (t : Token) : Operand :=
  ⟨t.start, t.stop, numberExpr t⟩

/-- A heredoc with the parts of its template. -/
def ofHeredoc (t : Token) (parts : Draft (List Part)) : Operand :=
  ⟨t.start, t.stop, parts.map (.template (t.start.originTo t.stop))⟩

/-- The items of a quoted text with their literal characters decoded. -/
def decodeItem (pos : Pos) : TemplateItem → Draft TemplateItem
  | .text raw =>
    match decodeQuoted raw.toList with
    | .ok cs => .ok (.text (String.ofList cs))
    | .error (.unknown sequence) => .error (Part.faultAt pos (.escape sequence))
    | .error .noCharacter => .error .beyondLimits
  | item => .ok item

/-- A quoted text that ends before the offset `stop`, from its items. -/
def ofQuoted (start : Mark) (stop : Nat) (items : List (Draft TemplateItem)) : Operand :=
  ⟨start, stop, do
    let items ← items.mapM id
    let items ← items.mapM (decodeItem start.pos)
    let parts ← Part.ofItems items
    return .template (start.originTo stop) parts⟩

/-- `target.name`; behind a splat the step applies to each element. -/
def getAttr (target : Operand) (t : Token) : Operand :=
  let o := target.start.originTo t.stop
  ⟨target.start, t.stop, target.expr.map fun
    | .splat _ inner steps full => .splat o inner (steps ++ [.attr t.text]) full
    | e => .getAttr o e t.text⟩

/-- `target[key]` that ends before `stop`; behind a full splat the step applies to each element. -/
def index (target : Operand) (stop : Nat) (key : Draft Expr) : Operand :=
  let o := target.start.originTo stop
  ⟨target.start, stop, do
    let e ← target.expr
    let k ← key
    match e with
    | .splat _ inner steps true => return .splat o inner (steps ++ [.index k]) true
    | e => return .index o e k⟩

/-- `target.0`: an index written as digits after a point. -/
def indexDigits (target : Operand) (t : Token) : Operand :=
  target.index t.stop (numberExpr t)

/-- `target.*` or `target[*]`. -/
def splat (target : Operand) (stop : Nat) (full : Bool) : Operand :=
  ⟨target.start, stop, target.expr.map
    fun e => .splat (target.start.originTo stop) e [] full⟩

/-- `(inner)` -/
def parens (start : Mark) (stop : Nat) (inner : Operand) : Operand :=
  ⟨start, stop, inner.expr.map (.parens (start.originTo stop))⟩

/-- `op operand` -/
def unary (start : Mark) (op : UnaryOp) (operand : Operand) : Operand :=
  ⟨start, operand.stop, operand.expr.map (.unary (start.originTo operand.stop) op)⟩

/-- `left op right` -/
def binary (left : Operand) (op : BinaryOp) (right : Operand) : Operand :=
  ⟨left.start, right.stop, do
    return .binary (left.start.originTo right.stop) op (← left.expr) (← right.expr)⟩

/-- `cond ? yes : no` -/
def conditional (cond yes no : Operand) : Operand :=
  ⟨cond.start, no.stop, do
    return .conditional (cond.start.originTo no.stop) (← cond.expr) (← yes.expr) (← no.expr)⟩

/-- `[items]` -/
def tuple (start : Mark) (stop : Nat) (items : List Operand) : Operand :=
  ⟨start, stop, (exprs items).map (.tuple (start.originTo stop))⟩

/-- What a key and its value say. -/
def objectItem (pair : Operand × Operand) : Draft ObjectItem := do
  return .mk (← pair.1.expr) (← pair.2.expr)

/-- An object constructor. -/
def object (start : Mark) (stop : Nat) (pairs : List (Operand × Operand)) : Operand :=
  ⟨start, stop, (pairs.mapM objectItem).map (.object (start.originTo stop))⟩

/-- `name(args)` -/
def call (name : Token) (stop : Nat) (args : List Operand) (spread : Bool) : Operand :=
  ⟨name.start, stop, do
    return .call (name.start.originTo stop) name.text (← exprs args) spread⟩

/-- What an optional condition says. -/
def condition (cond : Option Operand) : Draft (Option Expr) :=
  cond.mapM (·.expr)

/-- A `for` expression up to its collection. -/
structure ForHead where
  /-- The opening bracket or brace. -/
  start : Mark
  /-- The variables. -/
  vars : LoopVars
  /-- The collection. -/
  collection : Operand

/-- `[for vars in collection : value if cond]` -/
def forTuple (head : ForHead) (stop : Nat) (value : Operand) (cond : Option Operand) : Operand :=
  ⟨head.start, stop, do
    return .forTuple (head.start.originTo stop) head.vars (← head.collection.expr) (← value.expr)
      (← condition cond)⟩

/-- The `for` expression of an object. -/
def forObject (head : ForHead) (stop : Nat) (key value : Operand) (cond : Option Operand)
    (grouping : Bool) : Operand :=
  ⟨head.start, stop, do
    return .forObject (head.start.originTo stop) head.vars (← head.collection.expr) (← key.expr)
      (← value.expr) (← condition cond) grouping⟩

end Operand

end ResourceTables.Native
