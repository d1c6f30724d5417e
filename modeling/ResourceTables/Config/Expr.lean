import ResourceTables.Config.Pos
import ResourceTables.Decimal.Basic

/-!
# Expressions

The expressions of attributes. Both ways of writing a configuration, the native one and the JSON
one, are read into these trees, so nothing behind the readers knows which one was used. Each
expression keeps its origin, so that a value that cannot be resolved can be shown as written.
-/

namespace ResourceTables

/-- A constant. Texts are templates without interpolation, not constants. -/
inductive Literal where
  /-- The null value. -/
  | null
  /-- A truth value. -/
  | bool (b : Bool)
  /-- A number. -/
  | number (d : Decimal)
  deriving DecidableEq, Repr, Inhabited

/-- The operators between two operands. -/
inductive BinaryOp where
  | or | and | eq | ne | lt | gt | le | ge | add | sub | mul | div | rem
  deriving DecidableEq, Repr, Inhabited

namespace BinaryOp

/-- The operator as it is written. -/
def symbol : BinaryOp → String
  | or => "||"
  | and => "&&"
  | eq => "=="
  | ne => "!="
  | lt => "<"
  | gt => ">"
  | le => "<="
  | ge => ">="
  | add => "+"
  | sub => "-"
  | mul => "*"
  | div => "/"
  | rem => "%"

/-- How tightly the operator binds: a higher level binds tighter. -/
def level : BinaryOp → Nat
  | or => 1
  | and => 2
  | eq | ne => 3
  | lt | gt | le | ge => 4
  | add | sub => 5
  | mul | div | rem => 6

end BinaryOp

/-- The operators before one operand. -/
inductive UnaryOp where
  | negate | not
  deriving DecidableEq, Repr, Inhabited

/-- The operator as it is written. -/
def UnaryOp.symbol : UnaryOp → String
  | negate => "-"
  | not => "!"

/-- The variables of a loop: one for the elements, and perhaps one for their keys. -/
structure LoopVars where
  /-- The variable for keys. -/
  key : Option String
  /-- The variable for elements. -/
  value : String
  deriving DecidableEq, Repr, Inhabited

mutual

/-- An expression. -/
inductive Expr where
  /-- A constant. -/
  | literal (o : Origin) (value : Literal)
  /-- A text with interpolations and directives. -/
  | template (o : Origin) (parts : List Part)
  /-- A name. -/
  | variable (o : Origin) (name : String)
  /-- `target.name` -/
  | getAttr (o : Origin) (target : Expr) (name : String)
  /-- `target[key]` -/
  | index (o : Origin) (target key : Expr)
  /-- `target[*]` with the steps that follow when `full`, and `target.*` otherwise. -/
  | splat (o : Origin) (target : Expr) (steps : List Step) (full : Bool)
  /-- `name(args)`, where `...` after the last argument spreads it. -/
  | call (o : Origin) (name : String) (args : List Expr) (spread : Bool)
  /-- `[items]` -/
  | tuple (o : Origin) (items : List Expr)
  /-- An object constructor. -/
  | object (o : Origin) (items : List ObjectItem)
  /-- `[for vars in collection : value if cond]` -/
  | forTuple (o : Origin) (vars : LoopVars) (collection value : Expr) (cond : Option Expr)
  /-- The same between braces with `key => value`, where `...` after the value groups by key. -/
  | forObject (o : Origin) (vars : LoopVars) (collection key value : Expr) (cond : Option Expr)
      (grouping : Bool)
  /-- `cond ? yes : no` -/
  | conditional (o : Origin) (cond yes no : Expr)
  /-- `left op right` -/
  | binary (o : Origin) (op : BinaryOp) (left right : Expr)
  /-- `op operand` -/
  | unary (o : Origin) (op : UnaryOp) (operand : Expr)
  /-- `(inner)` -/
  | parens (o : Origin) (inner : Expr)

/-- One piece of a template. -/
inductive Part where
  /-- Literal text. -/
  | text (s : String)
  /-- An interpolated expression. -/
  | interp (e : Expr)
  /-- The parts to use when a condition holds, and those to use when it does not. -/
  | cond (test : Expr) (yes no : List Part)
  /-- Parts that are repeated for each element of a collection. -/
  | loop (vars : LoopVars) (collection : Expr) (body : List Part)

/-- A step that a splat applies to each element. -/
inductive Step where
  /-- `.name` -/
  | attr (name : String)
  /-- `[key]` -/
  | index (key : Expr)

/-- A key and a value of an object constructor. -/
inductive ObjectItem where
  /-- `key = value` -/
  | mk (key value : Expr)

end

namespace Expr

instance : Inhabited Expr := ⟨.literal default .null⟩

/-- Where the expression is written. -/
def origin : Expr → Origin
  | .literal o _ | .template o _ | .variable o _ | .getAttr o _ _ | .index o _ _
  | .splat o _ _ _ | .call o _ _ _ | .tuple o _ | .object o _ | .forTuple o _ _ _ _
  | .forObject o _ _ _ _ _ _ | .conditional o _ _ _ | .binary o _ _ _ | .unary o _ _
  | .parens o _ => o

/-- The place of the expression's first character. -/
def pos (e : Expr) : Pos := e.origin.pos

/-- The text the expression was read from. -/
def source (e : Expr) : String := e.origin.source

end Expr

/-- The text of a template's parts, when they are texts only. -/
def Part.literal? : List Part → Option String
  | [] => some ""
  | .text s :: rest => (Part.literal? rest).map (s ++ ·)
  | _ :: _ => none

/-- The expression that a template consists of, when it is one interpolation and nothing else. -/
def Part.wrapped? : List Part → Option Expr
  | [.interp e] => some e
  | _ => none

end ResourceTables
