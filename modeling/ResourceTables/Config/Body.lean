import ResourceTables.Config.Json

/-!
# Bodies

What stands at the top level of a file or between the braces of a block. A native body is a list
of attributes and blocks. A JSON body is an object: which of its keys are attributes and which are
blocks shows only when a schema asks for them.
-/

namespace ResourceTables

/-- An attribute: a name and the expression it is set to. -/
structure Attribute where
  /-- The attribute's name. -/
  name : String
  /-- The expression it is set to. -/
  expr : Expr
  /-- The place of the name. -/
  pos : Pos
  deriving Inhabited

/-- An item of a native body. -/
inductive Item where
  /-- An attribute. -/
  | attribute (a : Attribute)
  /-- A block of some type with its labels, the place of the type, and the items of its body. -/
  | block (type : String) (labels : List String) (pos : Pos) (items : List Item)

/-- The body of a file or of a block. -/
inductive Body where
  /-- A body in the native way of writing. -/
  | native (items : List Item)
  /-- A JSON object. -/
  | json (o : Origin) (pairs : List JsonPair)

instance : Inhabited Body := ⟨.native []⟩

/-- A block with all its labels. -/
structure Block where
  /-- The block's type. -/
  type : String
  /-- The labels after the type. -/
  labels : List String
  /-- What the block holds. -/
  body : Body
  /-- The place of the type, or of the last key in JSON. -/
  pos : Pos
  deriving Inhabited

end ResourceTables
