import ResourceTables.Decimal.Binary64

/-!
# Cells and rows

The values that a table shows. An attribute is a text, a number or a truth value, or it is unknown
until the configuration is applied; structured values have no place in a table.
-/

namespace ResourceTables

/-- A value in a table. -/
inductive Cell where
  /-- A text. -/
  | string (s : String)
  /-- A number. -/
  | number (x : Binary64)
  /-- A truth value. -/
  | bool (b : Bool)
  /-- A value that is not known yet, with the expression that it comes from. -/
  | unknown (expression : Option String)
  deriving DecidableEq, Repr, Inhabited

namespace Cell

/-- The value as text. -/
def text : Cell → String
  | string s => s
  | number x => x.display
  | bool b => if b then "true" else "false"
  | unknown _ => "(known after apply)"

/-- Whether the value is not known yet. -/
def isUnknown : Cell → Bool
  | unknown _ => true
  | _ => false

end Cell

/-- A row of a table: a resource with the attributes that are shown of it. -/
structure Row where
  /-- The name of the resource. -/
  name : String
  /-- The file that declares it. -/
  file : String
  /-- The line of its declaration. -/
  line : Int
  /-- The attributes in the order in which they were asked for. -/
  cells : List (String × Cell)
  deriving DecidableEq, Repr, Inhabited

/-- What a table is asked to show. -/
structure TableRequest where
  /-- The resource type. -/
  type : String
  /-- The attributes, one for each column. -/
  attributes : List String
  deriving DecidableEq, Repr, Inhabited

/-- A table: what was asked for, and a row for each resource. -/
structure Table where
  /-- What was asked for. -/
  request : TableRequest
  /-- The rows. -/
  rows : List Row
  deriving DecidableEq, Repr, Inhabited

end ResourceTables
