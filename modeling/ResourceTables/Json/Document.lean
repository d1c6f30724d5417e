import ResourceTables.Decimal.Binary64
import ResourceTables.Json.Quoted

/-!
# JSON documents

Values that are exchanged as JSON: schemas that are read, and reports that are written. Integers
and fractions are told apart as they are written, and the members of an object keep their order.
-/

namespace ResourceTables

/-- A JSON document. -/
inductive Document where
  /-- The null value. -/
  | null
  /-- A truth value. -/
  | bool (b : Bool)
  /-- A number written without fraction and exponent. -/
  | int (n : Int)
  /-- Any other number. -/
  | float (x : Binary64)
  /-- A text. -/
  | text (s : String)
  /-- An array. -/
  | array (items : List Document)
  /-- An object: its members in order. -/
  | object (members : List (String × Document))

namespace Document

instance : Inhabited Document := ⟨.null⟩

/-- The text of a number. -/
def floatText : Binary64 → String
  | .infinite negative => if negative then "-Infinity" else "Infinity"
  | .nan => "NaN"
  | x => x.text

/-- The text of a document without parts. -/
def scalarText : Document → List Char
  | null => ['n', 'u', 'l', 'l']
  | bool b => if b then ['t', 'r', 'u', 'e'] else ['f', 'a', 'l', 's', 'e']
  | int n => (toString n).toList
  | float x => (floatText x).toList
  | text s => Json.encode s
  | _ => []

mutual

/-- The document on one line. -/
def compact : Document → List Char
  | array items => '[' :: compactItems items ++ [']']
  | object members => '\x7b' :: compactMembers members ++ ['\x7d']
  | d => scalarText d

/-- Items with commas between them. -/
def compactItems : List Document → List Char
  | [] => []
  | [d] => compact d
  | d :: rest => compact d ++ ',' :: compactItems rest

/-- Members with commas between them. -/
def compactMembers : List (String × Document) → List Char
  | [] => []
  | [(k, d)] => Json.encode k ++ ':' :: compact d
  | (k, d) :: rest => Json.encode k ++ ':' :: compact d ++ ',' :: compactMembers rest

end

/-- A new line at the given depth. -/
def newline (depth : Nat) : List Char :=
  '\n' :: List.replicate (2 * depth) ' '

mutual

/-- The document over several lines, two blanks per level; `depth` is the level it stands at. -/
def indented (depth : Nat) : Document → List Char
  | array [] => ['[', ']']
  | object [] => ['\x7b', '\x7d']
  | array items => '[' :: indentedItems (depth + 1) items ++ newline depth ++ [']']
  | object members => '\x7b' :: indentedMembers (depth + 1) members ++ newline depth ++ ['\x7d']
  | d => scalarText d

/-- Items, each on a line of its own. -/
def indentedItems (depth : Nat) : List Document → List Char
  | [] => []
  | [d] => newline depth ++ indented depth d
  | d :: rest => newline depth ++ indented depth d ++ ',' :: indentedItems depth rest

/-- Members, each on a line of its own. -/
def indentedMembers (depth : Nat) : List (String × Document) → List Char
  | [] => []
  | [(k, d)] => newline depth ++ Json.encode k ++ ':' :: ' ' :: indented depth d
  | (k, d) :: rest =>
    newline depth ++ Json.encode k ++ ':' :: ' ' :: indented depth d ++
      ',' :: indentedMembers depth rest

end

/-- The document on one line. -/
def line (d : Document) : String :=
  String.ofList d.compact

/-- The document over several lines. -/
def pretty (d : Document) : String :=
  String.ofList (d.indented 0)

/-- The members of an object with one more: a name that is there already keeps its place and gets
the new value. -/
def setMember (name : String) (d : Document) :
    List (String × Document) → List (String × Document)
  | [] => [(name, d)]
  | (k, old) :: rest => if k = name then (k, d) :: rest else (k, old) :: setMember name d rest

/-- The member of the given name, if the document is an object that has it. -/
def get? (name : String) : Document → Option Document
  | object members => members.lookup name
  | _ => none

end Document

end ResourceTables
