import ResourceTables.Config.Body
import ResourceTables.Disk.Basic
import ResourceTables.Inventory.Files
import ResourceTables.Json.Tree
import ResourceTables.Native.Document

/-!
# Parsed files

Reading configuration files from a disk, and remembering what was read: a file is parsed at most
once, whatever becomes of it on the disk afterwards. A failed parse is not remembered.
-/

namespace ResourceTables

/-- The body of a configuration text in the notation that the file's name asks for. -/
def parseConfig (path text : String) : Except ReadError Body :=
  match FileName.notationOf path with
  | .json => Json.parse path text
  | .native => Native.parse path text

/-- The body of the configuration file at a path. -/
def Disk.readConfig (d : Disk) (path : String) : Except ReadError Body :=
  match d.read path, d.readText path with
  | .error .nullCharacter, _ => .error .beyondLimits
  | _, .ok text => parseConfig path text
  | _, .error reason => .error (.malformed ⟨path, none, .unreadable reason⟩)

/-- The files that have been parsed. -/
structure ParseCache where
  /-- Each path with the body that was read from it. -/
  files : List (String × Body) := []
  deriving Inhabited

namespace ParseCache

/-- The body remembered for a path. -/
def find? (c : ParseCache) (path : String) : Option Body :=
  c.files.lookup path

/-- Whether a body is remembered for the path. -/
def contains (c : ParseCache) (path : String) : Bool :=
  (c.find? path).isSome

/-- How many files are remembered. -/
def size (c : ParseCache) : Nat := c.files.length

/-- The body of the file at a path, as it was when it was first parsed, and what is remembered
then. -/
def get (c : ParseCache) (d : Disk) (path : String) : Except ReadError (Body × ParseCache) :=
  match c.find? path with
  | some b => .ok (b, c)
  | none => (d.readConfig path).map fun b => (b, ⟨c.files ++ [(path, b)]⟩)

end ParseCache

end ResourceTables
