import ResourceTables.Disk.Encoding
import ResourceTables.Disk.Path

/-!
# Disks

Files and directories as a value, with the working directory that paths are meant from. Reading and
writing follow the path step by step: every component but the last must be a directory, and `..`
leads back to the one before.
-/

namespace ResourceTables

/-- What stands at a place of a disk. -/
inductive DiskEntry where
  /-- A directory. -/
  | directory
  /-- A file with its bytes. -/
  | file (bytes : ByteArray)

/-- Files and directories by their components from the root. The working directory and those that
lead to it are always there. -/
structure Disk where
  /-- The place of the working directory. -/
  here : List String := []
  /-- Each place with what stands there. -/
  entries : List (List String × DiskEntry) := []
  deriving Inhabited

/-- Why a path does not lead to what is wanted. -/
inductive DiskFault where
  /-- Nothing stands there. -/
  | missing
  /-- A directory stands there. -/
  | isDirectory
  /-- Something on the way is no directory. -/
  | notDirectory
  /-- The path, or a component of it, is longer than one can be. -/
  | tooLong
  /-- The path holds the null character, which none can hold. -/
  | nullCharacter
  deriving DecidableEq, Repr, Inhabited

/-- The fault at a path in words. -/
def DiskFault.message (fault : DiskFault) (path : String) : String :=
  match fault with
  | missing => "[Errno 2] No such file or directory: '" ++ path ++ "'"
  | isDirectory => "[Errno 21] Is a directory: '" ++ path ++ "'"
  | notDirectory => "[Errno 20] Not a directory: '" ++ path ++ "'"
  | tooLong => "[Errno 36] File name too long: '" ++ path ++ "'"
  | nullCharacter => "embedded null byte"

namespace Disk

/-- How many bytes a component of a path has at most. -/
def maxComponent : Nat := 255

/-- How many bytes a path has at most. -/
def maxPath : Nat := 4095

/-- What stands at a place. -/
def at? (d : Disk) (place : List String) : Option DiskEntry :=
  if place.isPrefixOf d.here then some .directory else d.entries.lookup place

/-- The place that the components lead to from a directory: all but the last must be there. -/
def walk (d : Disk) (place : List String) : List String → Except DiskFault (List String)
  | [] => .ok place
  | c :: rest =>
    match d.at? place with
    | none => .error .missing
    | some (.file _) => .error .notDirectory
    | some .directory =>
      if maxComponent < c.utf8ByteSize then .error .tooLong
      else if c = ".." then d.walk place.dropLast rest
      else d.walk (place ++ [c]) rest

/-- The place that a path names. A slash at the end asks for a directory. -/
def place (d : Disk) (path : String) : Except DiskFault (List String) := do
  if path.toList.contains '\x00' then throw .nullCharacter
  if path.isEmpty then throw .missing
  if maxPath < path.utf8ByteSize then throw .tooLong
  let place ← d.walk (if Path.isAbsolute path then [] else d.here) (Path.components path)
  if path.toList.getLast? = some '/' then
    match d.at? place with
    | some .directory => return place
    | some (.file _) => throw .notDirectory
    | none => throw .missing
  return place

/-- What a path leads to. -/
def find? (d : Disk) (path : String) : Option DiskEntry :=
  match d.place path with
  | .ok place => d.at? place
  | .error _ => none

/-- Whether the path leads to a directory. -/
def isDirectory (d : Disk) (path : String) : Bool :=
  match d.find? path with
  | some .directory => true
  | _ => false

/-- Whether the path leads to a file. -/
def isFile (d : Disk) (path : String) : Bool :=
  match d.find? path with
  | some (.file _) => true
  | _ => false

/-- Whether the path leads to anything. -/
def isThere (d : Disk) (path : String) : Bool :=
  (d.find? path).isSome

/-- The names in the directory at a path, in no particular order. -/
def names (d : Disk) (path : String) : List String :=
  match d.place path with
  | .ok place => d.entries.filterMap fun (other, _) =>
      if other.dropLast = place then other.getLast? else none
  | .error _ => []

/-- The bytes of the file at a path. -/
def read (d : Disk) (path : String) : Except DiskFault ByteArray := do
  match d.at? (← d.place path) with
  | some (.file bytes) => return bytes
  | some .directory => throw .isDirectory
  | none => throw .missing

/-- The text of the file at a path, or what is wrong with it in words. -/
def readText (d : Disk) (path : String) : Except String String :=
  match d.read path with
  | .ok bytes => Encoding.decode bytes
  | .error fault => .error (fault.message path)

/-- The disk with an entry at a place. -/
def set (d : Disk) (place : List String) (entry : DiskEntry) : Disk :=
  if place.isPrefixOf d.here then d
  else if (d.entries.lookup place).isSome then
    { d with entries := d.entries.map fun (other, old) =>
        (other, if other = place then entry else old) }
  else { d with entries := d.entries ++ [(place, entry)] }

/-- The disk with a file written at a path, whose directory must be there. -/
def write (d : Disk) (path : String) (bytes : ByteArray) : Except DiskFault Disk := do
  let place ← d.place path
  match d.at? place with
  | some .directory => throw .isDirectory
  | some (.file _) => return d.set place (.file bytes)
  | none =>
    match d.at? place.dropLast with
    | some .directory => return d.set place (.file bytes)
    | some (.file _) => throw .notDirectory
    | none => throw .missing

/-- The disk with a text added to the end of the file at a path, which is made if it is missing. -/
def append (d : Disk) (path : String) (text : String) : Except DiskFault Disk :=
  match d.read path with
  | .ok bytes => d.write path (bytes ++ text.toUTF8)
  | .error .missing => d.write path text.toUTF8
  | .error fault => .error fault

/-- The disk with an entry at a path together with the directories that lead there. -/
def make (d : Disk) (path : String) (entry : DiskEntry) : Disk :=
  let place := Path.absolute d.here path
  let outer := (List.range place.length).map fun n => place.take n
  let d := outer.foldl (fun d place =>
    if (d.at? place).isSome then d else d.set place .directory) d
  d.set place entry

/-- The disk without what stands at a path and below it. -/
def remove (d : Disk) (path : String) : Disk :=
  match d.place path with
  | .ok place => { d with entries := d.entries.filter fun (other, _) => !place.isPrefixOf other }
  | .error _ => d

end Disk

end ResourceTables
