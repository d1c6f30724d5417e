import ResourceTables.Disk.Basic

/-!
# Tables in a document

A document keeps its tables between two comments. Writing new tables replaces what stands between
them; a document without both comments, the first before the second, gets them at its end.
-/

namespace ResourceTables.Fences

/-- The comment before the tables. -/
def opening : List Char := "<!-- BEGIN_TF_RESOURCE_TABLES -->".toList

/-- The comment behind the tables. -/
def closing : List Char := "<!-- END_TF_RESOURCE_TABLES -->".toList

/-- How many characters stand before the first place where `part` occurs. -/
def indexOf? (part : List Char) : List Char → Option Nat
  | [] => if part.isEmpty then some 0 else none
  | c :: rest =>
    if part.isPrefixOf (c :: rest) then some 0 else (indexOf? part rest).map (· + 1)

/-- The places of both comments, if the document has both and in this order. -/
def find? (text : List Char) : Option (Nat × Nat) :=
  match indexOf? opening text, indexOf? closing text with
  | some first, some last => if last < first then none else some (first, last)
  | _, _ => none

/-- The document with the tables between its comments. -/
def mergeChars (existing tables : List Char) : List Char :=
  match find? existing with
  | some (first, last) =>
    existing.take first ++ opening ++ '\n' :: tables ++ '\n' :: existing.drop last
  | none =>
    (if existing.isEmpty then [] else existing ++ ['\n']) ++ opening ++ '\n' :: tables ++ '\n' ::
      closing ++ ['\n']

/-- The document with the tables between its comments. -/
def merge (existing tables : String) : String :=
  String.ofList (mergeChars existing.toList tables.toList)

/-- Why tables cannot be written. -/
inductive WriteError where
  /-- The path does not lead to a file. -/
  | disk (fault : DiskFault)
  /-- The file that is there holds no text. -/
  | undecodable (reason : String)
  deriving DecidableEq, Repr, Inhabited

/-- The disk with the tables written to the file at a path, and whether the file had a place for
them. -/
def write (d : Disk) (path tables : String) : Except WriteError (Bool × Disk) := do
  let existing ←
    if d.isThere path then
      match d.read path with
      | .error fault => throw (.disk fault)
      | .ok bytes => (Encoding.decode bytes).mapError .undecodable
    else pure ""
  let d ← (d.write path (merge existing tables).toUTF8).mapError .disk
  return ((find? existing.toList).isSome, d)

end ResourceTables.Fences
