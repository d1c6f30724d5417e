/-!
# Positions in configuration files

Where something is written, and the text it was written as. Lines and columns count from one, and
columns count characters.
-/

namespace ResourceTables

/-- A place in a file. -/
structure Pos where
  /-- The file's path, as it was given. -/
  file : String
  /-- The line, counted from one. -/
  line : Nat
  /-- The column, counted from one. -/
  column : Nat
  deriving DecidableEq, Repr, Inhabited

namespace Pos

/-- The place as messages show it. -/
def text (p : Pos) : String :=
  p.file ++ ":" ++ toString p.line ++ "," ++ toString p.column

/-- The place after one more character. -/
def next (p : Pos) (c : Char) : Pos :=
  if c = '\n' then { p with line := p.line + 1, column := 1 }
  else { p with column := p.column + 1 }

end Pos

/-- Where an expression begins, and its source text. -/
structure Origin where
  /-- The place of its first character. -/
  pos : Pos
  /-- The text it was read from. -/
  source : String
  deriving DecidableEq, Repr, Inhabited

end ResourceTables
