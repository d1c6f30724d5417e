/-!
# Places in a YAML text

A place is told by its line and column and shown by a piece of its line with a caret below the
character.
-/

namespace ResourceTables.Yaml

/-- What stands behind the last character of a text. -/
def endChar : Char := '\x00'

/-- Whether the character ends a line. -/
def isBreak (c : Char) : Bool :=
  c == '\n' || c == '\r' || c == '\x85' || c == '\u2028' || c == '\u2029'

/-- Whether the character ends a line or the text. -/
def isBreakOrEnd (c : Char) : Bool :=
  isBreak c || c == endChar

/-- Whether the character ends a word: a blank, the end of a line or the end of the text. -/
def isWordEnd (c : Char) : Bool :=
  isBreakOrEnd c || c == ' '

/-- Whether the character ends a word, or is a tab. -/
def isSpaceOrEnd (c : Char) : Bool :=
  isWordEnd c || c == '\t'

/-- A place in a text. -/
structure Mark where
  /-- How many characters stand before it. -/
  index : Nat := 0
  /-- How many lines end before it. -/
  line : Nat := 0
  /-- How many characters stand before it on its line; marks of the byte order do not count. -/
  column : Nat := 0
  deriving DecidableEq, Repr, Inhabited

namespace Mark

/-- The place behind a character that stands at `m` and is followed by `next`. -/
def after (m : Mark) (c : Char) (next : Option Char) : Mark :=
  if isBreak c && !(c == '\r' && next == some '\n') then ⟨m.index + 1, m.line + 1, 0⟩
  else if c == '\uFEFF' then ⟨m.index + 1, m.line, m.column⟩
  else ⟨m.index + 1, m.line, m.column + 1⟩

/-- How many characters of a line are shown at most on either side of a place, and how many of them
are shown when the line is longer. -/
def shown : Nat × Nat := (36, 32)

/-- A piece of a line that stands for all of it, with dots for what is left out. -/
def piece (keep : Nat → List Char → List Char) (line : List Char) : List Char × List Char :=
  if shown.1 < line.length then (keep shown.2 line, " ... ".toList) else (line, [])

/-- The line of a place in the text, with a caret below the character that stands there. -/
def snippet (source : List Char) (m : Mark) : String :=
  let before := ((source.take m.index).reverse.takeWhile (!isBreakOrEnd ·)).reverse
  let after := (source.drop m.index).takeWhile (!isBreakOrEnd ·)
  let (before, head) := piece (fun n line => line.drop (line.length - n)) before
  let (after, tail) := piece List.take after
  String.ofList (List.replicate 4 ' ' ++ head ++ before ++ after ++ tail ++
    '\n' :: List.replicate (4 + head.length + before.length) ' ' ++ ['^'])

/-- The place in words. -/
def text (source : List Char) (m : Mark) : String :=
  "  in \"<unicode string>\", line " ++ toString (m.line + 1) ++ ", column " ++
    toString (m.column + 1) ++ ":\n" ++ m.snippet source

end Mark

end ResourceTables.Yaml
