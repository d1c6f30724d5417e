import ResourceTables.Yaml.Fault

/-!
# Reading a YAML text character by character

A cursor stands in a text: it knows its place and what is still ahead. Reading functions either move
it forward or meet a fault.
-/

namespace ResourceTables.Yaml

/-- A place in a text with what is ahead. -/
structure Cursor where
  /-- The place. -/
  mark : Mark := {}
  /-- The characters ahead. -/
  rest : List Char
  deriving Inhabited

namespace Cursor

/-- The character that stands `n` characters ahead. -/
def peek (c : Cursor) (n : Nat := 0) : Char :=
  c.rest.getD n endChar

/-- The cursor behind the next character. -/
def next (c : Cursor) : Cursor :=
  match c.rest with
  | [] => c
  | x :: rest => ⟨c.mark.after x rest.head?, rest⟩

/-- The cursor behind the next `n` characters. -/
def skip : Nat → Cursor → Cursor
  | 0, c => c
  | n + 1, c => skip n c.next

/-- The characters ahead that satisfy `p`, without a gap, and the cursor behind them. -/
def span (p : Char → Bool) (c : Cursor) : List Char × Cursor :=
  let found := c.rest.takeWhile p
  (found, c.skip found.length)

/-- The cursor behind the characters ahead that satisfy `p`. -/
def skipWhile (p : Char → Bool) (c : Cursor) : Cursor :=
  (c.span p).2

/-- Whether the text ahead starts with the three characters `s`, alone between blanks. -/
def atSeparator (s : Char) (c : Cursor) : Bool :=
  c.rest.take 3 == [s, s, s] && isSpaceOrEnd (c.peek 3)

/-- Whether a document ends here. -/
def atDocumentLimit (c : Cursor) : Bool :=
  c.atSeparator '-' || c.atSeparator '.'

/-- The line break ahead as a scalar has it, with the cursor behind it; nothing is read where there
is none. -/
def lineBreak (c : Cursor) : List Char × Cursor :=
  let x := c.peek
  if x == '\r' && c.peek 1 == '\n' then (['\n'], c.skip 2)
  else if x == '\r' || x == '\n' || x == '\x85' then (['\n'], c.next)
  else if isBreak x then ([x], c.next)
  else ([], c)

/-- The cursor behind blanks. -/
def skipBlanks (c : Cursor) : Cursor := c.skipWhile (· == ' ')

/-- The cursor behind a comment, if one starts here. -/
def skipComment (c : Cursor) : Cursor :=
  if c.peek == '#' then c.skipWhile (!isBreakOrEnd ·) else c

/-- The fault of finding something wrong here while something is read that began at `start`. -/
def fault (c : Cursor) (activity : Activity) (start : Mark) (problem : Problem) : Fault :=
  .wrong (some (activity, some start)) problem c.mark

/-- The cursor behind the line that ends here, with blanks and a comment at most. -/
def endLine (activity : Activity) (start : Mark) (c : Cursor) : Except Fault Cursor :=
  let c := c.skipBlanks.skipComment
  if isBreakOrEnd c.peek then .ok c.lineBreak.2
  else .error (c.fault activity start (.lineEnd c.peek))

end Cursor

/-- Whether the character may stand in a name. -/
def isNameChar (c : Char) : Bool :=
  ('0' ≤ c && c ≤ '9') || ('A' ≤ c && c ≤ 'Z') || ('a' ≤ c && c ≤ 'z') || c == '-' || c == '_'

/-- Whether the character is a digit of ASCII. -/
def isDigit (c : Char) : Bool :=
  '0' ≤ c && c ≤ '9'

/-- How many digits of base ten an integer has at most. -/
def maxIntDigits : Nat := 4300

end ResourceTables.Yaml
