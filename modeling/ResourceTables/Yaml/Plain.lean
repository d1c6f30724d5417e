import ResourceTables.Yaml.Cursor

/-!
# Plain scalars

A scalar without quotes: words with blanks between them, perhaps over several lines. It ends at a
colon before a blank and at a comment; between brackets also at a comma or a bracket; and outside of
them where a line is indented less.
-/

namespace ResourceTables.Yaml

/-- How many characters the word ahead has. -/
def plainLength (flow : Bool) : List Char → Nat
  | [] => 0
  | x :: rest =>
    let next := rest.headD endChar
    let endsAtColon := x == ':' &&
      (isSpaceOrEnd next || (flow && ",[]\x7b\x7d".toList.contains next))
    if isSpaceOrEnd x || endsAtColon || (flow && ",?[]\x7b\x7d".toList.contains x) then 0
    else plainLength flow rest + 1

/-- What has been read of a plain scalar. -/
structure PlainText where
  /-- The characters. -/
  chars : List Char
  /-- Where the last word ends. -/
  stop : Mark
  /-- Whether a line has ended behind the last word. -/
  lineEnded : Bool
  /-- What is ahead. -/
  cursor : Cursor

namespace Cursor

/-- Line breaks and blanks at the start of lines; nothing where a document ends. -/
def plainBreaks : Nat → Cursor → Option (List Char) × Cursor
  | 0, c => (some [], c)
  | fuel + 1, c =>
    let c := c.skipBlanks
    if isBreak c.peek then
      let (found, c) := c.lineBreak
      if c.atDocumentLimit then (none, c)
      else
        let (more, c) := plainBreaks fuel c
        (more.map (found ++ ·), c)
    else (some [], c)

/-- What the blanks and line breaks behind a word stand for, whether there are line breaks, and the
cursor behind them. Nothing is found where the scalar ends. -/
def plainSpaces (c : Cursor) : List Char × Bool × Cursor :=
  let (blanks, c) := c.span (· == ' ')
  if isBreak c.peek then
    let (found, c) := c.lineBreak
    if c.atDocumentLimit then ([], true, c)
    else
      match c.plainBreaks c.rest.length with
      | (none, c) => ([], true, c)
      | (some more, c) =>
        let first := if found != ['\n'] then found else if more.isEmpty then [' '] else []
        (first ++ more, true, c)
  else (blanks, false, c)

/-- The words ahead with what stands between them, behind the text `before` and the `spaces`. -/
def plainWords (flow : Bool) (indent : Nat) : Nat → PlainText → List Char → PlainText
  | 0, before, _ => before
  | fuel + 1, before, spaces =>
    let c := before.cursor
    let length := if c.peek == '#' then 0 else plainLength flow c.rest
    if length = 0 then before
    else
      let after := c.skip length
      let (more, ended, behind) := after.plainSpaces
      let found : PlainText :=
        ⟨before.chars ++ spaces ++ c.rest.take length, after.mark, ended, behind⟩
      if more.isEmpty || behind.peek == '#' || (!flow && behind.mark.column < indent) then found
      else plainWords flow indent fuel found more

/-- The plain scalar that begins here, where lines outside of brackets are indented by `indent`. -/
def plainScalar (flow : Bool) (indent : Nat) (c : Cursor) : PlainText :=
  plainWords flow indent (c.rest.length + 1) ⟨[], c.mark, false, c⟩ []

end Cursor

end ResourceTables.Yaml
