import ResourceTables.Yaml.Cursor

/-!
# Quoted scalars

A scalar between quotes. A line break within it is a blank, unless further ones follow it, which
stand for themselves; blanks around a break are left out. Between single quotes a quote is written
twice; between double quotes a backslash begins an escape.
-/

namespace ResourceTables.Yaml

/-- Whether the character is a blank or a tab. -/
def isBlankOrTab (c : Char) : Bool := c == ' ' || c == '\t'

/-- The characters that a backslash and a single character stand for. -/
def simpleEscapes : List (Char × Char) :=
  [('0', '\x00'), ('a', '\x07'), ('b', '\x08'), ('t', '\t'), ('\t', '\t'), ('n', '\n'),
    ('v', '\x0b'), ('f', '\x0c'), ('r', '\r'), ('e', '\x1b'), (' ', ' '), ('"', '"'),
    ('\\', '\\'), ('/', '/'), ('N', '\x85'), ('_', '\xa0'), ('L', '\u2028'), ('P', '\u2029')]

/-- How many hexadecimal digits follow a backslash and the character. -/
def hexEscapeLength? (c : Char) : Option Nat :=
  if c == 'x' then some 2 else if c == 'u' then some 4 else if c == 'U' then some 8 else none

namespace Cursor

/-- Line breaks ahead with the blanks around them, within a scalar that began at `start`. -/
def quotedBreaks (start : Mark) : Nat → Cursor → Except Fault (List Char × Cursor)
  | 0, c => .ok ([], c)
  | fuel + 1, c =>
    if c.atDocumentLimit then .error (c.fault .quoted start .separator)
    else
      let c := c.skipWhile isBlankOrTab
      if isBreak c.peek then
        let (found, c) := c.lineBreak
        (quotedBreaks start fuel c).map fun (more, c) => (found ++ more, c)
      else .ok ([], c)

/-- What blanks and line breaks ahead stand for. -/
def quotedSpaces (start : Mark) (c : Cursor) : Except Fault (List Char × Cursor) := do
  let (blanks, c) := c.span isBlankOrTab
  if c.peek == endChar then throw (c.fault .quoted start .endOfText)
  else if isBreak c.peek then
    let (found, c) := c.lineBreak
    let (more, c) ← c.quotedBreaks start c.rest.length
    return ((if found != ['\n'] then found else if more.isEmpty then [' '] else []) ++ more, c)
  else return (blanks, c)

/-- What the escape behind a backslash stands for. -/
def quotedEscape (start : Mark) (c : Cursor) : Except Fault (List Char × Cursor) := do
  let x := c.peek
  match simpleEscapes.lookup x, hexEscapeLength? x with
  | some stands, _ => return ([stands], c.next)
  | none, some length =>
    let c := c.next
    let digits := (List.range length).map fun n => c.peek n
    match digits.find? fun d => (Text.hexValue? d).isNone with
    | some found => throw (c.fault .doubleQuoted start (.hexDigits length found))
    | none =>
      let code := (Text.readHex? digits).getD 0
      if code.isValidChar then return ([Char.ofNat code], c.skip length)
      throw .beyondLimits
  | none, none =>
    if isBreak x then
      let c := c.lineBreak.2
      c.quotedBreaks start c.rest.length
    else throw (c.fault .doubleQuoted start (.escape x))

/-- The characters up to the closing quote, and the cursor behind it. -/
def quotedChars (double : Bool) (start : Mark) :
    Nat → Cursor → Except Fault (List Char × Cursor)
  | 0, c => .error (c.fault .quoted start .endOfText)
  | fuel + 1, c => do
    let x := c.peek
    let (found, after) ←
      if !double && x == '\'' && c.peek 1 == '\'' then pure (['\''], c.skip 2)
      else if x == (if double then '"' else '\'') then return ([], c.next)
      else if double && x == '\\' then c.next.quotedEscape start
      else if isSpaceOrEnd x then c.quotedSpaces start
      else pure ([x], c.next)
    let (more, after) ← quotedChars double start fuel after
    return (found ++ more, after)

/-- The quoted scalar that begins here. -/
def quotedScalar (c : Cursor) : Except Fault (String × Cursor) :=
  (c.next.quotedChars (c.peek == '"') c.mark (c.rest.length + 1)).map fun (cs, c) =>
    (String.ofList cs, c)

end Cursor

end ResourceTables.Yaml
