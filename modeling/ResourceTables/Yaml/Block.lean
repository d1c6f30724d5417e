import ResourceTables.Yaml.Quoted

/-!
# Block scalars

A scalar of whole lines that are indented alike. In a folded scalar the break between two lines is a
blank, unless one of them is indented further. The header tells what becomes of the breaks at the
end.
-/

namespace ResourceTables.Yaml

/-- What becomes of the line breaks at the end of a scalar. -/
inductive Chomping where
  /-- One is kept. -/
  | clip
  /-- None is kept. -/
  | strip
  /-- All are kept. -/
  | keep
  deriving DecidableEq, Repr, Inhabited

/-- The header of a block scalar. -/
structure BlockHeader where
  /-- What becomes of the line breaks at the end. -/
  chomping : Chomping := .clip
  /-- How far the lines are indented, if it is told. -/
  indentation : Option Nat := none
  deriving Inhabited

/-- What has been read of a block scalar. -/
structure BlockText where
  /-- The characters of the lines and between them. -/
  chars : List Char
  /-- The break behind the last line. -/
  lineBreak : List Char
  /-- Further breaks behind it. -/
  breaks : List Char
  /-- What is ahead. -/
  cursor : Cursor

namespace Cursor

/-- The sign that tells what becomes of the last line breaks. -/
def chomping? (c : Cursor) : Option Chomping :=
  if c.peek == '+' then some .keep else if c.peek == '-' then some .strip else none

/-- The digit that tells the indentation; zero is none. -/
def indentation? (start : Mark) (c : Cursor) : Except Fault (Option Nat) :=
  if c.peek == '0' then .error (c.fault .blockScalar start .zeroIndentation)
  else if isDigit c.peek then .ok (some (c.peek.toNat - '0'.toNat))
  else .ok none

/-- The cursor behind the next character, if something has been found there. -/
def nextIf (found : Option α) (c : Cursor) : Cursor :=
  if found.isSome then c.next else c

/-- The header of a block scalar: a sign and a digit in either order, or one or none of them. -/
def blockHeader (start : Mark) (c : Cursor) : Except Fault (BlockHeader × Cursor) := do
  let (header, c) ← match c.chomping? with
    | some chomping => do
      let indentation ← c.next.indentation? start
      pure (({ chomping, indentation } : BlockHeader), c.next.nextIf indentation)
    | none => do
      let indentation ← c.indentation? start
      let c := c.nextIf indentation
      let chomping := if indentation.isSome then c.chomping? else none
      pure ({ chomping := chomping.getD .clip, indentation }, c.nextIf chomping)
  if !isWordEnd c.peek then throw (c.fault .blockScalar start (.blockHeader c.peek))
  return (header, ← c.endLine .blockScalar start)

/-- The breaks of empty lines ahead, the greatest indentation that is met among them, and the cursor
behind the blanks that follow. -/
def leadingBreaks : Nat → Nat → Cursor → List Char × Nat × Cursor
  | 0, deepest, c => ([], deepest, c)
  | fuel + 1, deepest, c =>
    if c.peek == ' ' then leadingBreaks fuel (max deepest c.next.mark.column) c.next
    else if isBreak c.peek then
      let (found, c) := c.lineBreak
      let (more, deepest, c) := leadingBreaks fuel deepest c
      (found ++ more, deepest, c)
    else ([], deepest, c)

/-- The cursor behind blanks, but not further than the given column. -/
def skipIndentation (indent : Nat) : Nat → Cursor → Cursor
  | 0, c => c
  | fuel + 1, c =>
    if c.mark.column < indent && c.peek == ' ' then skipIndentation indent fuel c.next else c

/-- The breaks of empty lines ahead, and the cursor behind the indentation of the next line. -/
def blockBreaks (indent : Nat) : Nat → Cursor → List Char × Cursor
  | 0, c => ([], c)
  | fuel + 1, c =>
    let c := c.skipIndentation indent indent
    if isBreak c.peek then
      let (found, c) := c.lineBreak
      let (more, c) := blockBreaks indent fuel c
      (found ++ more, c)
    else ([], c)

/-- Whether a line with the given indentation has its first character here. -/
def atBlockLine (indent : Nat) (c : Cursor) : Bool :=
  c.mark.column == indent && c.peek != endChar

/-- The lines ahead, behind the given breaks. -/
def blockLines (folded : Bool) (indent : Nat) : Nat → List Char → Cursor → BlockText
  | 0, breaks, c => ⟨[], [], breaks, c⟩
  | fuel + 1, breaks, c =>
    if c.atBlockLine indent then
      let (line, after) := c.span (!isBreakOrEnd ·)
      let (lineBreak, after) := after.lineBreak
      let (more, after) := after.blockBreaks indent (after.rest.length + 1)
      if after.atBlockLine indent then
        let isFolded := folded && lineBreak == ['\n'] && !isBlankOrTab c.peek &&
          !isBlankOrTab after.peek
        let glue := if isFolded then (if more.isEmpty then [' '] else []) else lineBreak
        let behind := blockLines folded indent fuel more after
        { behind with chars := breaks ++ line ++ glue ++ behind.chars }
      else ⟨breaks ++ line, lineBreak, more, after⟩
    else ⟨[], [], breaks, c⟩

/-- The block scalar that begins here, in a collection whose entries are indented so that its lines
are by `least` at least. -/
def blockScalar (least : Nat) (c : Cursor) : Except Fault (String × Cursor) := do
  let folded := c.peek == '>'
  let (header, c) ← c.next.blockHeader c.mark
  let fuel := c.rest.length + 1
  let (indent, breaks, c) := match header.indentation with
    | some more =>
      let indent := least + more - 1
      (indent, c.blockBreaks indent fuel)
    | none =>
      let (breaks, deepest, c) := c.leadingBreaks fuel 0
      (max least deepest, breaks, c)
  let t := c.blockLines folded indent fuel breaks
  let ending := match header.chomping with
    | .strip => []
    | .clip => t.lineBreak
    | .keep => t.lineBreak ++ t.breaks
  return (String.ofList (t.chars ++ ending), t.cursor)

end Cursor

end ResourceTables.Yaml
