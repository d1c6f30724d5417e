import ResourceTables.Console.Line

/-!
# Tables on the console

A table with a title, a heading for each column and ruled lines around all cells. Each column is as
wide as its widest cell. Tabs count for nothing there, so a cell with tabs may need several lines.
-/

namespace ResourceTables.Console

/-- A column: its heading, and the side at which its cells stand. -/
structure Column where
  /-- The heading. -/
  heading : String
  /-- Whether cells stand at the right side. -/
  alignRight : Bool := false
  deriving Repr, Inhabited

/-- The pieces of a text between the characters that satisfy `p`. -/
def splitBy (p : Char → Bool) : List Char → List (List Char)
  | [] => [[]]
  | c :: rest =>
    if p c then [] :: splitBy p rest
    else match splitBy p rest with
      | first :: more => (c :: first) :: more
      | [] => [[c]]

/-- Whether the character ends a line in some script. -/
def isLineEnd (c : Char) : Bool :=
  ('\n' ≤ c && c ≤ '\r') || ('\x1c' ≤ c && c ≤ '\x1e') || c == '\x85' || c == '\u2028' ||
    c == '\u2029'

/-- How many columns a text takes over all of its lines. -/
def textWidth (cs : List Char) : Nat :=
  (splitBy isLineEnd cs).foldl (fun n line => max n (width line)) 0

/-! ## Fitting lines -/

/-- The next word with the blanks on both sides, and what follows it; nothing where there is no
word. -/
def nextWord? (cs : List Char) : Option (List Char × List Char) :=
  let before := cs.takeWhile Text.isBlank
  let behind := cs.drop before.length
  let word := behind.takeWhile (!Text.isBlank ·)
  let rest := behind.drop word.length
  let after := rest.takeWhile Text.isBlank
  if word.isEmpty then none else some (before ++ word ++ after, rest.drop after.length)

/-- The line broken before words that do not fit into the columns any more. The line so far is
`line` and takes `taken` columns. -/
def breakWords (columns : Nat) : Nat → List Char → Nat → List Char → List (List Char)
  | 0, line, _, cs => [line ++ cs]
  | fuel + 1, line, taken, cs =>
    match nextWord? cs with
    | none => [line ++ cs]
    | some (word, rest) =>
      if taken + width (Text.dropEnd Text.isBlank word) ≤ columns || line.isEmpty then
        breakWords columns fuel (line ++ word) (taken + width word) rest
      else line :: breakWords columns fuel word (width word) rest

/-- The line without blanks at its end that stand behind the columns. -/
def dropBlanks (columns : Nat) (line : List Char) : List Char :=
  let blanks := (line.reverse.takeWhile Text.isBlank).length
  line.take (line.length - min blanks (line.length - columns))

/-- The longest start of a line that fits into the columns. -/
def fitting (columns : Nat) (line : List Char) : List Char :=
  ((List.range (line.length + 1)).map line.take).foldl
    (fun longest start => if width start ≤ columns then start else longest) []

/-- The line with three dots in the place of what does not fit into the columns. -/
def shorten (columns : Nat) (line : List Char) : List Char :=
  if width line ≤ columns then line
  else
    let start := fitting (columns - 1) line
    start ++ List.replicate (columns - 1 - width start) ' ' ++ ['…']

/-- The lines of a text in the given columns. -/
def linesIn (columns : Nat) (cs : List Char) : List (List Char) :=
  (splitBy (· == '\n') cs).flatMap fun line =>
    let line := expandTabs 0 [] line
    (breakWords columns line.length [] 0 line).map fun line =>
      shorten columns (dropBlanks columns line)

/-- The line with blanks up to the width. -/
def pad (alignRight : Bool) (columns : Nat) (line : List Char) : List Char :=
  let blanks := List.replicate (columns - width line) ' '
  if alignRight then blanks ++ line else line ++ blanks

/-- The line in the middle of the width. -/
def centre (columns : Nat) (line : List Char) : List Char :=
  let before := (columns - width line) / 2
  pad false columns (List.replicate before ' ' ++ line)

/-- The signs of a ruled line: at its left end, along a column, between columns and at its right
end. -/
structure Rule where
  /-- At the left end. -/
  left : Char
  /-- Along a column. -/
  along : Char
  /-- Between two columns. -/
  between : Char
  /-- At the right end. -/
  right : Char

/-- The ruled line above the headings. -/
def Rule.top : Rule := ⟨'┏', '━', '┳', '┓'⟩

/-- The ruled line below the headings. -/
def Rule.head : Rule := ⟨'┡', '━', '╇', '┩'⟩

/-- The ruled line below all rows. -/
def Rule.bottom : Rule := ⟨'└', '─', '┴', '┘'⟩

/-- A ruled line over columns of the given widths, each with a blank on both sides. -/
def Rule.line (r : Rule) (widths : List Nat) : List Char :=
  r.left :: [r.between].intercalate (widths.map fun n => List.replicate (n + 2) r.along) ++
    [r.right]

/-- A line of cells between bars. -/
def cellLine (bar : Char) (cells : List (List Char)) : List Char :=
  bar :: cells.flatMap fun cell => ' ' :: cell ++ [' ', bar]

/-- The lines of a row, each as long as the widths ask for. -/
def rowLines (bar : Char) (columns : List (Column × Nat)) (cells : List (List (List Char))) :
    List (List Char) :=
  let height := cells.foldl (fun n lines => max n lines.length) 1
  (List.range height).map fun n =>
    cellLine bar ((columns.zip cells).map fun ((column, columnWidth), lines) =>
      pad column.alignRight columnWidth (lines.getD n []))

/-- A table. The texts in its cells may have markup; nothing if it is wrong. -/
def table? (title : String) (columns : List Column) (rows : List (List String)) :
    Option String :=
  (rows.mapM fun (row : List String) => row.mapM plain?).map
    fun (rows : List (List (List Char))) =>
      let headings := columns.map fun c => c.heading.toList
      -- A column is as wide as the widest of its texts.
      let widths := (List.range columns.length).map fun n =>
        (headings :: rows).foldl (fun most row => max most (textWidth (row.getD n []))) 0
      let sized := columns.zip widths
      let fit (row : List (List Char)) := (widths.zip row).map fun (n, cs) => linesIn n cs
      let total := widths.foldl (fun sum n => sum + n + 3) 1
      let lines := [centre total title.toList, Rule.top.line widths] ++
        rowLines '┃' sized (fit headings) ++
        [Rule.head.line widths] ++ rows.flatMap (rowLines '│' sized ∘ fit) ++
        [Rule.bottom.line widths]
      String.ofList (lines.flatMap (· ++ ['\n']))

end ResourceTables.Console
