import ResourceTables.Disk.Path
import ResourceTables.Table.Cell

/-!
# Markdown tables

Tables as markdown: a title, a row of column names, and a row for each resource with a link to the
line that declares it. A bar in a cell is escaped and a newline becomes a line break, so that every
row stays on one line.
-/

namespace ResourceTables.Markdown

/-- What stands for a value that is not known yet. -/
def unknownText : String := "_unknown_"

/-- A character of a cell. -/
def cellChar (c : Char) : List Char :=
  if c = '|' then ['\\', '|']
  else if c = '\n' then ['<', 'b', 'r', '>']
  else [c]

/-- The text of a cell. A missing cell is empty. -/
def cellText : Option Cell → String
  | none => ""
  | some (.unknown _) => unknownText
  | some cell => String.ofList (cell.text.toList.flatMap cellChar)

/-- The link to a row's resource from the directory of the report, as seen from the directory
`here`; nothing when the row has no file. -/
def link? (here : List String) (directory : String) (row : Row) : Option String :=
  (Path.relative? here row.file directory).map fun path => path ++ "#L" ++ toString row.line

/-- A row of cells, each between a blank and a bar. -/
def cells (texts : List String) : String :=
  String.join (texts.map fun t => " " ++ t ++ " |")

/-- The line of a resource. -/
def rowLine (attributes : List String) (link : String) (row : Row) : String :=
  "| [`" ++ row.name ++ "`](" ++ link ++ ") |" ++
    cells (attributes.map fun a => cellText (row.cells.lookup a)) ++ "\n"

/-- The dashes below a column name. -/
def dashes (name : String) : String :=
  String.ofList (List.replicate (name.length + 4) '-')

/-- The lines above the resources. -/
def header (level : Int) (request : TableRequest) : String :=
  String.ofList (List.replicate level.toNat '#') ++ " " ++ request.type ++ "\n\n" ++
    "| **Name** |" ++ cells (request.attributes.map fun a => "`" ++ a ++ "`") ++ "\n" ++
    "|----------|" ++ String.join (request.attributes.map fun a => dashes a ++ "|") ++ "\n"

/-- A table; nothing when a row has no file. -/
def table? (here : List String) (directory : String) (level : Int) (t : Table) : Option String :=
  (t.rows.mapM fun row =>
    (link? here directory row).map fun link => rowLine t.request.attributes link row).map
    fun lines => header level t.request ++ String.join lines

/-- All tables with an empty line between them; nothing when a row has no file. -/
def report? (here : List String) (directory : String) (level : Int) (tables : List Table) :
    Option String :=
  (tables.mapM (table? here directory level)).map ("\n".intercalate ·)

end ResourceTables.Markdown
