import ResourceTables.Console.Grid
import ResourceTables.Failure
import ResourceTables.Table.Cell

/-!
# Notices

What the program tells about its progress on the error output, and how it is worded there. The words
of users are escaped, so that brackets in them show; only the summary takes its cells as they are.
-/

namespace ResourceTables.Command

/-- What is told. -/
inductive Notice where
  /-- How many resource types are asked for. -/
  | requested (types : Nat)
  /-- How many providers have schemas. -/
  | schemas (providers : Nat)
  /-- How many resources the module has. -/
  | found (resources : Nat)
  /-- How many resources of a type there are. -/
  | rows (type : String) (resources : Nat)
  /-- The report has been handed on to the next step. -/
  | handedOn
  /-- The report takes the place of another one. -/
  | replaced
  /-- The report stands at the end of a document. -/
  | appended
  /-- The tables at a glance. -/
  | summary (tables : List Table)
  /-- The report has been written to a file. -/
  | written (path : String)
  /-- There is no report. -/
  | failed (f : Failure)
  /-- The report cannot be written, for a reason in words. -/
  | notWritten (reason : String)
  deriving Inhabited

namespace Notice

/-- Whether the notice is only told on request. -/
def isDetail : Notice → Bool
  | requested _ | schemas _ | rows .. | handedOn | replaced | appended => true
  | _ => false

/-- A detail with its markup. -/
def detail (message : String) : String :=
  "[dim]" ++ Console.escape message ++ "[/dim]"

/-- The columns of the summary. -/
def summaryColumns : List Console.Column :=
  [⟨"Resource type", false⟩, ⟨"Resources", true⟩, ⟨"Attributes", false⟩, ⟨"Unknown values", true⟩]

/-- How many values of a table are not known yet. -/
def unknownCount (t : Table) : Nat :=
  (t.rows.flatMap (·.cells)).countP fun (_, cell) => cell.isUnknown

/-- The row of a table in the summary. -/
def summaryRow (t : Table) : List String :=
  [t.request.type, toString t.rows.length, ", ".intercalate t.request.attributes,
    toString (unknownCount t)]

/-- What the notice prints; nothing for a failure without words, and for a summary whose names hold
wrong markup. -/
def text? : Notice → Option String
  | requested types => Console.printed? (detail ("requested " ++ toString types ++
      " resource type(s)"))
  | schemas providers => Console.printed? (detail ("loaded schemas for " ++ toString providers ++
      " provider(s)"))
  | found resources =>
    Console.printed? ("Found [bold]" ++ toString resources ++ "[/bold] resources.")
  | rows type resources =>
    Console.printed? (detail (type ++ ": " ++ toString resources ++ " resource(s)"))
  | handedOn => Console.printed? (detail "set the markdown step output")
  | replaced => Console.printed? (detail "comment fences found, replacing their content")
  | appended => Console.printed? (detail "comment fences not found, appending to file")
  | summary tables => Console.table? "Resource Tables" summaryColumns (tables.map summaryRow)
  | written path =>
    Console.printed? ("Tables written to [bold]" ++ Console.escape path ++ "[/bold]")
  | failed f =>
    let start := match f with
      | .request _ => "[red]Invalid resources input:[/red] "
      | _ => "[red]Error:[/red] "
    f.text?.bind fun text => Console.printed? (start ++ Console.escape text)
  | notWritten reason =>
    Console.printed? ("[red]Failed to write output:[/red] " ++ Console.escape reason)

end Notice

end ResourceTables.Command
