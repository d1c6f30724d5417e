import ResourceTables.Json.Document
import ResourceTables.Table.Cell

/-!
# The JSON report

Tables as a JSON document, which keeps the kind of every value and the expression of every value
that is not known yet.
-/

namespace ResourceTables.JsonReport

/-- The name under which the report says it was made. -/
def tool : String := "tftable"

/-- The version of the report's maker. -/
def version : String := "0.1.0"

/-- A known value of a kind. -/
def known (kind : String) (value : Document) : Document :=
  .object [("known", .bool true), ("type", .text kind), ("value", value)]

/-- A cell. -/
def cell : Cell → Document
  | .unknown expression =>
    .object [("known", .bool false), ("expression", (expression.map .text).getD .null)]
  | .bool b => known "bool" (.bool b)
  | .number x => known "number" (.float x)
  | .string s => known "string" (.text s)

/-- The cells of a row by attribute. -/
def cells (cs : List (String × Cell)) : Document :=
  .object (cs.foldl (fun members (name, c) => Document.setMember name (cell c) members) [])

/-- A row. -/
def row (r : Row) : Document :=
  .object [("name", .text r.name), ("file", .text r.file), ("line", .int r.line),
    ("attributes", cells r.cells)]

/-- A table. -/
def table (t : Table) : Document :=
  .object [("name", .text t.request.type),
    ("attributes", .array (t.request.attributes.map .text)),
    ("resources", .array (t.rows.map row))]

/-- The report, made at the given time from the given source. -/
def document (time source : String) (tables : List Table) : Document :=
  .object [
    ("meta", .object [("generated", .text time), ("source", .text source), ("tool", .text tool),
      ("version", .text version)]),
    ("resource_types", .array (tables.map table))]

/-- The text of the report. -/
def report (time source : String) (tables : List Table) : String :=
  (document time source tables).pretty

end ResourceTables.JsonReport
