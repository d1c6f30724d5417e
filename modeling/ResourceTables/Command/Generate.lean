import ResourceTables.Command.Notice
import ResourceTables.Command.Options
import ResourceTables.Provider.Toolchain
import ResourceTables.Report.Fences
import ResourceTables.Report.Json
import ResourceTables.Report.Markdown
import ResourceTables.Report.StepOutput
import ResourceTables.Request

/-!
# Making a report

The tables are gathered first: the request, the schemas, the module and every cell. Nothing is
written unless all of them are there. Then the report is handed on to the next step of the build, if
there is one, and written to its file or to the standard output.
-/

namespace ResourceTables.Command

/-- What a run depends on besides its options. -/
structure World where
  /-- The files. -/
  disk : Disk
  /-- The file that hands texts on to the next step of a build. -/
  stepFile : Option String := none
  /-- The programs. -/
  toolchain : Toolchain := {}
  /-- The time. -/
  time : String := ""
  /-- A delimiter that stands in no text. -/
  delimiter : String := ""
  deriving Inhabited

/-- How a run ends. -/
inductive Ending where
  /-- With an exit code. -/
  | exit (code : Nat)
  /-- Without one, as something cannot be put into words. -/
  | aborted
  deriving DecidableEq, Repr, Inhabited

/-- What a run leaves behind. -/
structure Outcome where
  /-- How the run ends. -/
  ending : Ending
  /-- What is written to the standard output. -/
  output : String
  /-- What is told, in order. -/
  notices : List Notice
  /-- The files afterwards. -/
  disk : Disk
  deriving Inhabited

/-- The notices that are told and what comes of it. -/
structure Told (α : Type) where
  /-- The notices, in order. -/
  notices : List Notice
  /-- What comes of it. -/
  value : α

namespace Told

/-- What comes of `f` after what has been told. -/
def andThen (t : Told (Except ε α)) (f : α → Told (Except ε β)) : Told (Except ε β) :=
  match t.value with
  | .error e => ⟨t.notices, .error e⟩
  | .ok a => ⟨t.notices ++ (f a).notices, (f a).value⟩

/-- A result with the notice of its success. -/
def ofExcept (notice : α → Notice) : Except ε α → Told (Except ε α)
  | .error e => ⟨[], .error e⟩
  | .ok a => ⟨[notice a], .ok a⟩

end Told

/-! ## Gathering -/

/-- The provider schemas: those of the file that is named, or what the tool prints. -/
def registry (o : Options) (w : World) : Except Failure Registry := do
  match o.schemaFile with
  | some path => (Registry.ofFile w.disk path).mapError .registry
  | none =>
    let document ← (w.toolchain.schemas o.directory o.binary).1.mapError .tool
    (Registry.ofDocument document).mapError .registry

/-- The tables of a module, each with the notice of its rows. -/
def tables (d : Disk) (i : Inventory) (requests : List TableRequest) :
    Told (Except Failure (List Table)) :=
  let (made, failure, _) := i.tables d requests
  ⟨made.map fun t => .rows t.request.type t.rows.length,
    match failure with
    | some (r, e) => .error (.resolve r e)
    | none => .ok made⟩

/-- All tables that are asked for. -/
def gather (o : Options) (w : World) : Told (Except Failure (List Table)) :=
  (Told.ofExcept (fun requests => .requested requests.length)
    ((TableRequest.load o.request).mapError .request)).andThen fun requests =>
  (Told.ofExcept (fun r => .schemas r.size) (registry o w)).andThen fun r =>
  (Told.ofExcept (fun i => .found i.module.resources.length)
    ((Inventory.load w.disk r o.directory).mapError .load)).andThen fun i =>
  tables w.disk i requests

/-! ## Publishing -/

/-- Why a report is not published. -/
inductive PublishError where
  /-- A file cannot be written, for a reason in words. -/
  | notWritten (reason : String)
  /-- The file that is there holds no text. -/
  | undecodable
  /-- The path can lead nowhere. -/
  | noPath
  deriving DecidableEq, Repr, Inhabited

/-- The error of a path that does not lead to a file. -/
def PublishError.ofDisk (path : String) : DiskFault → PublishError
  | .nullCharacter => .noPath
  | fault => .notWritten (fault.message path)

/-- What publishing leaves behind. -/
structure Published where
  /-- The notices that are told. -/
  notices : List Notice
  /-- What is written to the standard output, or why publishing has failed. -/
  result : Except PublishError String
  /-- The files afterwards. -/
  disk : Disk

/-- The disk with the report handed on to the next step, if there is one. -/
def handOn (w : World) (report : String) : Except PublishError (List Notice × Disk) :=
  match w.stepFile with
  | none | some "" => .ok ([], w.disk)
  | some path =>
    match StepOutput.set w.disk path w.delimiter "markdown" report with
    | .ok d => .ok ([.handedOn], d)
    | .error fault => .error (.ofDisk path fault)

/-- The disk with the report in the file at a path. A markdown report takes its place in the
document that is there; another one replaces it. -/
def writeReport (format : ReportFormat) (d : Disk) (path report : String) :
    Except PublishError (List Notice × Disk) :=
  match format with
  | .json =>
    match d.write path report.toUTF8 with
    | .ok d => .ok ([], d)
    | .error fault => .error (.ofDisk path fault)
  | .markdown =>
    match Fences.write d path report with
    | .ok (found, d) => .ok ([if found then .replaced else .appended], d)
    | .error (.disk fault) => .error (.ofDisk path fault)
    | .error (.undecodable _) => .error .undecodable

/-- Publishes the tables as the given reports. -/
def publish (o : Options) (w : World) (tables : List Table) (markdown report : String) :
    Published :=
  match handOn w markdown with
  | .error e => ⟨[], .error e, w.disk⟩
  | .ok (told, d) =>
    match o.outputFile with
    | none => ⟨told, .ok (report ++ "\n"), d⟩
    | some file =>
      let path := Path.join o.directory file
      match writeReport o.format d path report with
      | .error e => ⟨told, .error e, d⟩
      | .ok (more, d) => ⟨told ++ more ++ [.summary tables, .written path], .ok "", d⟩

/-! ## Runs -/

/-- How a run ends that fails for a reason. -/
def Ending.ofFailure (f : Failure) : Ending :=
  if f.message?.isNone then .aborted
  else match f with
    | .request _ => .exit 2
    | _ => .exit 1

/-- Makes a report. -/
def generate (o : Options) (w : World) : Outcome :=
  let gathered := gather o w
  match gathered.value with
  | .error f => ⟨.ofFailure f, "", gathered.notices ++ [.failed f], w.disk⟩
  | .ok tables =>
    match Markdown.report? w.disk.here o.directory o.headerLevel tables with
    | none => ⟨.aborted, "", gathered.notices, w.disk⟩
    | some markdown =>
      let report := match o.format with
        | .markdown => markdown
        | .json => JsonReport.report w.time o.directory tables
      -- From here on all tables are made and can be shown, so files may change.
      let published := publish o w tables markdown report
      let notices := gathered.notices ++ published.notices
      match published.result with
      | .ok output => ⟨.exit 0, output, notices, published.disk⟩
      | .error (.notWritten reason) =>
        ⟨.exit 1, "", notices ++ [.notWritten reason], published.disk⟩
      | .error _ => ⟨.aborted, "", notices, published.disk⟩

/-- What a run prints on the error output; nothing where something cannot be put into words. -/
def Outcome.errors? (r : Outcome) (verbose : Bool) : Option String :=
  ((r.notices.filter fun n => verbose || !n.isDetail).mapM Notice.text?).map String.join

end ResourceTables.Command
