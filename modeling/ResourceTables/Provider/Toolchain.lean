import ResourceTables.Failure
import ResourceTables.Json.DocumentReader
import ResourceTables.Text.Blank

/-!
# Schemas from the toolchain

The tool that applies configurations can print the schemas of the providers that a configuration
uses. It is asked in two runs in the directory of the configuration: the first installs the
providers, the second prints their schemas. What each run gives is given beforehand, so that asking
is a function of it.
-/

namespace ResourceTables

/-- What becomes of a run of a program. -/
inductive ToolRun where
  /-- The program ends with a code, after writing an output and errors. -/
  | ended (code : Int) (output errors : String)
  /-- The program cannot be started, for a reason in words. -/
  | notStarted (reason : String)
  deriving DecidableEq, Repr, Inhabited

/-- A run that succeeds and prints nothing. -/
def ToolRun.silent : ToolRun := ended 0 "" ""

/-- A call of a program: its name with the arguments, and the directory it runs in. -/
structure ToolCall where
  /-- The program and its arguments. -/
  arguments : List String
  /-- The directory. -/
  directory : String
  deriving DecidableEq, Repr, Inhabited

/-- The programs that are there: where each is found by its name, and what the runs give, in turn.
Further runs succeed and print nothing. -/
structure Toolchain where
  /-- The path of the program with the given name. -/
  locate : String → Option String := fun _ => none
  /-- What the runs give. -/
  runs : List ToolRun := []
  deriving Inhabited

namespace Toolchain

/-- The name of the tool unless another is given. -/
def defaultBinary : String := "terraform"

/-- The arguments with which the tool installs providers. -/
def initArguments : List String := ["init", "-input=false", "-backend=false", "-no-color"]

/-- The arguments with which the tool prints schemas. -/
def schemaArguments : List String := ["providers", "schema", "-json"]

/-- The output of a run with the given program and arguments. -/
def outputOf (path : String) (arguments : List String) : ToolRun → Except ToolError String
  | .notStarted reason => .error (.noStart path reason)
  | .ended code output errors =>
    if code = 0 then .ok output
    else
      let detail := Text.trim (if errors.isEmpty then output else errors)
      .error (.failed arguments code detail)

/-- The document that a run prints. -/
def documentOf (output : String) : Except ToolError Document :=
  match Document.ofText? output with
  | some d => .ok d
  | none => .error (.output "no document")

/-- The document of schemas that the tool prints for a directory, and the calls that are made. -/
def schemas (t : Toolchain) (directory : String) (binary : Option String) :
    Except ToolError Document × List ToolCall :=
  let binary := match binary with
    | some name => if name.isEmpty then defaultBinary else name
    | none => defaultBinary
  match t.locate binary with
  | none => (.error (.missing binary), [])
  | some path =>
    let init : ToolCall := ⟨path :: initArguments, directory⟩
    let print : ToolCall := ⟨path :: schemaArguments, directory⟩
    match outputOf path initArguments (t.runs.headD .silent) with
    | .error e => (.error e, [init])
    | .ok _ =>
      ((outputOf path schemaArguments (t.runs.getD 1 .silent)).bind documentOf, [init, print])

end Toolchain

end ResourceTables
