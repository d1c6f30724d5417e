import ResourceTables.Command.Generate
import ResourceTables.Report.Time
import Std.Time.DateTime.Timestamp

/-!
# The command line

Reads the files that a run depends on, makes the report, and writes what it leaves behind. No
program is started: schemas are read from a file.
-/

namespace ResourceTables.Command

/-- The variables of the environment that count. -/
def environmentNames : List String :=
  "GITHUB_OUTPUT" :: OptionName.all.filterMap OptionName.environmentName?

/-- The environment. -/
def readEnvironment : IO (List (String × String)) := do
  let found ← environmentNames.mapM fun name => do
    return (← IO.getEnv name).map fun value => (name, value)
  return found.filterMap id

/-- The disk with what stands at a path, if anything does. -/
def readPlace (d : Disk) (path : String) : IO Disk := do
  let place := (← IO.currentDir) / path
  if ← place.isDir then return d.make path .directory
  try return d.make path (.file (← IO.FS.readBinFile place))
  catch _ => return d

/-- The disk with the configuration files of a directory. -/
def readConfiguration (d : Disk) (directory : String) : IO Disk := do
  let place := (← IO.currentDir) / directory
  if !(← place.isDir) then return d
  let names := ((← place.readDir).toList.map fun entry => entry.fileName).filter FileName.isConfig
  names.foldlM (fun d name => readPlace d (Path.join directory name)) d

/-- The disk with everything that a run depends on. -/
def readDisk (o : Options) (stepFile : Option String) : IO Disk := do
  let here := Path.components (← IO.currentDir).toString
  let d ← readPlace { here := here } o.directory
  let d ← readConfiguration d o.directory
  let paths := o.schemaFile.toList ++ stepFile.toList ++
    (o.outputFile.map (Path.join o.directory)).toList
  -- The directories that written files are put into.
  let outer := paths.map fun path => Path.join path ".."
  (outer ++ paths).foldlM (fun d path => if path.isEmpty then pure d else readPlace d path) d

/-- Writes a file if a run has changed it. -/
def writePlace (before after : Disk) (path : String) : IO Unit := do
  match before.read path, after.read path with
  | .ok old, .ok new => if old != new then IO.FS.writeBinFile ((← IO.currentDir) / path) new
  | _, .ok new => IO.FS.writeBinFile ((← IO.currentDir) / path) new
  | _, .error _ => return

/-- A delimiter that stands in no text. -/
def randomDelimiter : IO String := do
  let numbers ← (List.range 32).mapM fun _ => IO.rand 0 15
  return "ghadelimiter_" ++ String.ofList (numbers.map Text.hexDigit)

/-- How the command line is used. -/
def usage : String :=
  "Usage: " ++ programName ++ " generate [OPTIONS]\n\nOptions:\n" ++
    String.join (OptionName.all.map fun o => "  " ++ o.long ++ "\n")

/-- Makes the report that the options ask for. -/
def runGenerate (environment : List (String × String)) (o : Options) (d : Disk) : IO UInt32 := do
  let stepFile := environment.lookup "GITHUB_OUTPUT"
  let now ← Std.Time.Timestamp.now
  let r := generate o {
    disk := d
    stepFile := stepFile
    time := Time.text ⟨now.toSecondsSinceUnixEpoch.val.toNat⟩
    delimiter := ← randomDelimiter }
  -- Only these files can differ from what they were.
  let paths := stepFile.toList ++ (o.outputFile.map (Path.join o.directory)).toList
  try
    paths.forM (writePlace d r.disk)
    (← IO.getStdout).putStr r.output
    match r.ending, r.errors? o.verbose with
    | .exit code, some errors =>
      (← IO.getStderr).putStr errors
      return UInt32.ofNat code
    | _, _ =>
      (← IO.getStderr).putStr "Error: the report cannot be made\n"
      return 1
  catch e =>
    (← IO.getStderr).putStr ("Failed to write output: " ++ e.toString ++ "\n")
    return 1

/-- Does what the arguments ask for. -/
def run (arguments : List String) : IO UInt32 := do
  let environment ← readEnvironment
  let stepFile := environment.lookup "GITHUB_OUTPUT"
  -- Which places of the disk are needed depends on the options, so they are read twice: first
  -- without any disk.
  let d ← match Invocation.parse environment {} arguments with
    | .ok (.generate o) => readDisk o stepFile
    | _ => pure {}
  match Invocation.parse environment d arguments with
  | .error e =>
    (← IO.getStderr).putStr (usage ++ "\nError: " ++ e.message ++ "\n")
    return 2
  | .ok .version =>
    (← IO.getStdout).putStr versionText
    return 0
  | .ok .help =>
    (← IO.getStdout).putStr usage
    return 0
  | .ok (.generate o) => runGenerate environment o d

end ResourceTables.Command

/-- The program. -/
def main (arguments : List String) : IO UInt32 :=
  ResourceTables.Command.run arguments
