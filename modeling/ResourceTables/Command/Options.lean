import ResourceTables.Disk.Basic
import ResourceTables.Text.Blank
import ResourceTables.Text.Digit
import ResourceTables.Text.Lower
import ResourceTables.Text.Quoted

/-!
# Options

What is asked for on the command line. Options may stand in any order, the last one of a kind
counts, and a value may be joined to its option or follow it. What the command line leaves out is
taken from the environment, where an empty value counts as none, and then from the defaults.
-/

namespace ResourceTables.Command

/-- The options of the command that makes reports. -/
inductive OptionName where
  | directory | request | outputFile | headerLevel | schemaFile | binary | format | verbose
  | noColor | help
  deriving DecidableEq, Repr, Inhabited

namespace OptionName

/-- The options. -/
def all : List OptionName :=
  [directory, request, outputFile, headerLevel, schemaFile, binary, format, verbose, noColor, help]

/-- The option as it is written out. -/
def long : OptionName → String
  | directory => "--working-directory"
  | request => "--resources"
  | outputFile => "--output-file"
  | headerLevel => "--header-level"
  | schemaFile => "--schema-file"
  | binary => "--terraform-bin"
  | format => "--format"
  | verbose => "--verbose"
  | noColor => "--no-color"
  | help => "--help"

/-- The letter that stands for the option. -/
def short? : OptionName → Option Char
  | directory => some 'd'
  | request => some 'r'
  | outputFile => some 'o'
  | verbose => some 'v'
  | help => some 'h'
  | _ => none

/-- Whether the option has a value. -/
def takesValue : OptionName → Bool
  | verbose | noColor | help => false
  | _ => true

/-- The variable of the environment that stands for the option. -/
def environmentName? : OptionName → Option String
  | directory => some "INPUT_WORKING_DIRECTORY"
  | request => some "INPUT_RESOURCES"
  | outputFile => some "INPUT_OUTPUT_FILE"
  | headerLevel => some "INPUT_HEADER_LEVEL"
  | _ => none

end OptionName

/-- Why a command line is refused. -/
inductive UsageError where
  /-- No command is given. -/
  | noCommand
  /-- There is no such command. -/
  | unknownCommand (name : String)
  /-- There is no such option. -/
  | unknownOption (written : String)
  /-- An option has no value. -/
  | noValue (option : String)
  /-- An option has a value but takes none. -/
  | value (option : String)
  /-- Something stands behind all options. -/
  | argument (written : String)
  /-- An option is missing. -/
  | missing (option : OptionName)
  /-- The header level is no integer. -/
  | noInteger (written : String)
  /-- The header level is out of its range. -/
  | outOfRange (level : Int)
  /-- The format is none of those that there are. -/
  | unknownFormat (written : String)
  /-- A file stands where a directory is wanted. -/
  | isFile (path : String)
  /-- A directory stands where a file is wanted. -/
  | isDirectory (path : String)
  /-- The path can lead nowhere. -/
  | noPath (path : String)
  deriving DecidableEq, Repr, Inhabited

/-- The error in words. -/
def UsageError.message : UsageError → String
  | noCommand => "Missing command."
  | unknownCommand name => "No such command " ++ Text.quoted name ++ "."
  | unknownOption written => "No such option: " ++ written
  | noValue option => "Option " ++ Text.quoted option ++ " requires an argument."
  | value option => "Option " ++ Text.quoted option ++ " does not take a value."
  | argument written => "Got unexpected extra argument (" ++ written ++ ")"
  | missing option => "Missing option " ++ Text.quoted option.long ++ "."
  | noInteger written =>
    "Invalid value for '--header-level': " ++ Text.quoted written ++
      " is not a valid integer range."
  | outOfRange level =>
    "Invalid value for '--header-level': " ++ toString level ++ " is not in the range 1<=x<=6."
  | unknownFormat written =>
    "Invalid value for '--format': " ++ Text.quoted written ++
      " is not one of 'markdown', 'json'."
  | isFile path =>
    "Invalid value for '--working-directory': Directory " ++ Text.quoted path ++ " is a file."
  | isDirectory path =>
    "Invalid value for '--schema-file': File " ++ Text.quoted path ++ " is a directory."
  | noPath path => "Invalid path " ++ Text.quoted path ++ "."

/-- The formats of reports. -/
inductive ReportFormat where
  | markdown | json
  deriving DecidableEq, Repr, Inhabited

/-- What is asked for. -/
structure Options where
  /-- The directory of the configuration. -/
  directory : String := "."
  /-- The tables that are wanted, as they are written. -/
  request : String
  /-- The file that takes the report, seen from the directory; the standard output if there is
  none. -/
  outputFile : Option String := none
  /-- The level of the titles. -/
  headerLevel : Nat := 2
  /-- The file that holds the schemas; they are asked for if there is none. -/
  schemaFile : Option String := none
  /-- The program that prints schemas. -/
  binary : Option String := none
  /-- The format of the report. -/
  format : ReportFormat := .markdown
  /-- Whether progress is told. -/
  verbose : Bool := false
  deriving DecidableEq, Repr, Inhabited

/-- What a command line asks for. -/
inductive Invocation where
  /-- The version. -/
  | version
  /-- A description of the command line. -/
  | help
  /-- A report. -/
  | generate (o : Options)
  deriving DecidableEq, Repr, Inhabited

/-- The name of the program. -/
def programName : String := "cli"

/-- What the program prints when it is asked for its version. -/
def versionText : String := programName ++ ", version 0.1.0\n"

/-! ## Reading arguments -/

/-- What an argument says: options with their values, and perhaps an option whose value is the next
argument. -/
structure Argument where
  /-- The options that are complete. -/
  settings : List (OptionName × String) := []
  /-- The option whose value follows. -/
  pending : Option OptionName := none
  deriving Inhabited

/-- The options that single letters stand for, up to one whose value is joined to it. -/
def readLetters : List Char → Except UsageError Argument
  | [] => .ok {}
  | letter :: rest =>
    match OptionName.all.find? fun o => o.short? == some letter with
    | none => .error (.unknownOption ("-" ++ String.singleton letter))
    | some option =>
      if !option.takesValue then
        (readLetters rest).map fun a => { a with settings := (option, "") :: a.settings }
      else if rest.isEmpty then .ok { pending := some option }
      else .ok { settings := [(option, String.ofList rest)] }

/-- What an argument that starts with a dash says. -/
def readArgument (written : String) : Except UsageError Argument :=
  let cs := written.toList
  let name := String.ofList (cs.takeWhile (· != '='))
  let value? := if cs.contains '=' then some (String.ofList ((cs.dropWhile (· != '=')).drop 1))
    else none
  match OptionName.all.find? (·.long == name), value? with
  | some option, some value =>
    if option.takesValue then .ok { settings := [(option, value)] }
    else .error (.value option.long)
  | some option, none =>
    if option.takesValue then .ok { pending := some option }
    else .ok { settings := [(option, "")] }
  -- What is no long name may be several letters behind one dash.
  | none, _ =>
    if cs.take 2 == ['-', '-'] then .error (.unknownOption name) else readLetters (cs.drop 1)

/-- Whether an argument is an option. -/
def isOption (written : String) : Bool :=
  written.toList.head? == some '-' && written != "-"

/-- The options among the arguments, in order, and the arguments that are none. -/
def readArguments : List String → Except UsageError (List (OptionName × String) × List String)
  | [] => .ok ([], [])
  | written :: rest =>
    -- Behind two dashes nothing is an option any more.
    if written == "--" then .ok ([], rest)
    else if !isOption written then
      (readArguments rest).map fun (settings, others) => (settings, written :: others)
    else
      match readArgument written with
      | .error e => .error e
      | .ok a =>
        match a.pending, rest with
        | none, rest =>
          (readArguments rest).map fun (settings, others) => (a.settings ++ settings, others)
        | some option, value :: rest =>
          (readArguments rest).map fun (settings, others) =>
            (a.settings ++ (option, value) :: settings, others)
        | some option, [] => .error (.noValue option.long)

/-! ## Values -/

/-- The value of an option: the last one that is set, or the one of the environment. -/
def valueOf (environment : List (String × String)) (settings : List (OptionName × String))
    (option : OptionName) : Option String :=
  match settings.reverse.lookup option with
  | some value => some value
  | none => (option.environmentName?.bind fun name => environment.lookup name).filter (!·.isEmpty)

/-- The decimal digits that a text writes, with single underscores between them. -/
def decimalDigits? : List Char → Option (List Nat)
  | [] => none
  | [c] => (Text.decimalDigit? c).map ([·])
  | c :: '_' :: rest => do
    let digit ← Text.decimalDigit? c
    return digit :: (← decimalDigits? rest)
  | c :: rest => do
    let digit ← Text.decimalDigit? c
    return digit :: (← decimalDigits? rest)

/-- The most digits that are read as an integer. -/
def maxDigits : Nat := 4300

/-- The integer that a text writes, with a sign and blanks around it. -/
def integer? (written : String) : Option Int := do
  let (isNegative, cs) := match (Text.trim written).toList with
    | '-' :: rest => (true, rest)
    | '+' :: rest => (false, rest)
    | cs => (false, cs)
  let digits ← decimalDigits? cs
  guard (digits.length ≤ maxDigits)
  let n : Nat := digits.foldl (fun n digit => 10 * n + digit) 0
  return if isNegative then -n else n

/-- The header level that a text asks for. -/
def readHeaderLevel (written : String) : Except UsageError Nat :=
  match integer? written with
  | none => .error (.noInteger written)
  | some n => if 1 ≤ n ∧ n ≤ 6 then .ok n.toNat else .error (.outOfRange n)

/-- The format that a text names, in letters of any case; the long s is a form of the letter s. -/
def readFormat (written : String) : Except UsageError ReportFormat :=
  let name := (Text.lower written).map fun c => if c = 'ſ' then 's' else c
  if name == "markdown" then .ok .markdown
  else if name == "json" then .ok .json
  else .error (.unknownFormat written)

/-- Refuses a path with a null character. -/
def checkPath (path : String) : Except UsageError Unit :=
  if path.toList.contains '\x00' then .error (.noPath path) else .ok ()

/-- The options with the value of one more, which is none if it is given nowhere. -/
def Options.take (d : Disk) (o : Options) (option : OptionName) (value : Option String) :
    Except UsageError Options :=
  match option, value with
  | .directory, some path => do
    checkPath path
    if d.isFile path then throw (.isFile path)
    return { o with directory := path }
  | .request, some text => .ok { o with request := text }
  | .request, none => .error (.missing .request)
  | .outputFile, some file => .ok { o with outputFile := if file.isEmpty then none else some file }
  | .headerLevel, some written => (readHeaderLevel written).map fun headerLevel =>
    { o with headerLevel }
  | .schemaFile, some path => do
    checkPath path
    if d.isDirectory path then throw (.isDirectory path)
    return { o with schemaFile := if path.isEmpty then none else some path }
  | .binary, some binary => .ok { o with binary }
  | .format, some written => (readFormat written).map fun format => { o with format }
  -- These say nothing by their values.
  | .verbose, _ | .noColor, _ | .help, _ => .ok o
  | _, none => .ok o

/-- The options in the order in which their values are looked at: those of the command line as they
first stand there, and then the others. -/
def optionOrder (settings : List (OptionName × String)) : List OptionName :=
  (settings.map (·.1) ++ OptionName.all).eraseDups

/-- What the options ask for. -/
def Options.ofSettings (environment : List (String × String)) (d : Disk)
    (settings : List (OptionName × String)) : Except UsageError Options :=
  (optionOrder settings).foldlM
    (fun o option => o.take d option (valueOf environment settings option))
    { request := "", verbose := settings.any (·.1 == .verbose) }

/-- What the arguments of the command that makes reports ask for. -/
def Invocation.ofArguments (environment : List (String × String)) (d : Disk)
    (arguments : List String) : Except UsageError Invocation := do
  let (settings, others) ← readArguments arguments
  -- Help is given before any value is looked at.
  if settings.any (·.1 == .help) then return .help
  let o ← Options.ofSettings environment d settings
  match others with
  | [] => return .generate o
  | written :: _ => throw (.argument written)

/-- What a command line asks for. -/
def Invocation.parse (environment : List (String × String)) (d : Disk) :
    List String → Except UsageError Invocation
  | [] => .error .noCommand
  | first :: rest =>
    if first == "--" then
      -- Behind the dashes the name of a command is looked for, though an option may still come
      -- first.
      match rest with
      | [] => .error .noCommand
      | command :: arguments =>
        if isOption command && command != "--" then options command arguments
        else run command arguments
    else if isOption first then options first rest
    else run first rest
where
  /-- What the arguments behind the name of a command ask for. -/
  run (command : String) (arguments : List String) : Except UsageError Invocation :=
    if command == "generate" then Invocation.ofArguments environment d arguments
    else .error (.unknownCommand command)
  /-- What options in front of a command ask for. -/
  options (first : String) (rest : List String) : Except UsageError Invocation :=
    let given := (first :: rest).takeWhile fun o => isOption o && o != "--"
    match given.find? (!isKnown ·) with
    | some written => .error (.unknownOption written)
    | none => .ok (if first == "--version" then .version else .help)
  /-- Whether an option may stand in front of a command. -/
  isKnown (written : String) : Bool :=
    written == "--version" || written == "--help" || isHelpLetters written
  /-- Whether an argument asks for help by a letter. -/
  isHelpLetters (written : String) : Bool :=
    match written.toList with
    | '-' :: letters => !letters.isEmpty && letters.all (· == 'h')
    | _ => false

end ResourceTables.Command
