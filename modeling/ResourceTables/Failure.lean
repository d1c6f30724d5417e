import ResourceTables.Inventory.Resolve

/-!
# Failures

Everything that can go wrong, with the words in which it is reported and the resource and attribute
it concerns.
-/

namespace ResourceTables

/-- Why the request for tables is refused. -/
inductive RequestError where
  /-- The text is not the notation that requests are written in, for a reason in words. -/
  | malformed (reason : String)
  /-- The request is not a list. -/
  | noList
  /-- An entry is not a mapping. -/
  | noMapping (entry : Nat)
  /-- An entry has no name. -/
  | noName (entry : Nat)
  /-- The attributes of a resource type are not a list of names. -/
  | attributes (type : String)
  /-- Nothing is asked for. -/
  | nothing
  /-- No attributes are asked for. -/
  | noAttributes (type : String)
  /-- A scalar has a value that is beyond what its type can hold. -/
  | beyondLimits
  deriving DecidableEq, Repr, Inhabited

/-- The error in words. -/
def RequestError.message? : RequestError → Option String
  | malformed reason => some ("failed to parse resources: " ++ reason)
  | noList => some
      "failed to parse resources: expected a list of \x7bname, attributes\x7d entries"
  | noMapping entry =>
    some ("failed to parse resources: entry " ++ toString entry ++ " is not a mapping")
  | noName entry => some ("failed to parse resources: entry " ++ toString entry ++ " has no name")
  | attributes type =>
    some ("failed to parse resources: attributes of " ++ Text.quoted type ++
      " must be a list of names")
  | nothing => some "no resources defined"
  | noAttributes type => some ("No attributes defined for resource " ++ Text.quoted type)
  | beyondLimits => none

/-- Why the tool that prints schemas gives none. -/
inductive ToolError where
  /-- The tool is not there. -/
  | missing (binary : String)
  /-- The tool cannot be started, for a reason in words. -/
  | noStart (path reason : String)
  /-- The tool reports a failure. -/
  | failed (arguments : List String) (code : Int) (detail : String)
  /-- The tool prints something else than a document. -/
  | output (reason : String)
  deriving DecidableEq, Repr, Inhabited

/-- The error in words. -/
def ToolError.message : ToolError → String
  | missing binary => "terraform binary " ++ Text.quoted binary ++ " not found on PATH"
  | noStart path reason => "failed to run " ++ path ++ ": " ++ reason
  | failed arguments code detail =>
    " ".intercalate arguments ++ " exited with status " ++ toString code ++ ": " ++ detail
  | output reason => "providers schema printed invalid JSON: " ++ reason

/-- The error in words; nothing for a document that has not the shape of schemas. -/
def RegistryError.message? : RegistryError → Option String
  | noObject => some "provider schema document must be a JSON object"
  | unreadable path reason =>
    some ("failed to read provider schema file " ++ path ++ ": " ++ reason)
  | address e => some e.message
  | unknown a => some ("no schema for provider " ++ a.display)
  | malformed => none

/-- The error in words; nothing where a number is beyond what a number can be. -/
def CellError.message? : CellError → Option String
  | notSet => some "attribute is not set"
  | notDeclared => some "attribute is not declared by the provider schema"
  | invalid o cause => some (cause.messageAt o)
  | structured pos kind =>
    some (pos.text ++ ": attribute evaluates to a " ++ kind.text ++
      "; only string, number and bool values are supported")
  | null pos => some (pos.text ++ ": attribute evaluates to null")
  | beyondLimits => none

/-- The error in words. -/
def ResolveError.message? : ResolveError → Option String
  | read (.malformed e) => some e.message
  | read .beyondLimits => none
  | decodeFile e | decodeBlock e => some e.message
  | noBlock file => some ("no matching resource block in " ++ file)
  | noSource provider =>
    some ("provider " ++ Text.quoted provider ++ " has no source in required_providers")
  | address e => some e.message
  | noProvider a => (RegistryError.unknown a).message?
  | noType a =>
    some ("provider " ++ a.display ++ " has no schema for this resource type")
  | cell _ e => e.message?

/-- Whether the error is reported with the resource that it concerns. -/
def ResolveError.namesResource : ResolveError → Bool
  | read _ | decodeFile _ => false
  | _ => true

/-- The attribute that the error concerns. -/
def ResolveError.attribute? : ResolveError → Option String
  | cell name _ => some name
  | _ => none

/-- Everything that can go wrong. -/
inductive Failure where
  | request (e : RequestError)
  | tool (e : ToolError)
  | registry (e : RegistryError)
  | load (e : LoadError)
  | resolve (r : Resource) (e : ResolveError)
  deriving DecidableEq, Repr, Inhabited

namespace Failure

/-- The failure in words; nothing for one that is not a matter of the input's meaning, such as a
number beyond what a number can be. -/
def message? : Failure → Option String
  | request e => e.message?
  | tool e => some e.message
  | registry e => e.message?
  | load e => e.message?
  | resolve _ e => e.message?

/-- The resource that is named with the failure. -/
def resource? : Failure → Option Resource
  | resolve r e => if e.namesResource then some r else none
  | _ => none

/-- The attribute that is named with the failure. -/
def attribute? : Failure → Option String
  | resolve _ e => e.attribute?
  | _ => none

/-- The resource as it is named. -/
def resourceText (r : Resource) : String :=
  if r.type.isEmpty || r.name.isEmpty then r.type else r.key

/-- What is named with the failure. -/
def context (f : Failure) : List String :=
  let named := match f.resource? with
    | some r => if (resourceText r).isEmpty then [] else ["resource " ++ resourceText r]
    | none => []
  let asked := match f.attribute? with
    | some a => if a.isEmpty then [] else ["attribute " ++ Text.quoted a]
    | none => []
  named ++ asked

/-- The failure in words, with what it concerns. -/
def text? (f : Failure) : Option String :=
  f.message?.map fun message =>
    match f.context with
    | [] => message
    | context => message ++ " (" ++ ", ".intercalate context ++ ")"

end Failure

end ResourceTables
