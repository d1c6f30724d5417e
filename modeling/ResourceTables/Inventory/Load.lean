import ResourceTables.Config.Content
import ResourceTables.Eval.Evaluate
import ResourceTables.Inventory.ParseCache
import ResourceTables.Inventory.Resource
import ResourceTables.Native.Lexer

/-!
# Loading modules

A module is read from the configuration files of one directory in the order of their names. Its
resource blocks give the resources, and the provider requirements in its `terraform` blocks give the
required providers; all other blocks are passed over.
-/

namespace ResourceTables

/-- Why a module cannot be loaded. -/
inductive LoadError where
  /-- The directory is not there. -/
  | noDirectory (path : String)
  /-- A file cannot be read or parsed. -/
  | read (e : ReadError)
  /-- A body does not fit its schema. -/
  | decode (e : DecodeError)
  /-- An expression is invalid. -/
  | invalid (o : Origin) (cause : EvalCause)
  /-- A resource is declared twice. -/
  | duplicateResource (pos : Pos) (key : String) (file : String) (line : Nat)
  /-- An argument that should name a provider does not. -/
  | providerReference (pos : Pos) (source : String)
  /-- A provider is required twice. -/
  | duplicateProvider (pos : Pos) (name : String)
  /-- A requirement is neither a version nor an object. -/
  | requirement (pos : Pos) (name : String)
  /-- A field of a requirement is no text. -/
  | requirementField (pos : Pos) (field name : String)
  deriving DecidableEq, Repr, Inhabited

/-- The error in words; nothing for the errors that `ReadError` words itself. -/
def LoadError.message? : LoadError → Option String
  | noDirectory path => some ("configuration directory not found: " ++ path)
  | read (.malformed e) => some e.message
  | read .beyondLimits => none
  | decode e => some e.message
  | invalid o cause => some (cause.messageAt o)
  | duplicateResource pos key file line =>
    some (pos.text ++ ": duplicate resource " ++ key ++ "; it was already declared at " ++ file ++
      ":" ++ toString line)
  | providerReference pos source =>
    some (pos.text ++ ": invalid provider reference " ++ Text.quoted source ++
      "; expected a provider local name, optionally followed by an alias")
  | duplicateProvider pos name =>
    some (pos.text ++ ": duplicate required provider " ++ Text.quoted name)
  | requirement pos name =>
    some (pos.text ++ ": invalid required_providers entry " ++ Text.quoted name ++
      "; expected an object with a source and version")
  | requirementField pos field name =>
    some (pos.text ++ ": " ++ field ++ " of required provider " ++ Text.quoted name ++
      " must be a string")

namespace LoadError

/-- What goes wrong when a body is decoded. -/
def ofContent : ContentError → LoadError
  | .decode e => .decode e
  | .read e => .read e

/-- What goes wrong when an expression is evaluated. -/
def ofEval : EvalError → LoadError
  | .invalid o cause => .invalid o cause
  | .beyondLimits => .read .beyondLimits

end LoadError

namespace Module

/-- The blocks at the top level of a module. -/
def schema : BodySchema where
  blocks := [
    ⟨"resource", ["type", "name"]⟩, ⟨"data", ["type", "name"]⟩, ⟨"module", ["name"]⟩,
    ⟨"provider", ["name"]⟩, ⟨"variable", ["name"]⟩, ⟨"output", ["name"]⟩, ⟨"locals", []⟩,
    ⟨"terraform", []⟩, ⟨"moved", []⟩, ⟨"import", []⟩, ⟨"check", ["name"]⟩, ⟨"removed", []⟩]

/-- The argument of a resource that names its provider. -/
def metaSchema : BodySchema := ⟨["provider"], []⟩

/-- The blocks with provider requirements. -/
def requirementsSchema : BodySchema := ⟨[], [⟨"required_providers", []⟩]⟩

/-- The provider that the type of a resource stands for: what stands before the first underscore. -/
def impliedProvider (type : String) : String :=
  String.ofList (type.toList.takeWhile (· != '_'))

/-- Whether the text is an identifier. One newline may follow. -/
def isIdentifier (cs : List Char) : Bool :=
  let n := Native.nameLength cs
  n != 0 && (cs.length == n || cs.drop n == ['\n'])

/-- The provider that a text names: a local name, perhaps with a point and a tag behind it. -/
def providerOfText? (s : String) : Option ProviderRef :=
  let name := s.toList.takeWhile (· != '.')
  let tag := (s.toList.dropWhile (· != '.')).drop 1
  if isIdentifier name && (tag.isEmpty || isIdentifier tag) then
    some ⟨String.ofList name, if tag.isEmpty then none else some (String.ofList tag)⟩
  else none

/-- The provider that an expression names: a name, a name with an attribute, or a plain text that
writes one of these. -/
def providerOfExpr? : Expr → Option ProviderRef
  | .variable _ name => some ⟨name, none⟩
  | .getAttr _ (.variable _ name) tag => some ⟨name, some tag⟩
  | .template _ parts => (Part.literal? parts).bind providerOfText?
  | _ => none

/-- The provider that a resource's argument names. -/
def providerOf (a : Attribute) : Except LoadError ProviderRef :=
  match providerOfExpr? a.expr with
  | some ref => .ok ref
  | none => .error (.providerReference a.pos a.expr.source)

/-- The resource that a block declares. -/
def resourceOf (b : Block) : Except LoadError Resource := do
  let content ← (b.body.partialContent metaSchema).mapError .ofContent
  let type := b.labels.headD ""
  let provider ← match content.attribute? "provider" with
    | some a => providerOf a
    | none => pure ⟨impliedProvider type, none⟩
  return ⟨type, (b.labels.drop 1).headD "", b.pos.file, b.pos.line, provider⟩

/-- A field of a requirement: a text, or nothing when it is missing or null. -/
def requirementField (a : Attribute) (field : String) (fields : Fields Value) :
    Except LoadError (Option String) :=
  match Fields.get? field fields with
  | none | some (.null _) => .ok none
  | some (.string s) => .ok (some s)
  | some _ => .error (.requirementField a.pos field a.name)

/-- The provider that an argument requires: a version alone, or an object with a source and a
version. -/
def requirementOf (a : Attribute) : Except LoadError RequiredProvider := do
  let v ← (a.expr.evaluate Scope.empty).mapError .ofEval
  match v with
  | .string version => return ⟨"", some version⟩
  | .object fields =>
    if !v.whollyKnown then throw (.requirement a.pos a.name)
    let source ← requirementField a "source" fields
    let version ← requirementField a "version" fields
    return ⟨source.getD "", version⟩
  | _ => throw (.requirement a.pos a.name)

/-- The module with one more resource. -/
def addResource (m : Module) (b : Block) : Except LoadError Module := do
  let r ← resourceOf b
  match m.resource? r.key with
  | some first => throw (.duplicateResource b.pos r.key first.file first.line)
  | none => return { m with resources := m.resources ++ [r] }

/-- The module with one more required provider. -/
def addRequirement (m : Module) (a : Attribute) : Except LoadError Module := do
  if (m.required.lookup a.name).isSome then throw (.duplicateProvider a.pos a.name)
  return { m with required := m.required ++ [(a.name, ← requirementOf a)] }

/-- The module with the requirements of one more block. -/
def addRequirements (m : Module) (b : Block) : Except LoadError Module := do
  (← b.body.justAttributes.mapError .ofContent).foldlM addRequirement m

/-- The module with what one more `terraform` block requires. -/
def addSettings (m : Module) (b : Block) : Except LoadError Module := do
  let content ← (b.body.partialContent requirementsSchema).mapError .ofContent
  (content.blocksOfType "required_providers").foldlM addRequirements m

/-- The module with what the body of one more file declares. -/
def addFile (m : Module) (body : Body) : Except LoadError Module := do
  let content ← (body.partialContent schema).mapError .ofContent
  let m ← (content.blocksOfType "resource").foldlM addResource m
  (content.blocksOfType "terraform").foldlM addSettings m

/-- The configuration files of a directory in the order of their names. Files that override others
are not among them. -/
def configFiles (d : Disk) (directory : String) : List String :=
  let names := (d.names directory).mergeSort fun a b => a ≤ b
  (names.filter fun name =>
    FileName.isConfig name && !FileName.isOverride name &&
      d.isFile (Path.join directory name)).map (Path.join directory)

/-- The module of a directory, where `fetch` gives the bodies of its files from the state that it
keeps. -/
def loadWith (fetch : σ → String → Except ReadError (Body × σ)) (s : σ) (d : Disk)
    (directory : String) : Except LoadError (Module × σ) := do
  if !d.isDirectory directory then throw (.noDirectory directory)
  (configFiles d directory).foldlM (fun (m, s) path => do
    let (body, s) ← (fetch s path).mapError .read
    return (← m.addFile body, s)) (⟨directory, [], []⟩, s)

/-- The module of a directory. -/
def load (d : Disk) (directory : String) : Except LoadError Module :=
  (loadWith (fun s path => (d.readConfig path).map (·, s)) () d directory).map (·.1)

/-- The module of a directory, and the cache with the files that were read. -/
def loadCached (c : ParseCache) (d : Disk) (directory : String) :
    Except LoadError (Module × ParseCache) :=
  loadWith (fun c path => c.get d path) c d directory

end Module

end ResourceTables
