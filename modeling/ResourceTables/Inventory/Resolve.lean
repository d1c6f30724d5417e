import ResourceTables.Inventory.Load
import ResourceTables.Provider.Registry
import ResourceTables.Table.Cell

/-!
# Resolving attributes

The cells of a resource. Its block is found in the file that declares it, the provider's schema
says which arguments of the block are attributes, and each attribute that is asked for is evaluated
with nothing in scope. The first attribute that has no cell fails the whole resource.
-/

namespace ResourceTables

/-- Why an attribute has no cell. -/
inductive CellError where
  /-- The schema declares the attribute but the block does not set it. -/
  | notSet
  /-- The schema does not declare the attribute. -/
  | notDeclared
  /-- The expression is invalid. -/
  | invalid (o : Origin) (cause : EvalCause)
  /-- The value has parts. -/
  | structured (pos : Pos) (kind : ValueKind)
  /-- The value is null. -/
  | null (pos : Pos)
  /-- A number is beyond what a number can be. -/
  | beyondLimits
  deriving DecidableEq, Repr, Inhabited

/-- Why the attributes of a resource cannot be resolved. -/
inductive ResolveError where
  /-- The file of the resource cannot be read. -/
  | read (e : ReadError)
  /-- The file's body does not fit the schema of a module. -/
  | decodeFile (e : DecodeError)
  /-- The file does not declare the resource. -/
  | noBlock (file : String)
  /-- The module does not say where the provider comes from. -/
  | noSource (provider : String)
  /-- The source of the provider is no address. -/
  | address (e : AddressError)
  /-- The registry does not know the provider. -/
  | noProvider (address : ProviderAddress)
  /-- The provider does not declare the resource type. -/
  | noType (address : ProviderAddress)
  /-- The block does not fit the provider's schema. -/
  | decodeBlock (e : DecodeError)
  /-- An attribute has no cell. -/
  | cell (name : String) (e : CellError)
  deriving DecidableEq, Repr, Inhabited

namespace Resource

/-- The block in a body that declares the resource. -/
def blockIn (r : Resource) (body : Body) : Except ResolveError Block := do
  match body.partialContent Module.schema with
  | .error (.decode e) => throw (.decodeFile e)
  | .error (.read e) => throw (.read e)
  | .ok content =>
    match (content.blocksOfType "resource").find? (·.labels == [r.type, r.name]) with
    | some b => return b
    | none => throw (.noBlock r.file)

/-- The block that declares the resource, read through a cache. -/
def locate (r : Resource) (c : ParseCache) (d : Disk) :
    Except ResolveError Block × ParseCache :=
  match c.get d r.file with
  | .ok (body, c) => (r.blockIn body, c)
  | .error e => (.error (.read e), c)

/-- The address of the resource's provider. -/
def providerAddress (r : Resource) (required : List (String × RequiredProvider)) :
    Except ResolveError ProviderAddress :=
  match required.lookup r.provider.name with
  | none => .error (.noSource r.provider.name)
  | some p =>
    if p.source.isEmpty then .error (.noSource r.provider.name)
    else (ProviderAddress.parse p.source).mapError .address

/-- The schema of the resource's type. -/
def typeSchema (r : Resource) (registry : Registry) (required : List (String × RequiredProvider)) :
    Except ResolveError ResourceSchema := do
  let address ← r.providerAddress required
  match registry.find? address with
  | none => throw (.noProvider address)
  | some provider =>
    match provider.resource? r.type with
    | some schema => return schema
    | none => throw (.noType address)

/-- The cell of a value. -/
def cellOf (a : Attribute) (v : Value) : Except CellError Cell :=
  match v.kind with
  | .tuple => .error (.structured a.pos .tuple)
  | .object => .error (.structured a.pos .object)
  | _ =>
    match v with
    | .unknown _ => .ok (.unknown (some a.expr.source))
    | .null _ => .error (.null a.pos)
    | .string s => .ok (.string s)
    | .number d => .ok (.number (.ofDecimal d))
    | .bool b => .ok (.bool b)
    | .tuple _ => .error (.structured a.pos .tuple)
    | .object _ => .error (.structured a.pos .object)

/-- The cell of the attribute of the given name among a block's arguments. -/
def resolveCell (schema : ResourceSchema) (content : Content) (name : String) :
    Except ResolveError Cell :=
  match content.attribute? name with
  | none => .error (.cell name (if schema.declares name then .notSet else .notDeclared))
  | some a =>
    match a.expr.evaluate Scope.empty with
    | .error (.invalid o cause) => .error (.cell name (.invalid o cause))
    | .error .beyondLimits => .error (.cell name .beyondLimits)
    | .ok v => (cellOf a v).mapError (.cell name)

/-- The pairs with one more; a name that is there already keeps its place and gets the new cell. -/
def setCell (cells : List (String × Cell)) (name : String) (cell : Cell) :
    List (String × Cell) :=
  if cells.any (·.1 == name) then cells.map fun (n, old) => (n, if n == name then cell else old)
  else cells ++ [(name, cell)]

/-- The cells of the attributes that are asked for, in that order. -/
def resolve (r : Resource) (b : Block) (names : List String) (registry : Registry)
    (required : List (String × RequiredProvider)) : Except ResolveError (List (String × Cell)) := do
  let schema ← r.typeSchema registry required
  let wanted : BodySchema := ⟨schema.attributes.map (·.1), []⟩
  match b.body.partialContent wanted with
  | .error (.decode e) => throw (.decodeBlock e)
  | .error (.read e) => throw (.read e)
  | .ok content =>
    names.foldlM (fun cells name => do
      return setCell cells name (← resolveCell schema content name)) []

end Resource

/-- A loaded module with everything that is needed to answer questions about its resources. -/
structure Inventory where
  /-- The provider schemas. -/
  registry : Registry
  /-- The module. -/
  module : Module
  /-- The files that were parsed. -/
  cache : ParseCache
  deriving Inhabited

namespace Inventory

/-- The inventory of a directory. -/
def load (d : Disk) (registry : Registry) (directory : String) : Except LoadError Inventory :=
  (Module.loadCached {} d directory).map fun (m, c) => ⟨registry, m, c⟩

/-- The block that declares a resource. -/
def block (i : Inventory) (d : Disk) (r : Resource) : Except ResolveError Block × Inventory :=
  let (result, c) := r.locate i.cache d
  (result, { i with cache := c })

/-- The cells of a resource. -/
def cells (i : Inventory) (d : Disk) (r : Resource) (names : List String) :
    Except ResolveError (List (String × Cell)) × Inventory :=
  match i.block d r with
  | (.ok b, i) => (r.resolve b names i.registry i.module.required, i)
  | (.error e, i) => (.error e, i)

/-- The row of a resource. -/
def row (i : Inventory) (d : Disk) (r : Resource) (names : List String) :
    Except (Resource × ResolveError) Row × Inventory :=
  match i.cells d r names with
  | (.ok cells, i) => (.ok ⟨r.name, r.file, r.line, cells⟩, i)
  | (.error e, i) => (.error (r, e), i)

/-- The rows of some resources, or the error of the first one that fails. -/
def rowsOf (d : Disk) (names : List String) :
    Inventory → List Resource → Except (Resource × ResolveError) (List Row) × Inventory
  | i, [] => (.ok [], i)
  | i, r :: rest =>
    match i.row d r names with
    | (.error e, i) => (.error e, i)
    | (.ok row, i) =>
      match rowsOf d names i rest with
      | (.error e, i) => (.error e, i)
      | (.ok rows, i) => (.ok (row :: rows), i)

/-- The rows of all resources of a type, by name. -/
def rows (d : Disk) (i : Inventory) (type : String) (names : List String) :
    Except (Resource × ResolveError) (List Row) × Inventory :=
  rowsOf d names i (i.module.resourcesOfType type)

/-- The tables that are asked for up to the first one that fails, and the resource that fails with
its error. -/
def tables (d : Disk) :
    Inventory → List TableRequest → List Table × Option (Resource × ResolveError) × Inventory
  | i, [] => ([], none, i)
  | i, q :: rest =>
    match rows d i q.type q.attributes with
    | (.error e, i) => ([], some e, i)
    | (.ok rows, i) =>
      let (more, failure, i) := tables d i rest
      (⟨q, rows⟩ :: more, failure, i)

end Inventory

end ResourceTables
