import ResourceTables.Disk.Basic
import ResourceTables.Json.DocumentReader
import ResourceTables.Provider.Address
import ResourceTables.Provider.Schema

/-!
# The schema registry

The schemas of all providers by address. Whatever way an address is written, it finds the same
schema; of several schemas for one address the last counts.
-/

namespace ResourceTables

/-- Why there is no registry. -/
inductive RegistryError where
  /-- The document is not an object. -/
  | noObject
  /-- The document cannot be read from its file, for a reason that is given in words. -/
  | unreadable (path reason : String)
  /-- The source of a provider is no address. -/
  | address (e : AddressError)
  /-- There is no schema for a provider. -/
  | unknown (a : ProviderAddress)
  /-- The document is not of the shape that schemas have. -/
  | malformed
  deriving DecidableEq, Repr, Inhabited

/-- The schemas of providers by address. -/
structure Registry where
  /-- Each address with its schema. -/
  providers : List (ProviderAddress × ProviderSchema) := []
  deriving Inhabited

namespace Registry

/-- How many providers there are. -/
def size (r : Registry) : Nat := r.providers.length

/-- The registry with the schema of one more address, or a new one for an address it has. -/
def set (r : Registry) (a : ProviderAddress) (schema : ProviderSchema) : Registry :=
  if r.providers.any (·.1 == a) then
    ⟨r.providers.map fun (b, old) => if b == a then (b, schema) else (b, old)⟩
  else ⟨r.providers ++ [(a, schema)]⟩

/-- The schema of an address. -/
def find? (r : Registry) (a : ProviderAddress) : Option ProviderSchema :=
  r.providers.lookup a

/-- The schema of the provider that a source names. -/
def lookup (r : Registry) (source : String) : Except RegistryError ProviderSchema := do
  let address ← (ProviderAddress.parse source).mapError .address
  match r.find? address with
  | some schema => return schema
  | none => throw (.unknown address)

/-- The registry with one more source and the document of its schema. -/
def add (r : Registry) (entry : String × Document) : Except RegistryError Registry := do
  let some schema := ProviderSchema.ofDocument? entry.2 | throw .malformed
  let address ← (ProviderAddress.parse entry.1).mapError .address
  return r.set address schema

/-- The registry of a list of sources and their schemas. -/
def ofEntries (entries : List (String × Document)) : Except RegistryError Registry :=
  entries.foldlM add {}

/-- The registry that a document lists. -/
def ofDocument (d : Document) : Except RegistryError Registry :=
  match d with
  | .object members =>
    match Document.membersAt? "provider_schemas" members with
    | some entries => ofEntries entries
    | none => .error .malformed
  | _ => .error .noObject

/-- The registry that the document in the file at a path lists. -/
def ofFile (d : Disk) (path : String) : Except RegistryError Registry := do
  let text ← (d.readText path).mapError (.unreadable path)
  match Document.ofText? text with
  | some document => ofDocument document
  | none => throw (.unreadable path "no document")

end Registry

end ResourceTables
