import ResourceTables.Config.Pos

/-!
# Resources

What a module declares: its managed resources and the providers it requires.
-/

namespace ResourceTables

/-- A reference to a provider of the module. -/
structure ProviderRef where
  /-- The provider's local name. -/
  name : String
  /-- Which configuration of the provider is meant, if not the default one. -/
  tag : Option String := none
  deriving DecidableEq, Repr, Inhabited

/-- A managed resource. -/
structure Resource where
  /-- The resource type. -/
  type : String
  /-- The name in the configuration. -/
  name : String
  /-- The file that declares it. -/
  file : String
  /-- The line of its declaration. -/
  line : Nat
  /-- The provider it belongs to. -/
  provider : ProviderRef
  deriving DecidableEq, Repr, Inhabited

/-- The key of the resource in its module. -/
def Resource.key (r : Resource) : String :=
  r.type ++ "." ++ r.name

/-- A provider that a module requires. -/
structure RequiredProvider where
  /-- The source address; empty when only a version is required. -/
  source : String := ""
  /-- The version constraint. -/
  version : Option String := none
  deriving DecidableEq, Repr, Inhabited

/-- What the configuration files of a directory declare. -/
structure Module where
  /-- The directory. -/
  path : String
  /-- The managed resources in the order of their declarations. -/
  resources : List Resource
  /-- The required providers by local name, in the order of their declarations. -/
  required : List (String × RequiredProvider)
  deriving DecidableEq, Repr, Inhabited

namespace Module

/-- The resource of the given key. -/
def resource? (m : Module) (key : String) : Option Resource :=
  m.resources.find? (·.key == key)

/-- The resources of a type, by name. -/
def resourcesOfType (m : Module) (type : String) : List Resource :=
  (m.resources.filter (·.type == type)).mergeSort fun a b => a.name ≤ b.name

end Module

end ResourceTables
