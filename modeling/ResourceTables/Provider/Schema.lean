import ResourceTables.Json.Document

/-!
# Provider schemas

What a provider declares about its resource types: their attributes, with the type of each. A
schema is read from the JSON document that lists it. Where the document leaves something out, or
has something empty in its place, nothing is declared; where it has something of another shape it
is refused.
-/

namespace ResourceTables

namespace Document

/-- Whether the document is null, false, zero or empty. -/
def isVoid : Document → Bool
  | null => true
  | bool b => !b
  | int n => n == 0
  | float (.finite _ significand _) => significand == 0
  | float _ => false
  | text s => s.isEmpty
  | array items => items.isEmpty
  | object members => members.isEmpty

/-- The members of an object; a void document counts as an object without members. Nothing when the
document is of another shape. -/
def members? (d : Document) : Option (List (String × Document)) :=
  if d.isVoid then some []
  else match d with
    | object members => some members
    | _ => none

/-- The members of the object that is a member of a document. -/
def membersAt? (name : String) (members : List (String × Document)) :
    Option (List (String × Document)) :=
  ((members.lookup name).getD .null).members?

end Document

/-- What a provider declares about an attribute. -/
structure AttributeSchema where
  /-- The type; where it is an object, its members are listed as pairs, sorted by name. -/
  kind : Document
  /-- Whether the provider can set the attribute. -/
  computed : Bool
  /-- Whether a configuration may set the attribute. -/
  optional : Bool
  /-- Whether a configuration must set the attribute. -/
  required : Bool
  deriving Inhabited

mutual

/-- The type with the members of its objects as sorted pairs. -/
def AttributeSchema.normalKind : Document → Document
  | .array items => .array (normalKinds items)
  | .object members =>
    .array ((normalMembers members).mergeSort (fun a b => a.1 ≤ b.1) |>.map
      fun (name, kind) => .array [.text name, kind])
  | d => d

/-- The types with the members of their objects as sorted pairs. -/
def AttributeSchema.normalKinds : List Document → List Document
  | [] => []
  | d :: rest => normalKind d :: normalKinds rest

/-- The named types with the members of their objects as sorted pairs. -/
def AttributeSchema.normalMembers : List (String × Document) → List (String × Document)
  | [] => []
  | (name, d) :: rest => (name, normalKind d) :: normalMembers rest

end

namespace AttributeSchema

/-- Whether values of the attribute's type have no parts. -/
def isPrimitive (a : AttributeSchema) : Bool :=
  match a.kind with
  | .text s => s == "string" || s == "number" || s == "bool"
  | _ => false

/-- Whether a flag is set among the members of a declaration. -/
def flag (name : String) (members : List (String × Document)) : Bool :=
  !((members.lookup name).getD .null).isVoid

/-- The attribute that the document declares. -/
def ofDocument? (d : Document) : Option AttributeSchema :=
  d.members?.map fun members =>
    let kind :=
      if (members.lookup "nested_type").isSome then .text "object"
      else normalKind ((members.lookup "type").getD (.text "dynamic"))
    ⟨kind, flag "computed" members, flag "optional" members, flag "required" members⟩

end AttributeSchema

/-- What a provider declares about a resource type. -/
structure ResourceSchema where
  /-- The attributes by name. -/
  attributes : List (String × AttributeSchema)
  deriving Inhabited

/-- Whether the attribute is declared. -/
def ResourceSchema.declares (s : ResourceSchema) (name : String) : Bool :=
  s.attributes.any (·.1 == name)

/-- The resource type that the document declares. -/
def ResourceSchema.ofDocument? (d : Document) : Option ResourceSchema := do
  let block ← Document.membersAt? "block" (← d.members?)
  let declared ← Document.membersAt? "attributes" block
  return ⟨← declared.mapM fun (name, a) => (AttributeSchema.ofDocument? a).map (name, ·)⟩

/-- What a provider declares. -/
structure ProviderSchema where
  /-- The resource types by name. -/
  resources : List (String × ResourceSchema)
  deriving Inhabited

namespace ProviderSchema

/-- The resource type of the given name. -/
def resource? (s : ProviderSchema) (type : String) : Option ResourceSchema :=
  s.resources.lookup type

/-- What the document declares. -/
def ofDocument? (d : Document) : Option ProviderSchema := do
  let declared ← Document.membersAt? "resource_schemas" (← d.members?)
  return ⟨← declared.mapM fun (type, r) => (ResourceSchema.ofDocument? r).map (type, ·)⟩

end ProviderSchema

end ResourceTables
