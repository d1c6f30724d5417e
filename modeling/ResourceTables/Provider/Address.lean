import ResourceTables.Text.Blank
import ResourceTables.Text.Digit
import ResourceTables.Text.Lower
import ResourceTables.Text.Quoted

/-!
# Provider addresses

The source of a provider, written `type`, `namespace/type` or `hostname/namespace/type`. Parts that
are left out get the public registry and its default namespace, and case and surrounding blanks do
not matter, so that every way of writing an address gives the same one.
-/

namespace ResourceTables

/-- The address of a provider. -/
structure ProviderAddress where
  /-- The host of the registry. -/
  hostname : String
  /-- The namespace in the registry: who publishes the provider. -/
  owner : String
  /-- The provider's type. -/
  type : String
  deriving DecidableEq, Repr, Inhabited

/-- What the parts of an address are called. -/
inductive AddressPart where
  | owner | type
  deriving DecidableEq, Repr, Inhabited

/-- The part as messages name it. -/
def AddressPart.text : AddressPart → String
  | owner => "namespace"
  | type => "type"

/-- Why a text is no address. -/
inductive AddressCause where
  /-- There is nothing but blanks. -/
  | empty
  /-- There are more than three parts. -/
  | tooManyParts
  /-- A part is empty. -/
  | emptyPart
  /-- The port is no number. -/
  | port (port : String)
  /-- The host is no host name. -/
  | hostname (host : String)
  /-- A part has characters it may not have. -/
  | part (which : AddressPart) (written : String)
  /-- The type repeats what every provider's repository is called. -/
  | repositoryName (owner suggestion : String)
  deriving DecidableEq, Repr, Inhabited

/-- A text is no address. -/
structure AddressError where
  /-- The text. -/
  source : String
  /-- What is wrong with it. -/
  cause : AddressCause
  deriving DecidableEq, Repr, Inhabited

/-- The error in words. -/
def AddressError.message (e : AddressError) : String :=
  let start := "invalid provider source " ++ Text.quoted e.source ++ ": "
  match e.cause with
  | .empty => "a provider source address must not be empty"
  | .tooManyParts =>
    start ++ "expected at most three parts separated by slashes (hostname/namespace/type)"
  | .emptyPart => start ++ "empty address part"
  | .port port => start ++ "invalid port " ++ Text.quoted port
  | .hostname host => start ++ "invalid hostname " ++ Text.quoted host
  | .part which written =>
    start ++ "invalid provider " ++ which.text ++ " " ++ Text.quoted written ++
      "; must contain only letters, digits and dashes, and may not start or end with a dash"
  | .repositoryName owner suggestion =>
    start ++ "provider type must not include the 'terraform-provider-' prefix; did you mean " ++
      owner ++ "/" ++ suggestion ++ "?"

namespace ProviderAddress

/-- The registry that is meant when no host is written. -/
def defaultHostname : String := "registry.terraform.io"

/-- The namespace that is meant when none is written. -/
def defaultNamespace : String := "hashicorp"

/-- The address with all its parts. -/
def full (a : ProviderAddress) : String :=
  a.hostname ++ "/" ++ a.owner ++ "/" ++ a.type

/-- The address as messages show it: without the host of the public registry. -/
def display (a : ProviderAddress) : String :=
  if a.hostname = defaultHostname then a.owner ++ "/" ++ a.type else a.full

/-- The pieces of a text between the characters `sep`. -/
def splitAt (sep : Char) : List Char → List (List Char)
  | [] => [[]]
  | c :: rest =>
    if c = sep then [] :: splitAt sep rest
    else match splitAt sep rest with
      | piece :: pieces => (c :: piece) :: pieces
      | [] => [[c]]

/-- Digits and small letters of ASCII. -/
def isAlphaNum (c : Char) : Bool :=
  ('0' ≤ c && c ≤ '9') || ('a' ≤ c && c ≤ 'z')

/-- Whether the text has at most `limit` characters, all of them alphanumeric or in `inner`, with an
alphanumeric one at both ends. One newline may follow. -/
def isWord (limit : Nat) (inner : List Char) (cs : List Char) : Bool :=
  let cs := if cs.getLast? = some '\n' then cs.dropLast else cs
  cs.length ≤ limit && cs.head?.any isAlphaNum && cs.getLast?.any isAlphaNum &&
    cs.all fun c => isAlphaNum c || inner.contains c

/-- The host of an address, in lower case: labels with points between them, perhaps with a port. -/
def parseHostname (written : List Char) : Except AddressCause String :=
  let lower := Text.lower (String.ofList written)
  let host := lower.toList.takeWhile (· != ':')
  let port := String.ofList ((lower.toList.dropWhile (· != ':')).drop 1)
  if !port.isEmpty && !Text.isNumeral port then .error (.port port)
  else if host.isEmpty || !(splitAt '.' host).all (isWord 63 ['-']) then
    .error (.hostname (String.ofList written))
  else .ok lower

/-- A part of an address, in lower case. -/
def parsePart (which : AddressPart) (written : List Char) : Except AddressCause String :=
  let lower := Text.lower (String.ofList written)
  if isWord 64 ['_', '-'] lower.toList then .ok lower
  else .error (.part which (String.ofList written))

/-- What the repositories of providers are called before their type. -/
def repositoryPrefix : String := "terraform-provider-"

/-- The address made of the given parts, of which the first two may be missing. -/
def ofParts (hostname owner : Option (List Char)) (type : List Char) :
    Except AddressCause ProviderAddress := do
  let hostname ← match hostname with
    | some written => parseHostname written
    | none => pure defaultHostname
  let owner ← match owner with
    | some written => parsePart .owner written
    | none => pure defaultNamespace
  let type ← parsePart .type type
  if repositoryPrefix.toList.isPrefixOf type.toList then
    let suggestion := String.ofList (type.toList.drop repositoryPrefix.length)
    throw (.repositoryName owner suggestion)
  return ⟨hostname, owner, type⟩

/-- The address that the text writes. -/
def parse (source : String) : Except AddressError ProviderAddress :=
  let fail (cause : AddressCause) : AddressError := ⟨source, cause⟩
  let written := (Text.trim source).toList
  let parts := splitAt '/' written
  if written.isEmpty then .error (fail .empty)
  else if 3 < parts.length then .error (fail .tooManyParts)
  else if parts.any List.isEmpty then .error (fail .emptyPart)
  else
    (match parts with
      | [type] => ofParts none none type
      | [owner, type] => ofParts none (some owner) type
      | hostname :: owner :: type :: _ => ofParts (some hostname) (some owner) type
      | [] => .error .empty).mapError fail

end ProviderAddress

end ResourceTables
