import ResourceTables.Config.Error
import ResourceTables.Config.Json
import ResourceTables.Eval.Value
import ResourceTables.Json.Quoted
import ResourceTables.Proofs.Encodings.NativeTexts
import ResourceTables.Proofs.Encodings.Numerals

/-!
# Declarations in both notations

Resource declarations whose arguments are constants can be written in the native notation and in
JSON. This module says how; that both are read alike is the subject of the modules that build on it.

* `Constant`, `Argument`, `Declaration`: what is declared, without a notation;
* `Native.encodeFile`, `Json.encodeFile`: the texts of configuration files that declare it. In a
  JSON file texts are templates, so `$\x7b` and `%\x7b` are doubled in them, but labels are not;
* `Drafted`: how a reader that keeps faults for later tells about numbers that are out of range.
-/

namespace ResourceTables

/-- A constant that an argument is set to. -/
inductive Constant where
  /-- A text. -/
  | text (s : String)
  /-- A number, as it is written. -/
  | number (n : Numeral)
  /-- A truth value. -/
  | bool (b : Bool)
  /-- The null value. -/
  | null

namespace Constant

/-- The value that the constant stands for. -/
def value : Constant → Value
  | text s => .string s
  | number n => .number n.decimal
  | bool b => .bool b
  | null => .null .dynamic

/-- Whether the constant is not a number out of range. -/
def withinLimits : Constant → Bool
  | number n => n.decimal.withinLimits
  | _ => true

end Constant

/-- An argument of a resource other than the one that names its provider. -/
structure Argument where
  /-- The argument's name. -/
  name : String
  /-- What it is set to. -/
  value : Constant
  /-- The name is not empty. -/
  name_ne_nil : name.toList ≠ []
  /-- The name is an identifier. -/
  identifier : Native.nameLength name.toList = name.toList.length
  /-- The name is not that of the argument for the provider. -/
  name_ne_provider : name ≠ "provider"

/-- A resource with constant arguments. -/
structure Declaration where
  /-- The resource type. -/
  type : String
  /-- The name in the configuration. -/
  name : String
  /-- The arguments in order; names may repeat. -/
  arguments : List Argument
  /-- The type does not mark a comment. -/
  type_ne_comment : type ≠ JsonPair.commentKey
  /-- The name does not mark a comment. -/
  name_ne_comment : name ≠ JsonPair.commentKey

namespace Declaration

/-- The key of the resource in its module. -/
def key (d : Declaration) : String :=
  d.type ++ "." ++ d.name

/-- Whether no argument is a number out of range. -/
def withinLimits (d : Declaration) : Bool :=
  d.arguments.all fun a => a.value.withinLimits

end Declaration

/-! ## Writing -/

/-- A truth value as both notations write it. -/
def encodeBool : Bool → List Char
  | true => ['t', 'r', 'u', 'e']
  | false => ['f', 'a', 'l', 's', 'e']

/-- The null value as both notations write it. -/
def encodeNull : List Char := ['n', 'u', 'l', 'l']

namespace Native

/-- A constant. -/
def encodeConstant : Constant → List Char
  | .text s => quoted s
  | .number n => n.chars
  | .bool b => encodeBool b
  | .null => encodeNull

/-- An argument on a line of its own. -/
def encodeArgument (a : Argument) : List Char :=
  ' ' :: ' ' :: (a.name.toList ++ ' ' :: '=' :: ' ' :: (encodeConstant a.value ++ ['\n']))

/-- A resource as a block with its type and its name as labels. -/
def encodeDeclaration (d : Declaration) : List Char :=
  ['r', 'e', 's', 'o', 'u', 'r', 'c', 'e', ' '] ++ (quoted d.type ++ ' ' :: (quoted d.name ++
    ' ' :: '\x7b' :: '\n' :: (d.arguments.flatMap encodeArgument ++ ['\x7d', '\n'])))

/-- A configuration file with a block for each resource. -/
def encodeFile (ds : List Declaration) : String :=
  String.ofList (ds.flatMap encodeDeclaration)

end Native

namespace Json

/-- Items with commas between them. -/
def separated : List (List Char) → List Char
  | [] => []
  | [item] => item
  | item :: items => item ++ ',' :: separated items

/-- An array of values. -/
def encodeArray (items : List (List Char)) : List Char :=
  '[' :: (separated items ++ [']'])

/-- A member of an object. -/
def encodeMember (key : String) (value : List Char) : List Char :=
  encode key ++ ':' :: value

/-- An object with the given members. -/
def encodeObject (members : List (List Char)) : List Char :=
  '\x7b' :: (separated members ++ ['\x7d'])

/-- A constant. A text is written as the template that stands for it. -/
def encodeConstant : Constant → List Char
  | .text s => encode (String.ofList (Native.doubled s.toList))
  | .number n => n.chars
  | .bool b => encodeBool b
  | .null => encodeNull

/-- A resource below its type and its name. -/
def encodeDeclaration (d : Declaration) : List Char :=
  encodeObject [encodeMember d.type (encodeObject [encodeMember d.name
    (encodeObject (d.arguments.map fun a => encodeMember a.name (encodeConstant a.value)))])]

/-- A configuration file with an array of the resources. -/
def encodeFile (ds : List Declaration) : String :=
  String.ofList (encodeObject [encodeMember "resource" (encodeArray (ds.map encodeDeclaration))])

end Json

/-! ## Drafts -/

/-- The draft gives something with the property `P` if `within` holds, and is a number out of range
otherwise. -/
inductive Drafted (within : Bool) (P : α → Prop) : Except ReadError α → Prop
  | ok {a : α} (hwithin : within = true) (h : P a) : Drafted within P (.ok a)
  | beyondLimits (hwithin : within = false) : Drafted within P (.error .beyondLimits)

namespace Drafted

variable {within : Bool} {P : α → Prop} {Q : β → Prop} {x : Except ReadError α}

theorem map {f : α → β} (h : Drafted within P x) (hf : ∀ a, P a → Q (f a)) :
    Drafted within Q (x.map f) := by
  cases h with
  | ok hwithin ha => exact .ok hwithin (hf _ ha)
  | beyondLimits hwithin => exact .beyondLimits hwithin

theorem mono {P' : α → Prop} (h : Drafted within P x) (himp : ∀ a, P a → P' a) :
    Drafted within P' x := by
  cases h with
  | ok hwithin ha => exact .ok hwithin (himp _ ha)
  | beyondLimits hwithin => exact .beyondLimits hwithin

/-- Drafts for the members of a list, taken together, are out of range where one of them is. -/
theorem mapM {within : α → Bool} {P : α → β → Prop} {as : List α} {xs : List (Except ReadError β)}
    (h : List.Forall₂ (fun a x => Drafted (within a) (P a) x) as xs) :
    Drafted (as.all within) (List.Forall₂ P as) (xs.mapM id) := by
  induction h with
  | nil => exact .ok rfl .nil
  | cons hx _ ih =>
    rw [List.mapM_cons, List.all_cons]
    cases hx with
    | beyondLimits hwithin =>
      rw [hwithin, Bool.false_and]
      exact .beyondLimits rfl
    | ok hwithin hb =>
      rw [hwithin, Bool.true_and]
      exact ih.map fun bs hbs => .cons hb hbs

end Drafted

end ResourceTables
