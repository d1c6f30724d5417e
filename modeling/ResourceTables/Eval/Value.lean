import ResourceTables.Decimal.Notation

/-!
# Values

What expressions evaluate to. A value can be unknown, when it depends on a name without a binding;
of an unknown value at most the kind is known. The fields of an object are kept sorted by name.
-/

namespace ResourceTables

/-- The kinds of values; a value of the dynamic kind may turn out to be of any. -/
inductive ValueKind where
  | string | number | bool | tuple | object | dynamic
  deriving DecidableEq, Repr, Inhabited

namespace ValueKind

/-- The kind as messages name it. -/
def text : ValueKind → String
  | string => "string"
  | number => "number"
  | bool => "bool"
  | tuple => "tuple"
  | object => "object"
  | dynamic => "dynamic"

/-- Whether values of the kind have no parts. -/
def isPrimitive : ValueKind → Bool
  | string | number | bool => true
  | _ => false

end ValueKind

/-- A value. -/
inductive Value where
  /-- A value that is not known, of the given kind. -/
  | unknown (kind : ValueKind)
  /-- The null value of the given kind. -/
  | null (kind : ValueKind)
  /-- A text. -/
  | string (s : String)
  /-- A number. -/
  | number (d : Decimal)
  /-- A truth value. -/
  | bool (b : Bool)
  /-- A list of values. -/
  | tuple (items : List Value)
  /-- Named values, sorted by name. -/
  | object (fields : List (String × Value))

namespace Value

instance : Inhabited Value := ⟨.null .dynamic⟩

/-- The kind of the value. -/
def kind : Value → ValueKind
  | unknown k | null k => k
  | string _ => .string
  | number _ => .number
  | bool _ => .bool
  | tuple _ => .tuple
  | object _ => .object

/-- Whether the value is known; its parts need not be. -/
def isKnown : Value → Bool
  | unknown _ => false
  | _ => true

/-- Whether the value is null. -/
def isNull : Value → Bool
  | null _ => true
  | _ => false

mutual

/-- Whether the value and all its parts are known. -/
def whollyKnown : Value → Bool
  | unknown _ => false
  | tuple items => allWhollyKnown items
  | object fields => fieldsWhollyKnown fields
  | _ => true

/-- Whether all the values are wholly known. -/
def allWhollyKnown : List Value → Bool
  | [] => true
  | v :: rest => whollyKnown v && allWhollyKnown rest

/-- Whether all the fields are wholly known. -/
def fieldsWhollyKnown : List (String × Value) → Bool
  | [] => true
  | (_, v) :: rest => whollyKnown v && fieldsWhollyKnown rest

end

mutual

/-- Whether two values are equal: numbers by what they are, tuples and objects part by part, and
nulls of all kinds with each other. -/
def equals : Value → Value → Bool
  | null _, null _ => true
  | string a, string b => a == b
  | number a, number b => a.sameAs b
  | bool a, bool b => a == b
  | tuple a, tuple b => allEqual a b
  | object a, object b => fieldsEqual a b
  | _, _ => false

/-- Whether two lists are equal value by value. -/
def allEqual : List Value → List Value → Bool
  | [], [] => true
  | a :: as, b :: bs => equals a b && allEqual as bs
  | _, _ => false

/-- Whether two lists of fields are equal in names and values. -/
def fieldsEqual : List (String × Value) → List (String × Value) → Bool
  | [], [] => true
  | (k, a) :: as, (l, b) :: bs => k == l && equals a b && fieldsEqual as bs
  | _, _ => false

end

end Value

/-- Named things, sorted by name. -/
abbrev Fields (α : Type) := List (String × α)

namespace Fields

/-- The thing of the given name. -/
def get? (name : String) : Fields α → Option α
  | [] => none
  | (k, v) :: rest => if name = k then some v else get? name rest

/-- The things with what `f` makes of the one of the given name, put in its place if it is new. -/
def alter (f : Option α → α) (name : String) : Fields α → Fields α
  | [] => [(name, f none)]
  | (k, v) :: rest =>
    if name = k then (k, f (some v)) :: rest
    else if name < k then (name, f none) :: (k, v) :: rest
    else (k, v) :: alter f name rest

/-- The things with one more, which replaces one of the same name. -/
def set (name : String) (v : α) (fields : Fields α) : Fields α :=
  alter (fun _ => v) name fields

/-- The sorted fields of a list of pairs, of which the last of one name counts. -/
def ofList (pairs : List (String × α)) : Fields α :=
  pairs.foldl (fun fields (k, v) => set k v fields) []

end Fields

/-- What names stand for. A name without a binding is unknown. -/
abbrev Scope := String → Option Value

namespace Scope

/-- No name has a binding. -/
def empty : Scope := fun _ => none

/-- The scope with one more binding, which hides one of the same name. -/
def bind (s : Scope) (name : String) (v : Value) : Scope :=
  fun n => if n = name then some v else s n

/-- The bindings of a list, of which the last of one name counts. -/
def ofList (bindings : List (String × Value)) : Scope :=
  bindings.foldl (fun s (name, v) => s.bind name v) empty

end Scope

end ResourceTables
