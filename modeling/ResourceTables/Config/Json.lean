import ResourceTables.Config.Expr

/-!
# JSON configuration trees

The tree of a configuration written in JSON. Every value and every key keeps its place, all pairs
are kept in order, also those that repeat a key, and numbers are exactly the decimals written.
-/

namespace ResourceTables

/-- A JSON value without parts. -/
inductive JsonScalar where
  /-- The null value. -/
  | null
  /-- A truth value. -/
  | bool (b : Bool)
  /-- A number. -/
  | number (d : Decimal)
  /-- A text, decoded. -/
  | text (s : String)
  deriving DecidableEq, Repr, Inhabited

mutual

/-- A JSON value of a configuration. -/
inductive JsonNode where
  /-- A value without parts. -/
  | scalar (o : Origin) (value : JsonScalar)
  /-- An array. -/
  | array (o : Origin) (items : List JsonNode)
  /-- An object. -/
  | object (o : Origin) (pairs : List JsonPair)

/-- A key and its value. -/
inductive JsonPair where
  /-- The decoded key, the place of its opening quote, and the value. -/
  | mk (key : String) (pos : Pos) (value : JsonNode)

end

namespace JsonNode

instance : Inhabited JsonNode := ⟨.scalar default .null⟩

/-- Where the value is written. -/
def origin : JsonNode → Origin
  | .scalar o _ | .array o _ | .object o _ => o

/-- The place of the value's first character. -/
def pos (n : JsonNode) : Pos := n.origin.pos

end JsonNode

namespace JsonPair

/-- The decoded key. -/
def key : JsonPair → String
  | .mk key _ _ => key

/-- The place of the key. -/
def pos : JsonPair → Pos
  | .mk _ pos _ => pos

/-- The value. -/
def value : JsonPair → JsonNode
  | .mk _ _ value => value

/-- Pairs with this key hold comments. -/
def commentKey : String := "//"

/-- Whether the pair is a comment. -/
def isComment (p : JsonPair) : Bool :=
  p.key == commentKey

end JsonPair

end ResourceTables
