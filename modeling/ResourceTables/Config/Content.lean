import ResourceTables.Config.Body
import ResourceTables.Json.Expr

/-!
# Decoding bodies

A schema names the arguments and the block types that someone wants to see of a body. Decoding
gives exactly those, in order, and refuses what contradicts the schema; everything the schema does
not name is passed over.
-/

namespace ResourceTables

/-- A block type and the names of its labels. -/
structure BlockHeader where
  /-- The block type. -/
  type : String
  /-- What the labels are called. -/
  labels : List String := []
  deriving DecidableEq, Repr, Inhabited

/-- What is wanted of a body. -/
structure BodySchema where
  /-- The arguments that are wanted. -/
  attributes : List String := []
  /-- The block types that are wanted. -/
  blocks : List BlockHeader := []
  deriving DecidableEq, Repr, Inhabited

/-- The header of a block type. -/
def BodySchema.block? (schema : BodySchema) (type : String) : Option BlockHeader :=
  schema.blocks.find? (·.type == type)

/-- What a schema finds in a body. -/
structure Content where
  /-- The arguments in order. -/
  attributes : List Attribute := []
  /-- The blocks in order. -/
  blocks : List Block := []
  deriving Inhabited

namespace Content

/-- The argument of the given name. -/
def attribute? (c : Content) (name : String) : Option Attribute :=
  c.attributes.find? (·.name == name)

/-- The blocks of the given type. -/
def blocksOfType (c : Content) (type : String) : List Block :=
  c.blocks.filter (·.type == type)

/-- The content with one more argument at the end. -/
def addAttribute (c : Content) (a : Attribute) : Content :=
  { c with attributes := c.attributes ++ [a] }

/-- The content with more blocks at the end. -/
def addBlocks (c : Content) (bs : List Block) : Content :=
  { c with blocks := c.blocks ++ bs }

end Content

/-- Why a body gives no content. -/
inductive ContentError where
  /-- The body does not fit the schema. -/
  | decode (e : DecodeError)
  /-- A text in a JSON body is not a template. -/
  | read (e : ReadError)
  deriving DecidableEq, Repr, Inhabited

namespace ContentError

/-- The error of a cause at a place. -/
def fault (pos : Pos) (cause : DecodeCause) : ContentError :=
  .decode ⟨pos, cause⟩

end ContentError

/-- Refuses a block that has not exactly the labels that its header names. -/
def Block.checkLabels (b : Block) (header : BlockHeader) : Except ContentError Unit :=
  let expected := header.labels.length
  match header.labels.drop b.labels.length, b.labels.drop expected with
  | missing :: _, _ => .error (.fault b.pos (.missingLabel missing b.type))
  | [], extra :: _ => .error (.fault b.pos (.extraLabel extra b.type expected))
  | [], [] => .ok ()

namespace Body

/-- One item of a native body, given the content before it. -/
def addItem (schema : BodySchema) (c : Content) : Item → Except ContentError Content
  | .attribute a =>
    if schema.attributes.contains a.name then
      match c.attribute? a.name with
      | some first => .error (.fault a.pos (.duplicateSince a.name first.pos))
      | none => .ok (c.addAttribute a)
    -- The name of a block type cannot be set.
    else if (schema.block? a.name).isSome then .error (.fault a.pos (.blockExpected a.name))
    else .ok c
  | .block type labels pos items =>
    match schema.block? type with
    | none =>
      if schema.attributes.contains type then .error (.fault pos (.argumentExpected type))
      else .ok c
    | some header => do
      let b : Block := ⟨type, labels, .native items, pos⟩
      b.checkLabels header
      return c.addBlocks [b]

/-- The objects that a block value consists of: one object, or an array of them. What is none of
these is an error at its place in the order. -/
def objectsOf (cause : DecodeCause) : JsonNode →
    List (Except ContentError (Origin × List JsonPair))
  | .object o pairs => [.ok (o, pairs)]
  | .array _ items => items.map fun
    | .object o pairs => .ok (o, pairs)
    | item => .error (.fault item.pos cause)
  | node => [.error (.fault node.pos cause)]

/-- The blocks of a type below a JSON value: one level of members for each label that is still to
come, then the bodies. -/
def jsonBlocks (type : String) : List String → List String → Pos → JsonNode →
    Except ContentError (List Block)
  | [], found, pos, node =>
    (objectsOf (.bodyObjectExpected type) node).mapM fun object => do
      let (o, pairs) ← object
      return ⟨type, found, .json o pairs, pos⟩
  | label :: labels, found, _, node => do
    let groups ← (objectsOf (.labelObjectExpected type label) node).mapM fun object => do
      let (_, pairs) ← object
      -- A comment is no label.
      let groups ← (pairs.filter (!·.isComment)).mapM fun p =>
        jsonBlocks type labels (found ++ [p.key]) p.pos p.value
      return groups.flatten
    return groups.flatten

/-- The expression of a member of a JSON body. -/
def memberAttribute (p : JsonPair) : Except ContentError Attribute :=
  match Json.expr p.value with
  | .ok e => .ok ⟨p.key, e, p.pos⟩
  | .error e => .error (.read e)

/-- One member of a JSON body, given the content before it. -/
def addPair (schema : BodySchema) (c : Content) (p : JsonPair) : Except ContentError Content :=
  if p.isComment then .ok c
  else if schema.attributes.contains p.key then
    if (c.attribute? p.key).isSome then .error (.fault p.pos (.duplicate p.key))
    else (memberAttribute p).map c.addAttribute
  else match schema.block? p.key with
    | none => .ok c
    | some header => (jsonBlocks p.key header.labels [] p.pos p.value).map c.addBlocks

/-- What the schema finds in the body. -/
def partialContent (schema : BodySchema) : Body → Except ContentError Content
  | .native items => items.foldlM (addItem schema) {}
  | .json _ pairs => pairs.foldlM (addPair schema) {}

/-- One item of a native body that may hold arguments only, given those before it. -/
def addArgument (found : List Attribute) : Item → Except ContentError (List Attribute)
  | .attribute a =>
    if found.any (·.name == a.name) then .error (.fault a.pos (.duplicate a.name))
    else .ok (found ++ [a])
  | .block type _ pos _ => .error (.fault pos (.unexpectedBlock type))

/-- One member of a JSON body that may hold arguments only, given those before it. -/
def addMember (found : List Attribute) (p : JsonPair) : Except ContentError (List Attribute) :=
  if p.isComment then .ok found
  else if found.any (·.name == p.key) then .error (.fault p.pos (.duplicate p.key))
  else (memberAttribute p).map fun a => found ++ [a]

/-- The arguments of a body that may hold nothing else, in order. -/
def justAttributes : Body → Except ContentError (List Attribute)
  | .native items => items.foldlM addArgument []
  | .json _ pairs => pairs.foldlM addMember []

end Body

end ResourceTables
