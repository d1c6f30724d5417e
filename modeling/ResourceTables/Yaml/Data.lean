import ResourceTables.Yaml.Document
import ResourceTables.Yaml.Scalar

/-!
# The data of a YAML document

What the nodes of a document are: texts, lists and mappings, and other values of which only counts
whether they are void. Mappings take the pairs of those that are merged into them. Every node that
the outermost one leads to must be what its tag says.
-/

namespace ResourceTables.Yaml

/-- What a node can be. -/
inductive DataType where
  | null | bool | int | float | binary | timestamp | orderedMap | pairs | set | text | sequence
  | mapping
  deriving DecidableEq, Repr, Inhabited

/-- The types by the names of their tags. -/
def dataTypes : List (String × DataType) :=
  [("null", .null), ("bool", .bool), ("int", .int), ("float", .float), ("binary", .binary),
    ("timestamp", .timestamp), ("omap", .orderedMap), ("pairs", .pairs), ("set", .set),
    ("str", .text), ("seq", .sequence), ("map", .mapping)]

/-- The type that a tag stands for. -/
def DataType.ofTag? (tag : String) : Option DataType :=
  dataTypes.findSome? fun (name, type) => if coreTag name == tag then some type else none

/-- Whether values of the type have parts. -/
def DataType.isCollection : DataType → Bool
  | orderedMap | pairs | set | sequence | mapping => true
  | _ => false

namespace Graph

/-- The type of a node. -/
def type? (g : Graph) (n : Nat) : Option DataType := DataType.ofTag? (g.node n).tag

/-- The fault of something wrong with a node. -/
def fault (g : Graph) (n : Nat) (problem : Problem) : Fault :=
  .wrong none problem (g.node n).mark

/-- The fault of something wrong with a node that is met within another. -/
def faultIn (g : Graph) (activity : Activity) (outer n : Nat) (problem : Problem) : Fault :=
  .wrong (some (activity, some (g.node outer).mark)) problem (g.node n).mark

/-- The text of a scalar. A mapping with an equals sign among its keys stands for the value behind
it. -/
def scalarText (g : Graph) : Nat → Nat → Except Fault String
  | 0, _ => .error .beyondLimits
  | fuel + 1, n =>
    match (g.node n).content with
    | .scalar text => .ok text
    | .sequence _ => .error (g.fault n (.kind .scalar .sequence))
    | .mapping pairs =>
      match pairs.find? fun (key, _) => (g.node key).tag == coreTag "value" with
      | some (_, value) => g.scalarText fuel value
      | none => .error (g.fault n (.kind .scalar .mapping))

/-- The text of the scalar that a node is or stands for. -/
def text (g : Graph) (n : Nat) : Except Fault String :=
  g.scalarText (g.size + 1) n

/-- Whether a value without parts is void; a fault when the node is no such value. -/
def scalarIsVoid (g : Graph) (n : Nat) (type : DataType) : Except Fault Bool := do
  let written ← g.text n
  let value? : Option Bool ← match type with
    | .null => pure (some true)
    | .bool => pure ((boolValue? written).map (!·))
    | .int => pure ((intValue? written).map (· == 0))
    | .float => pure (floatIsZero? written)
    | .timestamp =>
      let date := Timestamp.ofText? (dropLastNewline written.toList)
      pure ((date.filter fun t => (g.node n).kind == .scalar && t.isValid).map fun _ => false)
    | .binary =>
      match binaryIsEmpty written with
      | .ok isEmpty => pure (some isEmpty)
      | .error problem => throw (g.fault n problem)
    | _ => pure (some written.isEmpty)
  match value? with
  | some isVoid => return isVoid
  | none => throw .beyondLimits

/-! ## Merging -/

/-- The pairs of a mapping. -/
def pairs (g : Graph) (n : Nat) : List (Nat × Nat) :=
  match (g.node n).content with
  | .mapping pairs => pairs
  | _ => []

mutual

/-- The graph in which the mapping `n` has the pairs of what is merged into it in front of its own.
The pairs from `index` on are still to be looked at, and `merged` has been found before. -/
def mergeFrom (n : Nat) : Nat → Nat → List (Nat × Nat) → Graph → Except Fault Graph
  | 0, _, _, _ => .error .beyondLimits
  | fuel + 1, index, merged, g =>
    let pairs := g.pairs n
    match pairs[index]? with
    | none =>
      .ok (if merged.isEmpty then g else g.setContent n (.mapping (merged ++ pairs)))
    | some (key, value) =>
      if (g.node key).tag == coreTag "merge" then do
        let g := g.setContent n (.mapping (pairs.eraseIdx index))
        let (more, g) ← mergedPairs n fuel value g
        mergeFrom n fuel index (merged ++ more) g
      else if (g.node key).tag == coreTag "value" then
        mergeFrom n fuel (index + 1) merged
          ⟨g.nodes.setIfInBounds key { g.node key with tag := coreTag "str" }⟩
      else mergeFrom n fuel (index + 1) merged g

/-- The pairs that `value` adds to the mapping `n`: those of one mapping, or of several in a list,
of which the first ones count most. -/
def mergedPairs (n : Nat) : Nat → Nat → Graph → Except Fault (List (Nat × Nat) × Graph)
  | 0, _, _ => .error .beyondLimits
  | fuel + 1, value, g =>
    match (g.node value).content with
    | .mapping _ => do
      let g ← mergeFrom value fuel 0 [] g
      return (g.pairs value, g)
    | .sequence items => do
      let (found, g) ← mergedLists n fuel items g
      return (found.reverse.flatten, g)
    | .scalar _ => .error (g.faultIn .mapping n value (.merged .scalar))

/-- The pairs of each of some mappings. -/
def mergedLists (n : Nat) : Nat → List Nat → Graph →
    Except Fault (List (List (Nat × Nat)) × Graph)
  | _, [], g => .ok ([], g)
  | 0, _, _ => .error .beyondLimits
  | fuel + 1, item :: rest, g =>
    match (g.node item).content with
    | .mapping _ => do
      let g ← mergeFrom item fuel 0 [] g
      let found := g.pairs item
      let (more, g) ← mergedLists n fuel rest g
      return (found :: more, g)
    | _ => .error (g.faultIn .mapping n item (.mergedItem (g.node item).kind))

end

/-- How many pairs all mappings have together. -/
def pairCount (g : Graph) : Nat :=
  g.nodes.foldl (fun n node => match node.content with
    | .mapping pairs => n + pairs.length
    | .sequence items => n + items.length
    | .scalar _ => n) 0

/-- The graph in which the mapping has the pairs of what is merged into it. -/
def merge (g : Graph) (n : Nat) : Except Fault Graph :=
  mergeFrom n (Nat.pow (g.pairCount + g.size + 16) 4) 0 [] g

/-! ## Every node is what its tag says -/

/-- The nodes that have been found to be what their tags say, and the collections among them whose
parts are still to be looked at. -/
structure Checked where
  /-- The nodes. -/
  graph : Graph
  /-- Whether each node has been looked at. -/
  seen : Array Bool
  /-- The collections whose parts have not been looked at. -/
  waiting : List Nat := []

/-- Looks at a node. -/
def Checked.visit (s : Checked) (n : Nat) : Except Fault Checked := do
  if s.seen.getD n false then return s
  match s.graph.type? n with
  | none => throw (s.graph.fault n (.unknownTag (s.graph.node n).tag))
  | some type =>
    if type.isCollection then
      return { s with seen := s.seen.setIfInBounds n true, waiting := s.waiting ++ [n] }
    let _ ← s.graph.scalarIsVoid n type
    return { s with seen := s.seen.setIfInBounds n true }

/-- Looks at a pair of the mapping `n`. -/
def Checked.visitPair (n : Nat) (s : Checked) (pair : Nat × Nat) : Except Fault Checked := do
  let s ← s.visit pair.1
  if (s.graph.type? pair.1).any DataType.isCollection then
    throw (s.graph.faultIn .mapping n pair.1 .unhashable)
  s.visit pair.2

/-- Looks at an entry of the list of pairs `n`. -/
def Checked.visitEntry (activity : Activity) (n : Nat) (s : Checked) (item : Nat) :
    Except Fault Checked :=
  match (s.graph.node item).content with
  | .mapping [(key, value)] => do (← s.visit key).visit value
  | .mapping pairs => .error (s.graph.faultIn activity n item (.pairLength pairs.length))
  | _ => .error (s.graph.faultIn activity n item (.pairMapping (s.graph.node item).kind))

/-- Looks at the parts of a collection. -/
def Checked.visitParts (s : Checked) (n : Nat) : Except Fault Checked := do
  let node := s.graph.node n
  let ofPairs (activity : Activity) : Except Fault Checked :=
    match node.content with
    | .sequence items => items.foldlM (fun s item => s.visitEntry activity n item) s
    | _ => .error (s.graph.faultIn activity n n (.pairSequence node.kind))
  match s.graph.type? n with
  | some .sequence =>
    match node.content with
    | .sequence items => items.foldlM Checked.visit s
    | _ => throw (s.graph.fault n (.kind .sequence node.kind))
  | some .orderedMap => ofPairs .orderedMap
  | some .pairs => ofPairs .pairs
  | _ =>
    match node.content with
    | .mapping _ =>
      let graph ← s.graph.merge n
      (graph.pairs n).foldlM (fun s pair => s.visitPair n pair) { s with graph }
    | _ => throw (s.graph.fault n (.kind .mapping node.kind))

/-- Looks at the parts of all collections, in the order in which they were met. -/
def Checked.visitAll : Nat → Checked → Except Fault Checked
  | 0, s => .ok s
  | fuel + 1, s =>
    match s.waiting with
    | [] => .ok s
    | n :: rest => do visitAll fuel (← { s with waiting := rest }.visitParts n)

end Graph

/-- A value of a document. -/
structure Data where
  /-- The nodes of the document. -/
  graph : Graph
  /-- The value's node. -/
  number : Nat

namespace Data

/-- The data of a text; nothing where the text holds no document. -/
def ofText (text : String) : Except Fault (Option Data) := do
  match ← Graph.ofText text with
  | none => return none
  | some (graph, root) =>
    let s : Graph.Checked := { graph, seen := Array.replicate graph.size false }
    let s ← (← s.visit root).visitAll (graph.size + 1)
    return some ⟨s.graph, root⟩

/-- The type of the value. -/
def type? (d : Data) : Option DataType := d.graph.type? d.number

/-- Whether the value is nothing. -/
def isNull (d : Data) : Bool := d.type? == some .null

/-- The text that the value is, if it is one. -/
def text? (d : Data) : Option String :=
  if d.type? == some .text then (d.graph.text d.number).toOption else none

/-- Whether the value is void: nothing, false, zero or empty. -/
def isVoid (d : Data) : Bool :=
  match d.type? with
  | some type =>
    if type.isCollection then
      match (d.graph.node d.number).content with
      | .sequence items => items.isEmpty
      | .mapping pairs => pairs.isEmpty
      | .scalar _ => false
    else (d.graph.scalarIsVoid d.number type).toOption.getD false
  | none => false

/-- The entries of a list, if the value is one; those of a list of pairs are no values of their
own. -/
def entries? (d : Data) : Option (List (Option Data)) :=
  let isOfPairs := d.type? == some .orderedMap || d.type? == some .pairs
  if d.type? == some .sequence || isOfPairs then
    match (d.graph.node d.number).content with
    | .sequence items => some (items.map fun n => if isOfPairs then none else some ⟨d.graph, n⟩)
    | _ => none
  else none

/-- Whether the value is a mapping. -/
def isMapping (d : Data) : Bool := d.type? == some .mapping

/-- The value that a mapping has for a text; the last one if there are several. -/
def get? (d : Data) (key : String) : Option Data :=
  (d.graph.pairs d.number).reverse.findSome? fun (k, v) =>
    if (Data.mk d.graph k).text? == some key then some ⟨d.graph, v⟩ else none

end Data

end ResourceTables.Yaml
