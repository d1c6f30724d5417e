import ResourceTables.Yaml.Fault

/-!
# Nodes of a YAML document

The nodes of a document are numbered. An alias is the number of the node it stands for, so a node
may be part of several others, and even of itself.
-/

namespace ResourceTables.Yaml

/-- What a node holds. -/
inductive NodeContent where
  /-- A text. -/
  | scalar (text : String)
  /-- Further nodes. -/
  | sequence (items : List Nat)
  /-- Pairs of a key and a value. -/
  | mapping (pairs : List (Nat × Nat))
  deriving DecidableEq, Repr, Inhabited

/-- A node. -/
structure Node where
  /-- What the node is meant to be. -/
  tag : String
  /-- What it holds. -/
  content : NodeContent
  /-- Where it begins. -/
  mark : Mark
  deriving DecidableEq, Repr, Inhabited

/-- The kind of a node. -/
def Node.kind (n : Node) : NodeKind :=
  match n.content with
  | .scalar _ => .scalar
  | .sequence _ => .sequence
  | .mapping _ => .mapping

/-- The nodes of a document by number. -/
structure Graph where
  /-- The nodes. -/
  nodes : Array Node := #[]
  deriving Inhabited

namespace Graph

/-- The node of the given number. -/
def node (g : Graph) (n : Nat) : Node := g.nodes.getD n default

/-- How many nodes there are. -/
def size (g : Graph) : Nat := g.nodes.size

/-- The graph with one more node. -/
def push (g : Graph) (n : Node) : Graph := ⟨g.nodes.push n⟩

/-- The graph with other content of a node. -/
def setContent (g : Graph) (n : Nat) (content : NodeContent) : Graph :=
  ⟨g.nodes.setIfInBounds n { g.node n with content }⟩

end Graph

/-- The tag of the core types with the given name. -/
def coreTag (name : String) : String := "tag:yaml.org,2002:" ++ name

end ResourceTables.Yaml
