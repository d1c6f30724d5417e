import ResourceTables.Yaml.Lexer
import ResourceTables.Yaml.Resolve

/-!
# Reading a YAML document

The nodes of a text that holds one document, or none. Tags and types are settled while the nodes are
read; an anchor names the node behind it from its beginning on.
-/

namespace ResourceTables.Yaml

/-- What is known while nodes are read. -/
structure Reader where
  /-- The tokens ahead. -/
  lexer : Lexer
  /-- The nodes so far. -/
  graph : Graph := {}
  /-- The nodes with an anchor. -/
  anchors : List (String × Nat) := []
  /-- What tag handles stand for. -/
  handles : List (String × String) := []
  deriving Inhabited

/-- Steps of reading nodes. -/
abbrev Read := StateT Reader (Except Fault)

/-- Where a node stands. -/
inductive Place where
  /-- Between brackets. -/
  | flow
  /-- In a block. -/
  | block
  /-- In a mapping of a block, where a sequence need not be indented. -/
  | pair
  deriving DecidableEq, Repr, Inhabited

namespace Reader

/-- The handles that need no declaration. -/
def standardHandles : List (String × String) :=
  [("!", "!"), ("!!", "tag:yaml.org,2002:")]

/-- The token ahead. -/
def peek : Read Token := do
  let r ← get
  let (t, lexer) ← r.lexer.peek
  set { r with lexer }
  return t

/-- Takes the token ahead. -/
def take : Read Token := do
  let t ← peek
  modify fun r => { r with lexer := r.lexer.drop }
  return t

/-- Fails where something is wrong while something is read that began at `start`. -/
def fail (activity : Activity) (start : Mark) (problem : Problem) (mark : Mark) : Read α :=
  throw (.wrong (some (activity, some start)) problem mark)

/-- The number of one more node. -/
def add (n : Node) : Read Nat := do
  modifyGet fun r => (r.graph.size, { r with graph := r.graph.push n })

/-- The number of a node that is left out, at a place. -/
def addEmpty (mark : Mark) : Read Nat :=
  add ⟨plainTag "", .scalar "", mark⟩

/-- What stands before the content of a node. -/
structure Properties where
  /-- The name that aliases use. -/
  anchor : Option String := none
  /-- The tag, with the place where it stands. -/
  tag : Option (Option String × String × Mark) := none
  /-- Where the first of them stands. -/
  start : Option Mark := none

/-- Takes the anchor and the tag ahead, in either order. -/
def properties : Nat → Properties → Read Properties
  | 0, p => return p
  | fuel + 1, p => do
    let t ← peek
    let start := some (p.start.getD t.start)
    match t.kind, p.anchor, p.tag with
    | .anchor name, none, _ =>
      let _ ← take
      properties fuel { p with anchor := some name, start }
    | .tag handle suffix, _, none =>
      let _ ← take
      properties fuel { p with tag := some (handle, suffix, t.start), start }
    | _, _, _ => return p

/-- The tag of a node as it is written out. -/
def tagOf (p : Properties) (start : Mark) : Read (Option String) := do
  match p.tag with
  | none => return none
  | some (none, suffix, _) => return some suffix
  | some (some handle, suffix, mark) =>
    match (← get).handles.lookup handle with
    | some stem => return some (stem ++ suffix)
    | none => fail .node start (.unknownHandle handle) mark

/-- Whether the tag leaves the type of a node open. -/
def leavesOpen (tag : Option String) : Bool := tag == none || tag == some "!"

/-- The number of a node that may have an anchor. -/
def addAnchored (anchor : Option String) (n : Node) : Read Nat := do
  match anchor with
  | none => add n
  | some name =>
    let r ← get
    match r.anchors.lookup name with
    | some first => fail (.anchored name) (r.graph.node first).mark .secondAnchor n.mark
    | none =>
      let number ← add n
      modify fun r => { r with anchors := (name, number) :: r.anchors }
      return number

/-- The number of a collection whose content `content` reads behind its anchor and tag. -/
def collection (p : Properties) (tag : Option String) (core : String) (empty : NodeContent)
    (start : Mark) (content : Read NodeContent) : Read Nat := do
  let tag := if leavesOpen tag then coreTag core else tag.getD ""
  let number ← addAnchored p.anchor ⟨tag, empty, start⟩
  let found ← content
  modify fun r => { r with graph := r.graph.setContent number found }
  return number

/-- Whether the token ahead is of one of the given kinds. -/
def at? (kinds : List TokenKind) : Read Bool := do
  return kinds.contains (← peek).kind

/-- Takes the comma between two items, unless the item is the first one. -/
def comma (activity : Activity) (start : Mark) (first : Bool) (closing : Char) : Read Unit := do
  if first then return
  let t ← peek
  if t.kind == .flowEntry then
    let _ ← take
  else fail activity start (.commaOr closing t.kind.text) t.start

mutual

/-- Reads a node. -/
def node : Nat → Place → Read Nat
  | 0, _ => throw .beyondLimits
  | fuel + 1, place => do
    let first ← peek
    match first.kind with
    | .aliasName name =>
      let _ ← take
      match (← get).anchors.lookup name with
      | some number => return number
      | none => throw (.wrong none (.unknownAlias name) first.start)
    | _ =>
      let p ← properties 2 {}
      let tag ← tagOf p (p.start.getD first.start)
      let t ← peek
      let start := p.start.getD t.start
      match t.kind with
      | .scalar text plain =>
        let _ ← take
        let tag := if (plain && tag == none) || tag == some "!" then plainTag text
          else tag.getD (coreTag "str")
        addAnchored p.anchor ⟨tag, .scalar text, start⟩
      | .flowSequenceStart =>
        collection p tag "seq" (.sequence []) start do
          let opening ← take
          return .sequence (← flowItems fuel opening.start true)
      | .flowMappingStart =>
        collection p tag "map" (.mapping []) start do
          let opening ← take
          return .mapping (← flowPairs fuel opening.start true)
      | kind =>
        if kind == .blockEntry && place == .pair then
          collection p tag "seq" (.sequence []) start do
            return .sequence (← entries fuel)
        else if kind == .blockSequenceStart && place != .flow then
          collection p tag "seq" (.sequence []) start do
            let opening ← take
            return .sequence (← blockItems fuel opening.start)
        else if kind == .blockMappingStart && place != .flow then
          collection p tag "map" (.mapping []) start do
            let opening ← take
            return .mapping (← blockPairs fuel opening.start)
        else if p.start.isSome then
          let tag := if leavesOpen tag then plainTag "" else tag.getD ""
          addAnchored p.anchor ⟨tag, .scalar "", start⟩
        else
          fail (if place == .flow then .flowNode else .blockNode) start (.content kind.text) t.start

/-- Reads what stands behind a sign: a node, unless a token of the given kinds follows. -/
def nodeUnless : Nat → Place → List TokenKind → Token → Read Nat
  | 0, _, _, _ => throw .beyondLimits
  | fuel + 1, place, kinds, sign => do
    if ← at? kinds then addEmpty sign.stop else node fuel place

/-- Reads the entries of a sequence that is not indented. -/
def entries : Nat → Read (List Nat)
  | 0 => throw .beyondLimits
  | fuel + 1 => do
    if ← at? [.blockEntry] then
      let sign ← take
      let item ← nodeUnless fuel .block [.blockEntry, .key, .value, .blockEnd] sign
      return item :: (← entries fuel)
    else return []

/-- Reads the entries of a sequence in a block. -/
def blockItems : Nat → Mark → Read (List Nat)
  | 0, _ => throw .beyondLimits
  | fuel + 1, start => do
    let t ← peek
    match t.kind with
    | .blockEntry =>
      let sign ← take
      let item ← nodeUnless fuel .block [.blockEntry, .blockEnd] sign
      return item :: (← blockItems fuel start)
    | .blockEnd =>
      let _ ← take
      return []
    | kind => fail .blockCollection start (.blockEnd kind.text) t.start

/-- Reads a value in a block. -/
def blockValue : Nat → Read Nat
  | 0 => throw .beyondLimits
  | fuel + 1 => do
    if ← at? [.value] then
      let sign ← take
      nodeUnless fuel .pair [.key, .value, .blockEnd] sign
    else addEmpty (← peek).start

/-- Reads the pairs of a mapping in a block. -/
def blockPairs : Nat → Mark → Read (List (Nat × Nat))
  | 0, _ => throw .beyondLimits
  | fuel + 1, start => do
    let t ← peek
    match t.kind with
    | .key =>
      let sign ← take
      let key ← nodeUnless fuel .pair [.key, .value, .blockEnd] sign
      let value ← blockValue fuel
      return (key, value) :: (← blockPairs fuel start)
    | .blockEnd =>
      let _ ← take
      return []
    | kind => fail .blockMapping start (.blockEnd kind.text) t.start

/-- Reads a value between brackets that end in a token of kind `closing`. -/
def flowValue : Nat → TokenKind → Read Nat
  | 0, _ => throw .beyondLimits
  | fuel + 1, closing => do
    if ← at? [.value] then
      let sign ← take
      nodeUnless fuel .flow [.flowEntry, closing] sign
    else addEmpty (← peek).start

/-- Reads the key and the value behind a question mark. -/
def flowPair : Nat → TokenKind → Read (Nat × Nat)
  | 0, _ => throw .beyondLimits
  | fuel + 1, closing => do
    let sign ← take
    let key ← nodeUnless fuel .flow [.value, .flowEntry, closing] sign
    return (key, ← flowValue fuel closing)

/-- Reads the items of a sequence between brackets. -/
def flowItems : Nat → Mark → Bool → Read (List Nat)
  | 0, _, _ => throw .beyondLimits
  | fuel + 1, start, first => do
    if ← at? [.flowSequenceEnd] then
      let _ ← take
      return []
    comma .flowSequence start first ']'
    let t ← peek
    match t.kind with
    | .key =>
      let item ← collection {} none "map" (.mapping []) t.start do
        return .mapping [← flowPair fuel .flowSequenceEnd]
      return item :: (← flowItems fuel start false)
    | .flowSequenceEnd =>
      let _ ← take
      return []
    | _ =>
      let item ← node fuel .flow
      return item :: (← flowItems fuel start false)

/-- Reads the pairs of a mapping between brackets. -/
def flowPairs : Nat → Mark → Bool → Read (List (Nat × Nat))
  | 0, _, _ => throw .beyondLimits
  | fuel + 1, start, first => do
    if ← at? [.flowMappingEnd] then
      let _ ← take
      return []
    comma .flowMapping start first '\x7d'
    let t ← peek
    match t.kind with
    | .key =>
      let pair ← flowPair fuel .flowMappingEnd
      return pair :: (← flowPairs fuel start false)
    | .flowMappingEnd =>
      let _ ← take
      return []
    | _ =>
      let key ← node fuel .flow
      let value ← addEmpty (← peek).start
      return (key, value) :: (← flowPairs fuel start false)

end

/-- Takes the directives before a document. -/
def directives : Nat → Bool → List (String × String) → Read (List (String × String))
  | 0, _, handles => return handles
  | fuel + 1, versioned, handles => do
    let t ← peek
    match t.kind with
    | .directive d =>
      let _ ← take
      match d with
      | .version major _ =>
        if versioned then throw (.wrong none .secondVersion t.start)
        if major != 1 then throw (.wrong none .version t.start)
        directives fuel true handles
      | .handle handle stem =>
        if (handles.lookup handle).isSome then
          throw (.wrong none (.secondHandle handle) t.start)
        directives fuel versioned (handles ++ [(handle, stem)])
      | .other => directives fuel versioned handles
    | _ => return handles

/-- Takes the ends of documents. -/
def documentEnds : Nat → Read Unit
  | 0 => return
  | fuel + 1 => do
    if ← at? [.documentEnd] then
      let _ ← take
      documentEnds fuel

/-- Takes what begins a further document, and tells where; nothing at the end of the text. -/
def documentStart (fuel : Nat) : Read (Option Mark) := do
  documentEnds fuel
  let t ← peek
  if t.kind == .streamEnd then return none
  let handles ← directives fuel false []
  modify fun r => { r with handles := handles ++ standardHandles }
  let next ← peek
  if next.kind != .documentStart then
    throw (.wrong none (.documentStart next.kind.text) next.start)
  let _ ← take
  return some t.start

/-- Whether the token is a directive. -/
def isDirective : TokenKind → Bool
  | .directive _ => true
  | _ => false

/-- Reads the content of a document behind its start. -/
def documentContent (fuel : Nat) : Read Nat := do
  let t ← peek
  if isDirective t.kind || [.documentStart, .documentEnd, .streamEnd].contains t.kind then
    addEmpty t.start
  else node fuel .block

/-- Reads the first document, if there is one. -/
def firstDocument (fuel : Nat) : Read (Option Nat) := do
  let _ ← take
  let t ← peek
  if isDirective t.kind || [.documentStart, .streamEnd].contains t.kind then
    match ← documentStart fuel with
    | some _ => return some (← documentContent fuel)
    | none => return none
  else
    modify fun r => { r with handles := standardHandles }
    return some (← node fuel .block)

/-- Reads the only document. -/
def document (fuel : Nat) : Read (Option Nat) := do
  match ← firstDocument fuel with
  | none => return none
  | some root =>
    if ← at? [.documentEnd] then
      let _ ← take
    match ← documentStart fuel with
    | none => return some root
    | some mark => fail .document ((← get).graph.node root).mark .anotherDocument mark

end Reader

/-- Whether the character may stand in a text. -/
def isAllowed (c : Char) : Bool :=
  c == '\t' || c == '\n' || c == '\r' || ('\x20' ≤ c && c ≤ '\x7e') || c == '\x85' ||
    ('\xa0' ≤ c && c ≤ '\ufffd') || 0x10000 ≤ c.toNat

/-- The document of a text: its nodes and the number of the outermost one. Nothing where the text
holds no document. -/
def Graph.ofText (text : String) : Except Fault (Option (Graph × Nat)) :=
  match text.toList.findIdx? (!isAllowed ·) with
  | some index => .error (.character (text.toList.getD index ' ') index)
  | none => do
    let (root, r) ← (Reader.document (8 * text.length + 16)).run { lexer := .start text }
    return root.map fun n => (r.graph, n)

end ResourceTables.Yaml
