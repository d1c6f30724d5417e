import ResourceTables.Yaml.Block
import ResourceTables.Yaml.Plain
import ResourceTables.Yaml.Property

/-!
# Reading tokens

The tokens of a text, read no further ahead than the next token needs. What stands at the start of a
line or behind an opening bracket may turn out to be a key when a colon follows it on the same line:
it is remembered, and the token that makes it a key is put in front of it then. Blocks begin and end
where the indentation grows and shrinks.
-/

namespace ResourceTables.Yaml

/-- Something that a colon may turn into a key. -/
structure PendingKey where
  /-- How many tokens stand before it. -/
  number : Nat
  /-- Whether it can be nothing else. -/
  required : Bool
  /-- Where it begins. -/
  mark : Mark
  deriving Inhabited

/-- What is known while tokens are read. -/
structure Lexer where
  /-- How many characters the text has. -/
  size : Nat
  /-- What is ahead. -/
  cursor : Cursor
  /-- The tokens that have been read but not taken. -/
  tokens : List Token := []
  /-- How many tokens have been taken. -/
  taken : Nat := 0
  /-- Whether the text has ended. -/
  ended : Bool := false
  /-- How many brackets are open. -/
  depth : Nat := 0
  /-- The columns of the open blocks, the innermost first. -/
  blocks : List Nat := []
  /-- Whether a key may begin here. -/
  keyAllowed : Bool := true
  /-- What may be a key, by the number of brackets around it. -/
  pending : List (Nat × PendingKey) := []
  deriving Inhabited

namespace Lexer

/-- The lexer at the start of a text. -/
def start (text : String) : Lexer :=
  { size := text.length, cursor := ⟨{}, text.toList⟩, tokens := [⟨.streamStart, {}, {}⟩] }

/-- The place of the lexer. -/
def mark (l : Lexer) : Mark := l.cursor.mark

/-- Whether brackets are open. -/
def inFlow (l : Lexer) : Bool := l.depth != 0

/-- How far the lines of a scalar are indented at least: further than the innermost block. -/
def indentation (l : Lexer) : Nat :=
  match l.blocks with
  | [] => 0
  | column :: _ => column + 1

/-- The lexer with one more token. -/
def push (l : Lexer) (kind : TokenKind) (start stop : Mark) : Lexer :=
  { l with tokens := l.tokens ++ [⟨kind, start, stop⟩] }

/-- The lexer behind the next `n` characters, which are a token. -/
def pushNext (l : Lexer) (kind : TokenKind) (n : Nat := 1) : Lexer :=
  let after := l.cursor.skip n
  { l.push kind l.mark after.mark with cursor := after }

/-- The lexer with the ends of the blocks that are indented further than `column`. -/
def closeBlocks (column : Nat) (l : Lexer) : List Nat → Lexer
  | [] => { l with blocks := [] }
  | inner :: outer =>
    if column < inner then closeBlocks column (l.push .blockEnd l.mark l.mark) outer
    else { l with blocks := inner :: outer }

/-- The lexer with the ends of the blocks that a token at the given column closes. Between brackets
indentation does not count. -/
def unwind (l : Lexer) (column : Nat) : Lexer :=
  if l.inFlow then l else l.closeBlocks column l.blocks

/-- The lexer with the ends of all blocks. -/
def unwindAll (l : Lexer) : Lexer :=
  if l.inFlow then l
  else { l with
    tokens := l.tokens ++ l.blocks.map fun _ => ⟨.blockEnd, l.mark, l.mark⟩
    blocks := [] }

/-- Whether a block that begins at the column is indented further than the innermost one. -/
def opensBlock (l : Lexer) (column : Nat) : Bool :=
  match l.blocks with
  | [] => true
  | inner :: _ => inner < column

/-- The lexer with the start of a block, if one begins here. -/
def openBlock (l : Lexer) (kind : TokenKind) : Lexer :=
  if l.opensBlock l.mark.column then
    { l.push kind l.mark l.mark with blocks := l.mark.column :: l.blocks }
  else l

/-- The fault of a key without a colon. -/
def noColon (l : Lexer) (key : PendingKey) : Fault :=
  l.cursor.fault .simpleKey key.mark .noColon

/-- The lexer without what can no longer be a key, as it stands on another line or too far back. -/
def dropStale (l : Lexer) : Except Fault Lexer :=
  let isStale (entry : Nat × PendingKey) : Bool :=
    entry.2.mark.line != l.mark.line || 1024 < l.mark.index - entry.2.mark.index
  match l.pending.find? fun entry => isStale entry && entry.2.required with
  | some (_, key) => .error (l.noColon key)
  | none => .ok { l with pending := l.pending.filter (!isStale ·) }

/-- The lexer without what might have been a key between the brackets that are open. -/
def dropKey (l : Lexer) : Except Fault Lexer :=
  match l.pending.lookup l.depth with
  | some key =>
    if key.required then .error (l.noColon key)
    else .ok { l with pending := l.pending.filter (·.1 != l.depth) }
  | none => .ok l

/-- The lexer that remembers that what begins here may be a key. -/
def saveKey (l : Lexer) : Except Fault Lexer := do
  if !l.keyAllowed then return l
  let required := !l.inFlow && l.blocks.head? == some l.mark.column
  let l ← l.dropKey
  let key : PendingKey := ⟨l.taken + l.tokens.length, required, l.mark⟩
  return { l with pending := l.pending ++ [(l.depth, key)] }

/-- The number of the first token that may be a key. -/
def firstPending? (l : Lexer) : Option Nat :=
  (l.pending.map (·.2.number)).min?

/-! ## Tokens -/

/-- The fault of something that cannot stand here. -/
def misplaced (l : Lexer) (problem : Problem) : Fault :=
  .wrong none problem l.mark

/-- Reads the end of the text. -/
def readEnd (l : Lexer) : Except Fault Lexer := do
  let l ← l.unwindAll.dropKey
  return { l.push .streamEnd l.mark l.mark with keyAllowed := false, pending := [], ended := true }

/-- Reads a directive. -/
def readDirective (l : Lexer) : Except Fault Lexer := do
  let l ← l.unwindAll.dropKey
  let (d, stop, after) ← l.cursor.directive
  return { l.push (.directive d) l.mark stop with keyAllowed := false, cursor := after }

/-- Reads the start or the end of a document. -/
def readDocumentLimit (l : Lexer) (kind : TokenKind) : Except Fault Lexer := do
  let l ← l.unwindAll.dropKey
  return { l.pushNext kind 3 with keyAllowed := false }

/-- Reads an opening bracket. -/
def readOpening (l : Lexer) (kind : TokenKind) : Except Fault Lexer := do
  let l ← l.saveKey
  return { l.pushNext kind with depth := l.depth + 1, keyAllowed := true }

/-- Reads a closing bracket. -/
def readClosing (l : Lexer) (kind : TokenKind) : Except Fault Lexer := do
  let l ← l.dropKey
  return { l.pushNext kind with depth := l.depth - 1, keyAllowed := false }

/-- Reads a comma. -/
def readComma (l : Lexer) : Except Fault Lexer := do
  let l ← { l with keyAllowed := true }.dropKey
  return l.pushNext .flowEntry

/-- Reads the dash before an entry of a sequence. -/
def readEntry (l : Lexer) : Except Fault Lexer := do
  if !l.inFlow && !l.keyAllowed then throw (l.misplaced .sequenceEntry)
  let l := if l.inFlow then l else l.openBlock .blockSequenceStart
  let l ← { l with keyAllowed := true }.dropKey
  return l.pushNext .blockEntry

/-- Reads the question mark before a key. -/
def readKey (l : Lexer) : Except Fault Lexer := do
  if !l.inFlow && !l.keyAllowed then throw (l.misplaced .mappingKey)
  let l := if l.inFlow then l else l.openBlock .blockMappingStart
  let l ← { l with keyAllowed := !l.inFlow }.dropKey
  return l.pushNext .key

/-- The lexer with the tokens that make a pending key a key. -/
def insertKey (l : Lexer) (key : PendingKey) : Lexer :=
  let opens := !l.inFlow && l.opensBlock key.mark.column
  let found := (if opens then [⟨.blockMappingStart, key.mark, key.mark⟩] else []) ++
    [(⟨.key, key.mark, key.mark⟩ : Token)]
  let at_ := key.number - l.taken
  { l with
    tokens := l.tokens.take at_ ++ found ++ l.tokens.drop at_
    blocks := if opens then key.mark.column :: l.blocks else l.blocks
    pending := l.pending.filter (·.1 != l.depth)
    keyAllowed := false }

/-- Reads the colon before a value. -/
def readValue (l : Lexer) : Except Fault Lexer := do
  match l.pending.lookup l.depth with
  | some key => return (l.insertKey key).pushNext .value
  | none =>
    if !l.inFlow && !l.keyAllowed then throw (l.misplaced .mappingValue)
    let l := if l.inFlow then l else l.openBlock .blockMappingStart
    let l ← { l with keyAllowed := !l.inFlow }.dropKey
    return l.pushNext .value

/-- Reads an anchor or an alias. -/
def readName (l : Lexer) (kind : String → TokenKind) : Except Fault Lexer := do
  let l ← l.saveKey
  let (name, after) ← l.cursor.anchorName
  return { l.push (kind name) l.mark after.mark with keyAllowed := false, cursor := after }

/-- Reads a tag. -/
def readTag (l : Lexer) : Except Fault Lexer := do
  let l ← l.saveKey
  let (kind, after) ← l.cursor.tag
  return { l.push kind l.mark after.mark with keyAllowed := false, cursor := after }

/-- Reads a block scalar. -/
def readBlockScalar (l : Lexer) : Except Fault Lexer := do
  let l ← { l with keyAllowed := true }.dropKey
  let (text, after) ← l.cursor.blockScalar (max 1 l.indentation)
  return { l.push (.scalar text false) l.mark after.mark with cursor := after }

/-- Reads a quoted scalar. -/
def readQuotedScalar (l : Lexer) : Except Fault Lexer := do
  let l ← l.saveKey
  let (text, after) ← l.cursor.quotedScalar
  return { l.push (.scalar text false) l.mark after.mark with keyAllowed := false, cursor := after }

/-- Reads a plain scalar. -/
def readPlainScalar (l : Lexer) : Except Fault Lexer := do
  let l ← l.saveKey
  let t := l.cursor.plainScalar l.inFlow l.indentation
  return { l.push (.scalar (String.ofList t.chars) true) l.mark t.stop with
    keyAllowed := t.lineEnded, cursor := t.cursor }

/-- Whether a plain scalar begins here. -/
def atPlain (l : Lexer) : Bool :=
  let x := l.cursor.peek
  !(isSpaceOrEnd x || "-?:,[]\x7b\x7d#&*!|>'\"%@`".toList.contains x) ||
    (!isSpaceOrEnd (l.cursor.peek 1) && (x == '-' || (!l.inFlow && (x == '?' || x == ':'))))

/-- The lexer behind blanks, comments and line breaks. A key may begin on a new line. -/
def skipToToken : Nat → Lexer → Lexer
  | 0, l => l
  | fuel + 1, l =>
    let c := l.cursor.skipBlanks.skipComment
    if isBreak c.peek then
      skipToToken fuel
        { l with cursor := c.lineBreak.2, keyAllowed := l.keyAllowed || !l.inFlow }
    else { l with cursor := c }

/-- Reads what begins at the lexer's place. -/
def readHere (l : Lexer) : Except Fault Lexer :=
  let c := l.cursor
  let x := c.peek
  let atStart := l.mark.column == 0
  let isAlone := isSpaceOrEnd (c.peek 1)
  if x == endChar then l.readEnd
  else if x == '%' && atStart then l.readDirective
  else if atStart && c.atSeparator '-' then l.readDocumentLimit .documentStart
  else if atStart && c.atSeparator '.' then l.readDocumentLimit .documentEnd
  else if x == '[' then l.readOpening .flowSequenceStart
  else if x == '\x7b' then l.readOpening .flowMappingStart
  else if x == ']' then l.readClosing .flowSequenceEnd
  else if x == '\x7d' then l.readClosing .flowMappingEnd
  else if x == ',' then l.readComma
  else if x == '-' && isAlone then l.readEntry
  else if x == '?' && (l.inFlow || isAlone) then l.readKey
  else if x == ':' && (l.inFlow || isAlone) then l.readValue
  else if x == '*' then l.readName .aliasName
  else if x == '&' then l.readName .anchor
  else if x == '!' then l.readTag
  else if (x == '|' || x == '>') && !l.inFlow then l.readBlockScalar
  else if x == '\'' || x == '"' then l.readQuotedScalar
  else if l.atPlain then l.readPlainScalar
  else .error (.wrong (some (.nextToken, none)) (.cannotStart x) l.mark)

/-- Reads some further tokens. -/
def readMore (l : Lexer) : Except Fault Lexer := do
  let l := if l.mark.index = 0 && l.cursor.peek == '\uFEFF' then { l with cursor := l.cursor.next }
    else l
  let l ← (l.skipToToken (l.size + 1)).dropStale
  (l.unwind l.mark.column).readHere

/-- The lexer with at least one token ahead that can no longer turn into a key, unless the text has
ended. -/
def ready : Nat → Lexer → Except Fault Lexer
  | 0, l => .ok l
  | fuel + 1, l => do
    if l.ended then return l
    if l.tokens.isEmpty then ready fuel (← l.readMore)
    else
      let l ← l.dropStale
      if l.firstPending? = some l.taken then ready fuel (← l.readMore) else return l

/-- The next token, and the lexer that has it ahead. -/
def peek (l : Lexer) : Except Fault (Token × Lexer) := do
  let l ← l.ready (l.size + 2)
  return (l.tokens.headD default, l)

/-- The lexer without the token that is ahead. -/
def drop (l : Lexer) : Lexer :=
  { l with tokens := l.tokens.drop 1, taken := l.taken + 1 }

end Lexer

end ResourceTables.Yaml
