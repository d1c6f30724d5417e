import ResourceTables.Config.Body
import ResourceTables.Config.Error
import ResourceTables.Json.Token

/-!
# Reading JSON configurations

A reader takes the tokens of a JSON text one by one and keeps the arrays and objects it is inside
of. Strings that do not decode and numbers out of range come to light after the whole text has been
found to be JSON, the first one in reading order.
-/

namespace ResourceTables.Json

open Native (Mark)

/-- A value whose tokens are right, or the first fault in what it says. -/
abbrev Draft (α : Type) := Except ReadError α

/-- An open array or object. What follows what has been read of it is written as a dash. -/
inductive Frame where
  /-- `[ -` or `[ items, -`, last item first -/
  | items (start : Mark) (items : List (Draft JsonNode))
  /-- An object before a name, last pair first. -/
  | name (start : Mark) (pairs : List (Draft JsonPair))
  /-- An object behind a name. -/
  | colon (start : Mark) (pairs : List (Draft JsonPair)) (name : Token)
  /-- An object before the value of a name. -/
  | member (start : Mark) (pairs : List (Draft JsonPair)) (name : Token)

/-- What has been read so far. -/
structure Reader where
  /-- The value that was read last and is not part of its array or object yet. -/
  value : Option (Draft JsonNode)
  /-- The open arrays and objects, innermost first. -/
  frames : List Frame

namespace Reader

/-- A reader that has completed a value. -/
def after (value : Draft JsonNode) (frames : List Frame) : Option Reader :=
  some ⟨some value, frames⟩

/-- A reader that has just entered the first of the given frames. -/
def inside (frames : List Frame) : Option Reader :=
  some ⟨none, frames⟩

/-- What a string says. -/
def stringText (t : Token) : Draft String :=
  match decode t.chars.tail with
  | .ok (cs, _) => .ok (String.ofList cs)
  | .error fault =>
    let cause := .jsonString (faultText fault t.chars.tail)
    .error (.malformed ⟨t.start.pos.file, some t.start.pos.line, cause⟩)

/-- A value without parts. -/
def scalar (t : Token) (value : Draft JsonScalar) : Draft JsonNode :=
  value.map (.scalar (t.start.originTo t.stop))

/-- What a number says. -/
def numberValue (t : Token) : Draft JsonScalar :=
  let negative := t.chars.head? = some '-'
  let d := Decimal.ofLiteral negative (t.chars.drop (if negative then 1 else 0))
  if d.withinLimits then .ok (.number d) else .error .beyondLimits

/-- An array from its items in order. -/
def array (start : Mark) (stop : Nat) (items : List (Draft JsonNode)) : Draft JsonNode :=
  (items.mapM id).map (.array (start.originTo stop))

/-- An object from its pairs in order. -/
def object (start : Mark) (stop : Nat) (pairs : List (Draft JsonPair)) : Draft JsonNode :=
  (pairs.mapM id).map (.object (start.originTo stop))

/-- A name and its value. -/
def pair (name : Token) (value : Draft JsonNode) : Draft JsonPair := do
  let key ← stringText name
  return .mk key name.start.pos (← value)

/-- The first token of a value. -/
def beginValue (frames : List Frame) (t : Token) : Option Reader :=
  match t.kind with
  | .openBrace => inside (.name t.start [] :: frames)
  | .openBracket => inside (.items t.start [] :: frames)
  | .string => after (scalar t ((stringText t).map .text)) frames
  | .number => after (scalar t (numberValue t)) frames
  | .true => after (scalar t (.ok (.bool true))) frames
  | .false => after (scalar t (.ok (.bool false))) frames
  | .null => after (scalar t (.ok .null)) frames
  | _ => none

/-- The next token where no value is complete. -/
def feedOpen (frames : List Frame) (t : Token) : Option Reader :=
  match frames with
  | [] => beginValue [] t
  | frame :: outer =>
    match frame, t.kind with
    | .items start [], .closeBracket => after (array start t.stop []) outer
    | .items _ _, _ => beginValue frames t
    | .name start [], .closeBrace => after (object start t.stop []) outer
    | .name start pairs, .string => inside (.colon start pairs t :: outer)
    | .colon start pairs name, .colon => inside (.member start pairs name :: outer)
    | .member _ _ _, _ => beginValue frames t
    | _, _ => none

/-- The next token behind a complete value. -/
def feedAfter (value : Draft JsonNode) (frames : List Frame) (t : Token) : Option Reader :=
  match frames with
  | .items start items :: outer =>
    match t.kind with
    | .comma => inside (.items start (value :: items) :: outer)
    | .closeBracket => after (array start t.stop (value :: items).reverse) outer
    | _ => none
  | .member start pairs name :: outer =>
    match t.kind with
    | .comma => inside (.name start (pair name value :: pairs) :: outer)
    | .closeBrace => after (object start t.stop (pair name value :: pairs).reverse) outer
    | _ => none
  | _ => none

/-- The reader after one more token, or nothing if the token cannot stand there. -/
def feed (r : Reader) (t : Token) : Option Reader :=
  match r.value with
  | some value => feedAfter value r.frames t
  | none => feedOpen r.frames t

end Reader

/-- The error of a text that is not JSON. -/
def malformed (file : String) (line : Nat) : ReadError :=
  .malformed ⟨file, some line, .json⟩

/-- The value that the pieces write; `line` is the line of the last token before them. -/
def readPieces (file : String) : Nat → Reader → List Piece → Except ReadError (Draft JsonNode)
  | line, ⟨some value, []⟩, [] => let _ := line; .ok value
  | line, _, [] => .error (malformed file line)
  | _, _, .inl m :: _ => .error (malformed file m.pos.line)
  | _, r, .inr t :: rest =>
    match r.feed t with
    | some r => readPieces file t.start.pos.line r rest
    | none => .error (malformed file t.start.pos.line)

/-- The JSON value that the text of a file writes. -/
def parseNode (file text : String) : Except ReadError JsonNode := do
  let m := Mark.start file 1 text.toList
  let value ← readPieces file 1 ⟨none, []⟩ (pieces (m.rest.length + 1) m)
  value

/-- The body of a configuration file written in JSON. -/
def parse (file text : String) : Except ReadError Body := do
  match ← parseNode file text with
  | .object o pairs => return .json o pairs
  | _ => throw (.malformed ⟨file, some 1, .jsonRoot⟩)

end ResourceTables.Json
