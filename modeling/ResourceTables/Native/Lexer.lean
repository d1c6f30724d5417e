import ResourceTables.Decimal.Notation
import ResourceTables.Native.Token

/-!
# Cutting a text into tokens

Which characters make up the next token depends on what the reader can accept there: inside quotes
nearly everything is literal text, and a word such as `if` is a plain name where no condition can
stand. The kinds are tried in one fixed order and the first that fits is taken, not the longest.
-/

namespace ResourceTables.Native

/-- Characters that can begin a name. -/
def isNameStart (c : Char) : Bool :=
  ('a' ≤ c && c ≤ 'z') || ('A' ≤ c && c ≤ 'Z') || c == '_'

/-- Characters that can continue a name. -/
def isNameChar (c : Char) : Bool :=
  isNameStart c || ('0' ≤ c && c ≤ '9') || c == '-'

/-- Blanks and tabs. -/
def isGap (c : Char) : Bool :=
  c == ' ' || c == '\t'

/-- How many characters at the start satisfy `p`. -/
def countWhile (p : Char → Bool) : List Char → Nat
  | [] => 0
  | c :: rest => if p c then countWhile p rest + 1 else 0

/-- The length of the name at the start, or zero. -/
def nameLength : List Char → Nat
  | [] => 0
  | c :: rest => if isNameStart c then countWhile isNameChar rest + 1 else 0

/-- The length of the further names that `::` joins to a name; `fuel` bounds their number. -/
def qualifiersLength : Nat → List Char → Nat
  | fuel + 1, ':' :: ':' :: rest =>
    let n := nameLength rest
    if n = 0 then 0 else n + 2 + qualifiersLength fuel (rest.drop n)
  | _, _ => 0

/-- The words that are never called. -/
def isReserved (cs : List Char) : Bool :=
  cs == ['i', 'f'] || cs == ['i', 'n'] || cs == ['f', 'o', 'r']

/-- The length of the function name at the start: names joined by `::` with an opening parenthesis
behind them. -/
def callNameLength (cs : List Char) : Nat :=
  let first := nameLength cs
  if first = 0 then 0
  else
    let rest := cs.drop first
    if isReserved (cs.take first) && rest.head? != some ':' then 0
    else
      let more := qualifiersLength rest.length rest
      if ((rest.drop more).dropWhile isGap).head? = some '(' then first + more else 0

/-- The length of the literal characters of a quoted text at the start. A backslash takes the next
character with it, and `$${` and `%%{` are literal. -/
def textLength : List Char → Nat
  | '\\' :: c :: rest => if c = '\n' then 0 else textLength rest + 2
  | '$' :: '$' :: '\x7b' :: rest => textLength rest + 3
  | '%' :: '%' :: '\x7b' :: rest => textLength rest + 3
  | '$' :: '\x7b' :: _ => 0
  | '%' :: '\x7b' :: _ => 0
  | c :: rest => if c = '"' ∨ c = '\n' ∨ c = '\\' then 0 else textLength rest + 1
  | [] => 0

/-- The length of the literal characters of a template at the start. -/
def templateLength : List Char → Nat
  | '$' :: '$' :: '\x7b' :: rest => templateLength rest + 3
  | '%' :: '%' :: '\x7b' :: rest => templateLength rest + 3
  | '$' :: '\x7b' :: _ => 0
  | '%' :: '\x7b' :: _ => 0
  | _ :: rest => templateLength rest + 1
  | [] => 0

/-- The lines of a text, without the newlines between them. -/
def splitLines : List Char → List (List Char)
  | [] => [[]]
  | c :: rest =>
    if c = '\n' then [] :: splitLines rest
    else match splitLines rest with
      | line :: lines => (c :: line) :: lines
      | [] => [[c]]

/-- Whether the line holds the marker and nothing else but blanks and tabs. -/
def closesHeredoc (marker line : List Char) : Bool :=
  let body := line.dropWhile isGap
  body.take marker.length == marker && (body.drop marker.length).all isGap

/-- The length of the lines up to the end of the first that closes the heredoc. -/
def closingLength? (marker : List Char) : List (List Char) → Option Nat
  | [] => none
  | line :: lines =>
    if closesHeredoc marker line then some line.length
    else (closingLength? marker lines).map (· + line.length + 1)

/-- The header of a heredoc: whether it is indented, its marker, and the header's length with the
newline that ends it. -/
def heredocHeader? : List Char → Option (Bool × List Char × Nat)
  | '<' :: '<' :: rest =>
    let indented := rest.head? == some '-'
    let rest := if indented then rest.tail else rest
    let marker := rest.take (nameLength rest)
    let gap := countWhile isGap (rest.drop marker.length)
    let before := (if indented then 3 else 2) + marker.length + gap
    if marker.isEmpty then none
    else match rest.drop (marker.length + gap) with
      | '\n' :: _ => some (indented, marker, before + 1)
      | '\r' :: '\n' :: _ => some (indented, marker, before + 2)
      | _ => none
  | _ => none

/-- The length of the heredoc at the start, from its marker to the end of the closing line. -/
def heredocLength (cs : List Char) : Nat :=
  match heredocHeader? cs with
  | none => 0
  | some (_, marker, header) =>
    match closingLength? marker (splitLines (cs.drop header)) with
    | some n => header + n
    | none => 0

/-- The length up to and including the first `*/`. -/
def commentEnd? : List Char → Option Nat
  | '*' :: '/' :: _ => some 2
  | _ :: rest => (commentEnd? rest).map (· + 1)
  | [] => none

/-- The length of the token of the given kind at the start of the characters; zero if there is
none. -/
def Kind.lengthAt (k : Kind) (cs : List Char) : Nat :=
  match k with
  | .name => nameLength cs
  | .callName => callNameLength cs
  | .number => Decimal.literalLength cs
  | .digits => countWhile Char.isDigit cs
  | .textChars => textLength cs
  | .templateChars => templateLength cs
  | .heredoc => heredocLength cs
  | .blank => countWhile (fun c => isGap c || c == '\r' || c == '\x0c') cs
  | .lineComment =>
    match cs with
    | '#' :: rest => countWhile (· != '\n') rest + 1
    | '/' :: '/' :: rest => countWhile (· != '\n') rest + 2
    | _ => 0
  | .blockComment =>
    match cs with
    | '/' :: '*' :: rest => ((commentEnd? rest).map (· + 2)).getD 0
    | _ => 0
  | k => if k.spelling.isPrefixOf cs then k.spelling.length else 0

/-- The kinds in the order in which they are tried. -/
def Kind.order : List Kind :=
  [.callName, .textChars, .templateChars, .heredoc, .number, .name, .lineComment, .blockComment,
    .blank, .digits, .word .endLoop, .word .endCond, .word .otherwise, .word .loop, .word .cond,
    .within, .ellipsis, .operator .le, .operator .ge, .operator .lt, .operator .gt, .operator .eq,
    .operator .ne, .operator .and, .openDirective, .openInterp, .operator .or, .arrow, .bang,
    .colon, .comma, .dot, .equal, .openBrace, .openParen, .openBracket, .minus, .operator .rem,
    .operator .add, .question, .quote, .closeBrace, .closeParen, .closeBracket, .operator .div,
    .star, .strip, .newline]

/-- The first kind that the condition allows and that fits the characters, with the length of its
token. -/
def firstToken? (allowed : Kind → Bool) (cs : List Char) : Option (Kind × Nat) :=
  Kind.order.findSome? fun k =>
    if allowed k then
      match k.lengthAt cs with
      | 0 => none
      | n => some (k, n)
    else none

/-- The directive words and `in`, which are names unless the reader can accept them. -/
def Kind.ofWord? (text : List Char) : Option Kind :=
  [Kind.word .cond, .word .otherwise, .word .endCond, .word .loop, .within, .word .endLoop].find?
    fun k => k.spelling == text

/-- The kind of a name's token, which is a word where one is accepted. -/
def Kind.refine (accepted : List Kind) (k : Kind) (text : List Char) : Kind :=
  match k, Kind.ofWord? text with
  | .name, some found => if accepted.contains found then found else .name
  | k, _ => k

/-- The next token of the text where the kinds in `accepted` can stand; ignored kinds and newlines
are always possible. -/
def nextToken? (accepted : List Kind) (m : Mark) : Option Token :=
  (firstToken? (fun k => accepted.contains k || k.ignored || k == .newline) m.rest).map
    fun (k, n) =>
      let text := m.rest.take n
      ⟨k.refine accepted text, String.ofList text, m, m.offset + n⟩

/-- What the message shows where no accepted token fits: the token that would stand there if all
kinds were accepted, and the character if there is none. -/
def strayCause (inTemplate : Bool) (m : Mark) : ParseCause :=
  match firstToken? (fun k => !k.ignored && (inTemplate || k != .templateChars)) m.rest with
  | some (_, n) => .token (String.ofList (m.rest.take n))
  | none => .character (m.rest.headD ' ')

end ResourceTables.Native
