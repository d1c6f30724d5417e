import ResourceTables.Json.DocumentReader
import ResourceTables.Native.Token

/-!
# Tokens of JSON configurations

A JSON configuration is cut into tokens without looking at what they mean; what stands between the
quotes of a string is decoded later.
-/

namespace ResourceTables.Json

open Native (Mark)

/-- The kinds of tokens. -/
inductive Kind where
  | openBrace | closeBrace | openBracket | closeBracket | colon | comma
  | string | number | true | false | null
  deriving DecidableEq, Repr, Inhabited

/-- A token with its place. -/
structure Token where
  /-- What kind of token it is. -/
  kind : Kind
  /-- Where it begins. -/
  start : Mark
  /-- The offset after its last character. -/
  stop : Nat
  deriving Inhabited

/-- The characters of the token. -/
def Token.chars (t : Token) : List Char :=
  t.start.rest.take (t.stop - t.start.offset)

/-- White space between tokens. -/
def isSpace (c : Char) : Bool :=
  c == ' ' || c == '\t' || c == '\x0c' || c == '\r' || c == '\n'

/-- The length of the string at the start up to its closing quote, which is not escaped and stands
on the same line. The opening quote has been read. -/
def stringLength? : List Char → Option Nat
  | '"' :: _ => some 1
  | '\\' :: c :: rest => if c = '\n' then none else (stringLength? rest).map (· + 2)
  | c :: rest => if c = '\n' then none else (stringLength? rest).map (· + 1)
  | [] => none

/-- The length of the number at the start, or zero. -/
def numberLength (cs : List Char) : Nat :=
  let whole := Document.integerLength cs
  if whole = 0 then 0
  else
    let fraction := Document.fractionLength (cs.drop whole)
    whole + fraction + Document.exponentLength (cs.drop (whole + fraction))

/-- The kind and the length of the token at the start. -/
def tokenAt? (cs : List Char) : Option (Kind × Nat) :=
  match cs with
  | '\x7b' :: _ => some (.openBrace, 1)
  | '\x7d' :: _ => some (.closeBrace, 1)
  | '[' :: _ => some (.openBracket, 1)
  | ']' :: _ => some (.closeBracket, 1)
  | ':' :: _ => some (.colon, 1)
  | ',' :: _ => some (.comma, 1)
  | '"' :: rest => (stringLength? rest).map fun n => (.string, n + 1)
  | 't' :: 'r' :: 'u' :: 'e' :: _ => some (.true, 4)
  | 'f' :: 'a' :: 'l' :: 's' :: 'e' :: _ => some (.false, 5)
  | 'n' :: 'u' :: 'l' :: 'l' :: _ => some (.null, 4)
  | cs =>
    match numberLength cs with
    | 0 => none
    | n => some (.number, n)

/-- A token, or the place of characters that are none. -/
abbrev Piece := Mark ⊕ Token

/-- The tokens of a text, up to the first characters that are no token. Each piece takes at least
one character, so `fuel` above the length of the text is never used up. -/
def pieces : Nat → Mark → List Piece
  | 0, _ => []
  | fuel + 1, m =>
    let m := m.advance (m.rest.takeWhile isSpace).length
    if m.rest.isEmpty then []
    else match tokenAt? m.rest with
      | none => [.inl m]
      | some (kind, n) => .inr ⟨kind, m, m.offset + n⟩ :: pieces fuel (m.advance n)

end ResourceTables.Json
