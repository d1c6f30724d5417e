import ResourceTables.Config.Error
import ResourceTables.Text.Hex

/-!
# Escapes

What the literal characters of texts stand for. In quoted texts a backslash begins an escape; in
all templates a doubled `$` or `%` before a brace stands for the single one.
-/

namespace ResourceTables.Native

/-- Why the literal characters of a quoted text have no meaning. -/
inductive EscapeFault where
  /-- The backslash does not begin an escape. -/
  | unknown (sequence : String)
  /-- The escape names a code point without a character. -/
  | noCharacter
  deriving DecidableEq, Repr

/-- The character that stands for half of a pair of code units. -/
def unpaired : Char := '\uFFFD'

/-- The character with the code point that the digits write. -/
def charOfHex? (digits : List Char) : Option Char :=
  (Text.readHex? digits).bind fun n =>
    if n < 0x110000 then some (if n.isValidChar then Char.ofNat n else unpaired) else none

/-- Whether the first `n` characters are there and are hexadecimal digits. -/
def startsWithHex (n : Nat) (cs : List Char) : Bool :=
  (cs.take n).length == n && (cs.take n).all fun c => (Text.hexValue? c).isSome

/-- The escapes of one character, without their backslash. -/
def simpleEscape? : Char → Option Char
  | 'n' => some '\n'
  | 'r' => some '\r'
  | 't' => some '\t'
  | '"' => some '"'
  | '\\' => some '\\'
  | _ => none

/-- The meaning of the literal characters of a quoted text; `fuel` bounds the number of escapes and
characters. -/
def decodeQuotedFrom : Nat → List Char → Except EscapeFault (List Char)
  | 0, _ => .ok []
  | _, [] => .ok []
  | fuel + 1, '\\' :: c :: rest =>
    let width := if c = 'u' then 4 else if c = 'U' then 8 else 0
    if width ≠ 0 ∧ startsWithHex width rest then
      -- Enough digits stand there, but they may be those of no character.
      match charOfHex? (rest.take width) with
      | some c => (decodeQuotedFrom fuel (rest.drop width)).map (c :: ·)
      | none => .error .noCharacter
    else match simpleEscape? c with
      | some c => (decodeQuotedFrom fuel rest).map (c :: ·)
      | none => .error (.unknown (String.singleton c))
  | fuel + 1, '$' :: '$' :: '\x7b' :: rest =>
    (decodeQuotedFrom fuel rest).map ('$' :: '\x7b' :: ·)
  | fuel + 1, '%' :: '%' :: '\x7b' :: rest =>
    (decodeQuotedFrom fuel rest).map ('%' :: '\x7b' :: ·)
  | fuel + 1, c :: rest => (decodeQuotedFrom fuel rest).map (c :: ·)

/-- The meaning of the literal characters of a quoted text. -/
def decodeQuoted (cs : List Char) : Except EscapeFault (List Char) :=
  decodeQuotedFrom cs.length cs

/-- The meaning of the literal characters of a template that stands on its own. -/
def decodeTemplate : List Char → List Char
  | '$' :: '$' :: '\x7b' :: rest => '$' :: '\x7b' :: decodeTemplate rest
  | '%' :: '%' :: '\x7b' :: rest => '%' :: '\x7b' :: decodeTemplate rest
  | c :: rest => c :: decodeTemplate rest
  | [] => []

end ResourceTables.Native
