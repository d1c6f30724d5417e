import ResourceTables.Text.Hex

/-!
# JSON strings

Writing and reading the characters between the quotes of a JSON string. Written strings are ASCII:
every other character becomes an escape, and one beyond the basic plane becomes two.
-/

namespace ResourceTables.Json

/-- The escape of a 16-bit unit. -/
def unitEscape (n : Nat) : List Char :=
  '\\' :: 'u' :: Text.hexDigits 4 n

/-- One character of a written string. -/
def encodeChar (c : Char) : List Char :=
  if c = '"' then ['\\', '"']
  else if c = '\\' then ['\\', '\\']
  else if c = '\n' then ['\\', 'n']
  else if c = '\r' then ['\\', 'r']
  else if c = '\t' then ['\\', 't']
  else if c = '\x0c' then ['\\', 'f']
  else if c = '\x08' then ['\\', 'b']
  else
    let n := c.toNat
    if 0x20 ≤ n ∧ n < 0x7F then [c]
    else if n < 0x10000 then unitEscape n
    else unitEscape (0xD800 + (n - 0x10000) / 0x400) ++ unitEscape (0xDC00 + (n - 0x10000) % 0x400)

/-- The text as a JSON string, with its quotes. -/
def encode (s : String) : List Char :=
  '"' :: s.toList.flatMap encodeChar ++ ['"']

/-- The value of the four hexadecimal digits at the start, and what follows them. -/
def unit? (cs : List Char) : Option (Nat × List Char) :=
  if (cs.take 4).length = 4 then (Text.readHex? (cs.take 4)).map (·, cs.drop 4) else none

/-- Whether the unit begins a pair for one character. -/
def isHighUnit (n : Nat) : Bool := 0xD800 ≤ n && n < 0xDC00

/-- Whether the unit ends a pair for one character. -/
def isLowUnit (n : Nat) : Bool := 0xDC00 ≤ n && n < 0xE000

/-- The character that stands for half of a pair without its other half. -/
def unpaired : Char := '\uFFFD'

/-- The character that a unit escape writes, given what follows its digits, and what follows the
escape: a high unit takes the low unit right behind it. -/
def unitChar (n : Nat) (rest : List Char) : Char × List Char :=
  if isHighUnit n then
    match rest with
    | '\\' :: 'u' :: more =>
      match unit? more with
      | some (low, after) =>
        if isLowUnit low then
          (Char.ofNat (0x10000 + (n - 0xD800) * 0x400 + (low - 0xDC00)), after)
        else (unpaired, rest)
      | none => (unpaired, rest)
    | _ => (unpaired, rest)
  else if isLowUnit n then (unpaired, rest)
  else (Char.ofNat n, rest)

/-- The escapes of one character, without their backslash. -/
def simpleEscape? : Char → Option Char
  | '"' => some '"'
  | '\\' => some '\\'
  | '/' => some '/'
  | 'b' => some '\x08'
  | 'f' => some '\x0c'
  | 'n' => some '\n'
  | 'r' => some '\r'
  | 't' => some '\t'
  | _ => none

/-- What can be wrong with the characters of a string. -/
inductive StringFault where
  /-- A control character that is not escaped. -/
  | control
  /-- A backslash that begins no escape. -/
  | escape
  /-- A unit escape without four hexadecimal digits. -/
  | unit
  /-- The string does not end. -/
  | unterminated
  deriving DecidableEq, Repr

/-- The fault in words. -/
def StringFault.text : StringFault → String
  | control => "Invalid control character at"
  | escape => "Invalid \\escape"
  | unit => "Invalid \\uXXXX escape"
  | unterminated => "Unterminated string starting at"

/-- The text of a string up to its closing quote, and what follows the quote, or the fault and the
number of characters from it to the end; `fuel` bounds the number of characters and escapes.
Control characters must be escaped. -/
def decodeFrom : Nat → List Char → Except (StringFault × Nat) (List Char × List Char)
  | 0, cs => .error (.unterminated, cs.length)
  | _, [] => .error (.unterminated, 0)
  | fuel + 1, c :: rest =>
    if c = '"' then .ok ([], rest)
    else if c = '\\' then
      match rest with
      | 'u' :: digits =>
        match unit? digits with
        | some (n, after) =>
          -- The unit may be the first of a pair, and then the second one is taken too.
          let (c, after) := unitChar n after
          (decodeFrom fuel after).map fun (cs, rest) => (c :: cs, rest)
        | none => .error (.unit, rest.length)
      | e :: after =>
        match simpleEscape? e with
        | some c => (decodeFrom fuel after).map fun (cs, rest) => (c :: cs, rest)
        | none => .error (.escape, rest.length + 1)
      | [] => .error (.unterminated, 0)
    else if c.toNat < 0x20 then .error (.control, rest.length + 1)
    else (decodeFrom fuel rest).map fun (cs, rest) => (c :: cs, rest)

/-- The text of a string whose opening quote has been read, and what follows its closing quote. -/
def decode (cs : List Char) : Except (StringFault × Nat) (List Char × List Char) :=
  decodeFrom cs.length cs

/-- The wording of a fault in the characters behind an opening quote: the fault, and its place when
the quote stands at the start of a text. -/
def faultText (fault : StringFault × Nat) (cs : List Char) : String :=
  let index := cs.length + 1 - fault.2
  fault.1.text ++ ": line 1 column " ++ toString (index + 1) ++ " (char " ++ toString index ++ ")"

end ResourceTables.Json
