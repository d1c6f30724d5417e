import ResourceTables.Text.Hex

/-!
# Text files

Files hold texts in UTF-8. A text that is read has a plain newline wherever the file has a carriage
return, alone or with a newline behind it.
-/

namespace ResourceTables.Encoding

/-- The text with plain newlines only. -/
def plainNewlines : List Char → List Char
  | '\r' :: '\n' :: rest => '\n' :: plainNewlines rest
  | '\r' :: rest => '\n' :: plainNewlines rest
  | c :: rest => c :: plainNewlines rest
  | [] => []

/-- Why bytes are no UTF-8. -/
inductive ByteFault where
  /-- A byte that begins no character. -/
  | start
  /-- A byte that does not continue the character begun before it. -/
  | continuation
  /-- The bytes end within a character. -/
  | ending
  deriving DecidableEq, Repr

/-- The fault in words. -/
def ByteFault.text : ByteFault → String
  | start => "invalid start byte"
  | continuation => "invalid continuation byte"
  | ending => "unexpected end of data"

/-- How many bytes the character takes that begins with the byte `b`, with the least and the
greatest byte that may come second; nothing if no character begins with it. -/
def shape? (b : Nat) : Option (Nat × Nat × Nat) :=
  if b < 0x80 then some (1, 0, 0)
  else if 0xC2 ≤ b ∧ b ≤ 0xDF then some (2, 0x80, 0xBF)
  else if b = 0xE0 then some (3, 0xA0, 0xBF)
  else if b = 0xED then some (3, 0x80, 0x9F)
  else if 0xE1 ≤ b ∧ b ≤ 0xEF then some (3, 0x80, 0xBF)
  else if b = 0xF0 then some (4, 0x90, 0xBF)
  else if 0xF1 ≤ b ∧ b ≤ 0xF3 then some (4, 0x80, 0xBF)
  else if b = 0xF4 then some (4, 0x80, 0x8F)
  else none

/-- How many of the bytes behind the first one continue its character: at most `missing`, and the
next of them between `low` and `high`. -/
def continued : Nat → Nat → Nat → List Nat → Nat
  | 0, _, _, _ => 0
  | _, _, _, [] => 0
  | missing + 1, low, high, b :: rest =>
    if low ≤ b ∧ b ≤ high then continued missing 0x80 0xBF rest + 1 else 0

/-- The first fault in the bytes from the offset `index` on: what it is, where it begins, and how
many bytes it takes. `skip` bytes belong to the character before. -/
def faultFrom (skip index : Nat) : List Nat → Option (ByteFault × Nat × Nat)
  | [] => none
  | b :: rest =>
    match skip with
    | skip + 1 => faultFrom skip (index + 1) rest
    | 0 =>
      match shape? b with
      | none => some (.start, index, 1)
      | some (length, low, high) =>
        let found := continued (length - 1) low high rest
        if found = length - 1 then faultFrom (length - 1) (index + 1) rest
        else if rest.length = found then some (.ending, index, found + 1)
        else some (.continuation, index, found + 1)

/-- The wording of a fault in the bytes. -/
def describe (bytes : List Nat) : ByteFault × Nat × Nat → String
  | (fault, index, length) =>
    let start := "'utf-8' codec can't decode "
    (if length = 1 then
      start ++ "byte 0x" ++ String.ofList (Text.hexDigits 2 (bytes.getD index 0)) ++
        " in position " ++ toString index
    else
      start ++ "bytes in position " ++ toString index ++ "-" ++ toString (index + length - 1)) ++
      ": " ++ fault.text

/-- The text that the bytes of a file hold, or the wording of what is wrong with them. -/
def decode (bytes : ByteArray) : Except String String :=
  match String.fromUTF8? bytes with
  | some s => .ok (String.ofList (plainNewlines s.toList))
  | none =>
    let bytes := bytes.toList.map UInt8.toNat
    .error (((faultFrom 0 0 bytes).map (describe bytes)).getD "")

end ResourceTables.Encoding
