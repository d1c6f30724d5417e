import ResourceTables.Decimal.Binary64
import ResourceTables.Text.Blank
import ResourceTables.Text.Digit
import ResourceTables.Text.Lower
import ResourceTables.Yaml.Resolve

/-!
# The values of scalars

Which texts are numbers, truth values, dates and binary data, and which of these are void: zero,
false or empty.
-/

namespace ResourceTables.Yaml

/-- The truth value that the text writes. -/
def boolValue? (text : String) : Option Bool :=
  let word := Text.lower text
  if ["yes", "true", "on"].contains word then some true
  else if ["no", "false", "off"].contains word then some false
  else none

/-- The text without underscores. -/
def plainDigits (text : String) : List Char :=
  text.toList.filter (· != '_')

/-- The pieces between colons. -/
def colonParts : List Char → List (List Char)
  | [] => [[]]
  | c :: rest =>
    if c == ':' then [] :: colonParts rest
    else match colonParts rest with
      | piece :: pieces => (c :: piece) :: pieces
      | [] => [[c]]

/-- The letter behind the zero in front of the digits of a base. -/
def baseLetter? (base : Nat) : Option Char :=
  if base == 2 then some 'b' else if base == 8 then some 'o' else if base == 16 then some 'x'
  else none

/-- The digits behind the zero and the letter of the base, if they are there. -/
def dropBase (base : Nat) : List Char → List Char
  | '0' :: letter :: rest =>
    if (baseLetter? base).any (· == letter.toLower) then rest else '0' :: letter :: rest
  | cs => cs

/-- The number as it is read: without blanks around it, and in the digits of ASCII. -/
def readable (cs : List Char) : List Char :=
  (Text.trim (String.ofList cs)).toList.map fun c =>
    match Text.decimalDigit? c with
    | some digit => Char.ofNat ('0'.toNat + digit)
    | none => c

/-- The integer that digits of the base write, with a sign and blanks around it. -/
def digitsValue? (base : Nat) (cs : List Char) : Option Int :=
  let trimmed := readable cs
  let digits := dropBase base (dropSign trimmed)
  if digits.isEmpty || !digits.all (isDigitOf base) ||
      (base == 10 && maxIntDigits < digits.length) then none
  else
    let n : Int := digits.foldl (fun n c => base * n + (Text.hexValue? c).getD 0) 0
    some (if trimmed.head? == some '-' then -n else n)

/-- The integer that a scalar writes, in one of several bases or in groups of sixtieths. -/
def intValue? (text : String) : Option Int :=
  let cs := plainDigits text
  let unsigned := dropSign cs
  let value? := match unsigned with
    | [] => none
    | ['0'] => some 0
    | '0' :: 'b' :: rest => digitsValue? 2 rest
    | '0' :: 'x' :: rest => digitsValue? 16 rest
    | '0' :: _ => digitsValue? 8 unsigned
    | _ =>
      if unsigned.contains ':' then
        ((colonParts unsigned).mapM (digitsValue? 10)).map fun (parts : List Int) =>
          parts.foldl (fun n part => 60 * n + part) 0
      else digitsValue? 10 unsigned
  value?.map fun n => if cs.head? == some '-' then -n else n

/-- The number that a text writes, with a sign and blanks around it. -/
def floatPart? (cs : List Char) : Option Binary64 :=
  let trimmed := readable cs
  let negative := trimmed.head? == some '-'
  let unsigned := dropSign trimmed
  if ["inf", "infinity"].any (·.toList == unsigned) then some (.infinite negative)
  else if unsigned == "nan".toList then some .nan
  else
    let whole := unsigned.takeWhile isDigit
    let rest := unsigned.drop whole.length
    let fraction := match rest with
      | '.' :: after => after.takeWhile isDigit
      | _ => []
    let rest := match rest with
      | '.' :: after => after.drop fraction.length
      | _ => rest
    let isExponent := match rest with
      | [] => true
      | e :: after => e == 'e' && !(dropSign after).isEmpty && (dropSign after).all isDigit
    if (whole ++ fraction).isEmpty || !isExponent then none
    else
      let whole := if whole.isEmpty then ['0'] else whole
      some (.ofDecimal (Decimal.ofLiteral negative
        (whole ++ (if fraction.isEmpty then [] else '.' :: fraction) ++ rest)))

/-- The sum of numbers, the first of which counts `unit` and each further one sixty times as much as
the one before it, with every step rounded. Nothing is found where a unit is beyond all numbers; a
sum that is beyond them is an infinity. -/
def sixtiethsFrom (unit : Nat) (sum : Binary64) : List Binary64 → Option Binary64
  | [] => some sum
  | part :: rest => do
    let factor ← (Binary64.ofRatio false unit 1).units?
    let next : Option Binary64 := do
      let product ← (Binary64.ofUnits ((← part.units?) * (factor / Binary64.unitsOfOne))).units?
      return .ofUnits ((← sum.units?) + product)
    sixtiethsFrom (60 * unit) (next.getD (.infinite false)) rest

/-- Whether the number that a scalar writes is zero; nothing if it writes none. -/
def floatIsZero? (text : String) : Option Bool :=
  let unsigned := dropSign (Text.lower (String.ofList (plainDigits text))).toList
  if unsigned.isEmpty then none
  else if unsigned == ".inf".toList || unsigned == ".nan".toList then some false
  else do
    let parts ← (colonParts unsigned).mapM floatPart?
    let sum ← sixtiethsFrom 1 (.ofUnits 0) parts.reverse
    return sum.units? == some 0

/-! ## Binary data -/

/-- Whether the character is a digit of base sixty-four. -/
def isBase64 (c : Char) : Bool :=
  c.isAlphanum || c == '+' || c == '/'

/-- How the digits of base sixty-four end: how many there are, and whether the text may end there.
`pads` signs of padding have been seen in a row. Other characters do not count. -/
def base64Length (count pads : Nat) : List Char → Nat × Bool
  | [] => (count, count % 4 == 0)
  | c :: rest =>
    if c == '=' then
      if 2 ≤ count % 4 && 4 ≤ count % 4 + pads + 1 then (count, true)
      else base64Length count (if 2 ≤ count % 4 then pads + 1 else pads) rest
    else if isBase64 c then base64Length (count + 1) 0 rest
    else base64Length count pads rest

/-- Why characters outside of ASCII cannot be encoded. -/
def asciiReason (cs : List Char) : String :=
  let start := cs.findIdx (127 < ·.toNat)
  let found := (cs.drop start).takeWhile (127 < ·.toNat)
  (match found with
    | [c] =>
      let escape := if c.toNat < 0x100 then 'x' :: Text.hexDigits 2 c.toNat
        else if c.toNat < 0x10000 then 'u' :: Text.hexDigits 4 c.toNat
        else 'U' :: Text.hexDigits 8 c.toNat
      "'ascii' codec can't encode character '\\" ++ String.ofList escape ++ "' in position " ++
        toString start
    | _ => "'ascii' codec can't encode characters in position " ++ toString start ++ "-" ++
        toString (start + found.length - 1)) ++ ": ordinal not in range(128)"

/-- Whether binary data are empty, or what is wrong with them. -/
def binaryIsEmpty (text : String) : Except Problem Bool :=
  let cs := text.toList
  if cs.any (127 < ·.toNat) then .error (.notAscii (asciiReason cs))
  else
    let (count, ends) := base64Length 0 0 cs
    if ends then .ok (count == 0)
    else if count % 4 == 1 then
      .error (.notEncoded ("Invalid base64-encoded string: number of data characters (" ++
        toString count ++ ") cannot be 1 more than a multiple of 4"))
    else .error (.notEncoded "Incorrect padding")

end ResourceTables.Yaml
