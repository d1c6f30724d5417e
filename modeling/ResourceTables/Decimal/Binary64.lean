import ResourceTables.Decimal.Notation

/-!
# Binary floating point

The numbers of a table cell: 64-bit binary floating point, held exactly as a significand and a
power of two. A decimal is rounded to the nearest such number, ties to the even significand, and a
number is shown by the fewest digits that read back as itself.
-/

namespace ResourceTables

/-- A 64-bit binary floating point number. -/
inductive Binary64 where
  /-- The number `significand * 2 ^ exponent`, or its negative. The significand has 53 bits, or
  fewer at the smallest exponent. -/
  | finite (negative : Bool) (significand : Nat) (exponent : Int)
  /-- An infinity. -/
  | infinite (negative : Bool)
  /-- No number. -/
  | nan
  deriving DecidableEq, Repr, Inhabited

namespace Binary64

/-- The exponent of the smallest numbers. -/
def minExponent : Int := -1074

/-- The largest exponent of a finite number. -/
def maxExponent : Int := 971

/-- `num / den` rounded to an integer, halves to even. -/
def roundDiv (num den : Nat) : Nat :=
  let quotient := num / den
  let rest := num % den
  if 2 * rest < den then quotient
  else if den < 2 * rest then quotient + 1
  else quotient + quotient % 2

/-- The number nearest to the ratio `num / den`, both positive. -/
def ofRatio (negative : Bool) (num den : Nat) : Binary64 :=
  let bits : Int := (num.log2 : Int) - den.log2
  -- The ratio lies strictly between the powers of two at `bits - 1` and `bits + 1`.
  let low : Bool :=
    if 0 ≤ bits then num < den * Nat.pow 2 bits.toNat else num * Nat.pow 2 (-bits).toNat < den
  let top := if low then bits - 1 else bits
  let exponent := max (top - 52) minExponent
  let significand :=
    if 0 ≤ exponent then roundDiv num (den * Nat.pow 2 exponent.toNat)
    else roundDiv (num * Nat.pow 2 (-exponent).toNat) den
  let (significand, exponent) :=
    if significand = Nat.pow 2 53 then (Nat.pow 2 52, exponent + 1) else (significand, exponent)
  if maxExponent < exponent then .infinite negative else .finite negative significand exponent

/-- How many times the smallest positive number one is. -/
def unitsOfOne : Nat := Nat.pow 2 (-minExponent).toNat

/-- How many times the smallest positive number a finite number is. -/
def units? : Binary64 → Option Int
  | .finite negative significand exponent =>
    let n : Int := significand * Nat.pow 2 (exponent - minExponent).toNat
    some (if negative then -n else n)
  | _ => none

/-- The number nearest to `n` times the smallest positive one. -/
def ofUnits (n : Int) : Binary64 :=
  if n = 0 then .finite false 0 minExponent
  else ofRatio (n < 0) n.natAbs unitsOfOne

/-- The number nearest to the decimal; one that is too large becomes an infinity. -/
def ofDecimal (d : Decimal) : Binary64 :=
  if d.isZero || d.adjusted < -400 then .finite d.negative 0 minExponent
  else if 400 < d.adjusted then .infinite d.negative
  else if 0 ≤ d.exponent then ofRatio d.negative (d.coefficient * Nat.pow 10 d.exponent.toNat) 1
  else ofRatio d.negative d.coefficient (Nat.pow 10 (-d.exponent).toNat)

/-- The integer part of a finite number's magnitude, and whether nothing lies behind it. -/
def wholePart (significand : Nat) (exponent : Int) : Nat × Bool :=
  if 0 ≤ exponent then (significand * Nat.pow 2 exponent.toNat, true)
  else
    let unit := Nat.pow 2 (-exponent).toNat
    (significand / unit, significand % unit == 0)

/-- The exact decimal value of a finite number. -/
def exactDecimal (negative : Bool) (significand : Nat) (exponent : Int) : Decimal :=
  if 0 ≤ exponent then ⟨negative, significand * Nat.pow 2 exponent.toNat, 0⟩
  else ⟨negative, significand * Nat.pow 5 (-exponent).toNat, exponent⟩

/-- The multiples of a power of ten just below and above the magnitude of the decimal `exact`, the
nearer one first. -/
def neighbours (exact : Decimal) (unit : Int) : List Decimal :=
  let shift := (unit - exact.exponent).toNat
  let below := exact.coefficient / Nat.pow 10 shift
  let rest := exact.coefficient % Nat.pow 10 shift
  let lower : Decimal := ⟨exact.negative, below, unit⟩
  let upper : Decimal := ⟨exact.negative, below + 1, unit⟩
  if 2 * rest < Nat.pow 10 shift || (2 * rest == Nat.pow 10 shift && below % 2 == 0) then
    [lower, upper]
  else [upper, lower]

/-- The decimal with the fewest digits, from `digits` on, that is nearest to `target`; `fuel`
bounds how many more digits are tried before the exact value is taken. -/
def shortestFrom (target : Binary64) (exact : Decimal) : Nat → Nat → Decimal
  | 0, _ => exact
  | fuel + 1, digits =>
    let unit := exact.adjusted - digits + 1
    if unit ≤ exact.exponent then exact
    else match (neighbours exact unit).find? (ofDecimal · == target) with
      | some d => d
      | none => shortestFrom target exact fuel (digits + 1)

/-- The decimal with the fewest digits that reads back as the finite number. -/
def shortest (negative : Bool) (significand : Nat) (exponent : Int) : Decimal :=
  (shortestFrom (.finite negative significand exponent)
    (exactDecimal negative significand exponent) 17 1).lowest

/-- How a shortest decimal is laid out. -/
structure Layout where
  /-- The smallest power of ten of the first digit that is still written positionally. -/
  lowestPositional : Int
  /-- The first power of ten of the first digit that is no longer written positionally. -/
  firstScientific : Int
  /-- The least number of digits of an exponent. -/
  exponentDigits : Nat

/-- Positional from `10 ^ (-4)` up to below `10 ^ 16`; exponents have a sign and two digits. -/
def layout : Layout := ⟨-4, 16, 2⟩

/-- The decimal, in lowest terms, as the layout shows it. -/
def Layout.show (l : Layout) (d : Decimal) : String :=
  let digits := Decimal.digitsOf d.coefficient
  let sign := if d.negative then ['-'] else []
  let body :=
    if l.lowestPositional ≤ d.adjusted ∧ d.adjusted < l.firstScientific then
      -- A whole number is shown with a zero behind its point.
      if 0 ≤ d.exponent then digits ++ List.replicate d.exponent.toNat '0' ++ ['.', '0']
      else Decimal.withPoint digits (-d.exponent).toNat
    else
      let power := Decimal.digitsOf d.adjusted.natAbs
      let mantissa := match digits with
        | [first] => [first]
        | first :: rest => first :: '.' :: rest
        | [] => []
      mantissa ++ 'e' :: (if d.adjusted < 0 then '-' else '+') ::
        (List.replicate (l.exponentDigits - power.length) '0' ++ power)
  String.ofList (sign ++ body)

/-- The shortest text that reads back as the number. -/
def text : Binary64 → String
  | .finite negative significand exponent =>
    if significand = 0 then (if negative then "-0.0" else "0.0")
    else layout.show (shortest negative significand exponent)
  | .infinite negative => if negative then "-inf" else "inf"
  | .nan => "nan"

/-- Integers below this bound are shown without a fraction or exponent. -/
def plainBound : Nat := Nat.pow 10 21

/-- The text in a table: an integer of moderate size is shown as an integer. -/
def display (x : Binary64) : String :=
  match x with
  | .finite negative significand exponent =>
    let (whole, integral) := wholePart significand exponent
    if integral && whole < plainBound then
      (if negative && whole != 0 then "-" else "") ++ toString whole
    else x.text
  | _ => x.text

/-- The number that the text writes: a literal with an optional sign, or the name of an infinity or
of no number. -/
def ofText? (s : String) : Option Binary64 :=
  match s with
  | "inf" => some (.infinite false)
  | "-inf" => some (.infinite true)
  | "nan" => some .nan
  | _ => (Decimal.ofText? s).map ofDecimal

end Binary64

end ResourceTables
