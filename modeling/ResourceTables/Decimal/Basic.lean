/-!
# Decimals

Exact decimal numbers: a sign, a coefficient and a power of ten. Two decimals may write one number
in different ways, so they are compared by `Decimal.compare` and shown in lowest terms. Zero keeps
its sign.
-/

namespace ResourceTables

/-- The number `coefficient * 10 ^ exponent`, or its negative. -/
structure Decimal where
  /-- Whether the number is written with a minus sign. -/
  negative : Bool
  /-- The digits, read as one integer. -/
  coefficient : Nat
  /-- The power of ten that the coefficient is multiplied by. -/
  exponent : Int
  deriving DecidableEq, Repr, Inhabited

namespace Decimal

/-- How many digits the natural number has in base ten. -/
def digitCount (n : Nat) : Nat :=
  (Nat.toDigits 10 n).length

/-- The natural number as a decimal. -/
def ofNat (n : Nat) : Decimal := ⟨false, n, 0⟩

/-- The integer as a decimal. -/
def ofInt (n : Int) : Decimal := ⟨n < 0, n.natAbs, 0⟩

/-- Whether the number is zero, with either sign. -/
def isZero (d : Decimal) : Bool :=
  d.coefficient == 0

/-- The power of ten of the first digit. -/
def adjusted (d : Decimal) : Int :=
  d.exponent + digitCount d.coefficient - 1

/-- How often ten divides `n`, counted up to `limit`, together with what is left of `n`. -/
def splitTens : Nat → Nat → Nat × Nat
  | 0, n => (0, n)
  | limit + 1, n =>
    if n % 10 = 0 then
      let (count, rest) := splitTens limit (n / 10)
      (count + 1, rest)
    else (0, n)

/-- The same number with the shortest coefficient, and with exponent zero when it is zero. -/
def lowest (d : Decimal) : Decimal :=
  if d.isZero then ⟨d.negative, 0, 0⟩
  else
    let (count, rest) := splitTens (digitCount d.coefficient) d.coefficient
    ⟨d.negative, rest, d.exponent + count⟩

/-- The order of the numbers without their signs. The first digits decide when they stand at
different powers of ten, so no power larger than the number of digits is ever formed. -/
def compareAbs (a b : Decimal) : Ordering :=
  if a.isZero || b.isZero then Ord.compare a.coefficient b.coefficient
  else match Ord.compare a.adjusted b.adjusted with
    | .eq =>
      let low := min a.exponent b.exponent
      Ord.compare (a.coefficient * Nat.pow 10 (a.exponent - low).toNat)
        (b.coefficient * Nat.pow 10 (b.exponent - low).toNat)
    | other => other

/-- The order of the numbers; zeros of both signs are equal. -/
def compare (a b : Decimal) : Ordering :=
  if a.isZero && b.isZero then .eq
  else if a.isZero then (if b.negative then .gt else .lt)
  else if b.isZero then (if a.negative then .lt else .gt)
  else match a.negative, b.negative with
    | false, false => compareAbs a b
    | true, true => compareAbs b a
    | false, true => .gt
    | true, false => .lt

/-- Whether the two decimals are the same number. -/
def sameAs (a b : Decimal) : Bool :=
  a.compare b == .eq

/-- Whether the number is an integer. -/
def isIntegral (d : Decimal) : Bool :=
  0 ≤ d.lowest.exponent

/-- The integer part of the number. -/
def toInt (d : Decimal) : Int :=
  let magnitude : Nat :=
    if 0 ≤ d.exponent then d.coefficient * Nat.pow 10 d.exponent.toNat
    else d.coefficient / Nat.pow 10 (-d.exponent).toNat
  if d.negative then -magnitude else magnitude

/-- The largest power of ten at which a literal may have its first digit. -/
def maxAdjusted : Int := 999999999999999999

/-- The smallest power of ten at which a literal may have its last digit. -/
def minExponent : Int := -1999999999999999997

/-- Whether a literal may write the decimal. -/
def withinLimits (d : Decimal) : Bool :=
  minExponent ≤ d.exponent &&
    (if d.isZero then d.exponent else d.adjusted) ≤ maxAdjusted

end Decimal

end ResourceTables
