import ResourceTables.Decimal.Basic

/-!
# Decimal arithmetic

The operations of the expression language on decimals. Each gives the exact result rounded once to
512 significant digits, halves to even. A result whose first digit would stand above `10 ^ 999999`
is out of range; one below `10 ^ (-999999)` keeps fewer digits, down to none.
-/

namespace ResourceTables.Decimal

/-- How many significant digits a result keeps. -/
def precision : Nat := 512

/-- The largest power of ten at which a result may have its first digit. -/
def emax : Int := 999999

/-- The smallest power of ten at which a result with all its digits may have its first digit. -/
def emin : Int := -999999

/-- The smallest power of ten at which a result may have its last digit. -/
def etiny : Int := emin - precision + 1

/-- Why an operation has no result. -/
inductive Fault where
  /-- The result is too large. -/
  | outOfRange
  /-- The operation is not defined on the operands. -/
  | invalid
  deriving DecidableEq, Repr

/-- `n / 10 ^ k` rounded to an integer, halves to even. -/
def roundHalfEven (n k : Nat) : Nat :=
  if digitCount n + 1 < k then 0
  else
    let unit := Nat.pow 10 k
    let quotient := n / unit
    let rest := n % unit
    if 2 * rest < unit then quotient
    else if unit < 2 * rest then quotient + 1
    else quotient + quotient % 2

/-- The number rounded to the digits that a result keeps. -/
def round (d : Decimal) : Except Fault Decimal :=
  if d.isZero then .ok ⟨d.negative, 0, max etiny (min d.exponent emax)⟩
  else
    let last := max (d.adjusted - precision + 1) etiny
    let rounded : Decimal :=
      if last ≤ d.exponent then d
      else ⟨d.negative, roundHalfEven d.coefficient (last - d.exponent).toNat, last⟩
    if !rounded.isZero && emax < rounded.adjusted then .error .outOfRange else .ok rounded

/-- The coefficient of the number at the power of ten `low`, with its sign. -/
def signedAt (d : Decimal) (low : Int) : Int :=
  let magnitude : Nat := d.coefficient * Nat.pow 10 (d.exponent - low).toNat
  if d.negative then -magnitude else magnitude

/-- The small operand of a sum, made short: far below the last digit that a sum with `big` keeps,
only its sign can still decide the rounding, so one digit there stands for it. -/
def shortened (big small : Decimal) : Decimal :=
  let spare : Int := if precision < digitCount big.coefficient then 0
    else (digitCount big.coefficient : Int) - precision - 1
  let floor := big.exponent - 1 + spare
  if small.isZero || floor ≤ small.adjusted then small else ⟨small.negative, 1, floor⟩

/-- The sum of two numbers. An exact zero is positive unless both operands are negative. -/
def add (a b : Decimal) : Except Fault Decimal :=
  if a.isZero && b.isZero then
    round ⟨a.negative && b.negative, 0, min a.exponent b.exponent⟩
  else if a.isZero then round b
  else if b.isZero then round a
  else
    let (a, b) := if a.adjusted < b.adjusted then (shortened b a, b) else (a, shortened a b)
    let low := min a.exponent b.exponent
    let sum := signedAt a low + signedAt b low
    round ⟨sum < 0, sum.natAbs, low⟩

/-- The number with the opposite sign. -/
def negate (d : Decimal) : Decimal := ⟨!d.negative, d.coefficient, d.exponent⟩

/-- The difference of two numbers. -/
def sub (a b : Decimal) : Except Fault Decimal :=
  add a b.negate

/-- The product of two numbers. -/
def mul (a b : Decimal) : Except Fault Decimal :=
  round ⟨a.negative != b.negative, a.coefficient * b.coefficient, a.exponent + b.exponent⟩

/-- The quotient of two numbers. It is computed to two digits more than a result keeps, and one
more digit records whether anything is left over. -/
def div (a b : Decimal) : Except Fault Decimal :=
  let negative := a.negative != b.negative
  if b.isZero then .error .invalid
  else if a.isZero then round ⟨negative, 0, a.exponent - b.exponent⟩
  else
    let shift := precision + 2 + digitCount b.coefficient - digitCount a.coefficient
    let dividend := a.coefficient * Nat.pow 10 shift
    let quotient := dividend / b.coefficient
    let rest := if dividend % b.coefficient = 0 then 0 else 1
    round ⟨negative, quotient * 10 + rest, a.exponent - b.exponent - shift - 1⟩

/-- The remainder of the division toward zero, with the sign of the dividend. It is not defined
when the integer quotient has more digits than a result keeps. -/
def rem (a b : Decimal) : Except Fault Decimal :=
  if b.isZero then .error .invalid
  else if a.isZero then round a
  else if compareAbs a b == .lt then round a
  else if precision < a.adjusted - b.adjusted then .error .invalid
  else
    let low := min a.exponent b.exponent
    let dividend := a.coefficient * Nat.pow 10 (a.exponent - low).toNat
    let divisor := b.coefficient * Nat.pow 10 (b.exponent - low).toNat
    if Nat.pow 10 precision ≤ dividend / divisor then .error .invalid
    else round ⟨a.negative, dividend % divisor, low⟩

/-- The negative of a number, rounded; a zero loses its sign. -/
def neg (d : Decimal) : Except Fault Decimal :=
  if d.isZero then round ⟨false, 0, d.exponent⟩ else round d.negate

end ResourceTables.Decimal
