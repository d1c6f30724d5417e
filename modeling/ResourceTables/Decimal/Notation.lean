import ResourceTables.Decimal.Arithmetic

/-!
# Writing and reading decimals

Positional notation, in which numbers become texts, and the notation of number literals with an
optional fraction and exponent.
-/

namespace ResourceTables.Decimal

/-- The digits of a natural number. -/
def digitsOf (n : Nat) : List Char :=
  Nat.toDigits 10 n

/-- The digits with a point that leaves `places` of them behind it; at least one digit stands
before the point. -/
def withPoint (digits : List Char) (places : Nat) : List Char :=
  if places = 0 then digits
  else
    let padded := List.replicate (places + 1 - digits.length) '0' ++ digits
    padded.take (padded.length - places) ++ '.' :: padded.drop (padded.length - places)

/-- The number in positional notation, in lowest terms. -/
def positional (d : Decimal) : String :=
  let d := d.lowest
  let digits := digitsOf d.coefficient
  let body :=
    if 0 ≤ d.exponent then digits ++ List.replicate d.exponent.toNat '0'
    else withPoint digits (-d.exponent).toNat
  String.ofList (if d.negative then '-' :: body else body)

/-- The text of a number: positional notation, where a number with a fraction is first rounded to
the digits that a result of arithmetic keeps. -/
def text (d : Decimal) : String :=
  if d.isIntegral then d.positional
  else match d.round with
    | .ok rounded => rounded.positional
    | .error _ => d.positional

/-- The digits at the start, and the rest. -/
def spanDigits (cs : List Char) : List Char × List Char :=
  cs.span Char.isDigit

/-- The number that a list of digits writes. -/
def natOfDigits (cs : List Char) : Nat :=
  cs.foldl (fun n c => 10 * n + (c.toNat - 48)) 0

/-- How many characters at the start write a number without a sign: digits, then a point with
digits and an exponent with digits where they follow. -/
def literalLength (cs : List Char) : Nat :=
  let (whole, rest) := spanDigits cs
  if whole.isEmpty then 0
  else
    let fraction := match rest with
      | '.' :: after =>
        let digits := (spanDigits after).1.length
        if digits = 0 then 0 else digits + 1
      | _ => 0
    -- A point without digits behind it is not part of the number, nor is the letter of an exponent.
    let rest := rest.drop fraction
    let exponent := match rest with
      | e :: after =>
        if e = 'e' ∨ e = 'E' then
          let sign := match after with
            | s :: _ => if s = '+' ∨ s = '-' then 1 else 0
            | [] => 0
          let digits := (spanDigits (after.drop sign)).1.length
          if digits = 0 then 0 else 1 + sign + digits
        else 0
      | [] => 0
    whole.length + fraction + exponent

/-- The number that a literal writes, with the sign `negative`. -/
def ofLiteral (negative : Bool) (cs : List Char) : Decimal :=
  let (whole, rest) := spanDigits cs
  let (fraction, rest) := match rest with
    | '.' :: after => spanDigits after
    | _ => ([], rest)
  let exponent : Int := match rest with
    | _ :: '-' :: digits => -(natOfDigits digits : Int)
    | _ :: '+' :: digits => natOfDigits digits
    | _ :: digits => natOfDigits digits
    | [] => 0
  ⟨negative, natOfDigits (whole ++ fraction), exponent - fraction.length⟩

/-- The number that the text writes: an optional minus sign and a literal, and nothing else but one
newline at the end. -/
def ofText? (s : String) : Option Decimal :=
  let (negative, cs) := match s.toList with
    | '-' :: cs => (true, cs)
    | cs => (false, cs)
  let length := literalLength cs
  if length = 0 then none
  else match cs.drop length with
    | [] => some (ofLiteral negative (cs.take length))
    | ['\n'] => some (ofLiteral negative (cs.take length))
    | _ => none

end ResourceTables.Decimal
