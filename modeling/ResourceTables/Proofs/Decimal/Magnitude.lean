import Mathlib.Algebra.Order.Field.Power
import Mathlib.Data.Int.Log
import Mathlib.Data.List.Induction
import Mathlib.Data.Rat.Floor
import Mathlib.Tactic.Positivity
import Mathlib.Tactic.Ring
import ResourceTables.Decimal.Notation

/-!
# The magnitude of a decimal

The rational number that a decimal stands for, without its sign. What is computed from the digits of
a decimal is a fact about this number:

* `Decimal.log_magnitude`: the power of ten of the first digit is the logarithm;
* `Decimal.magnitude_lowest`: lowest terms keep it;
* `Decimal.natOfDigits_digitsOf`, `Decimal.natOfDigits_append`: the digits of a natural number write
  it, and a number is read digit by digit.
-/

namespace ResourceTables.Decimal

/-- The number without its sign. -/
def magnitude (d : Decimal) : Rat := d.coefficient * (10 : Rat) ^ d.exponent

variable {d : Decimal} {n k : Nat}

theorem magnitude_nonneg (d : Decimal) : 0 ≤ d.magnitude := by
  unfold magnitude
  positivity

theorem magnitude_pos (h : d.coefficient ≠ 0) : 0 < d.magnitude := by
  have hpos : 0 < d.coefficient := Nat.pos_of_ne_zero h
  unfold magnitude
  positivity

theorem magnitude_eq_zero_iff : d.magnitude = 0 ↔ d.coefficient = 0 := by
  constructor
  · intro h
    by_contra hne
    exact (magnitude_pos hne).ne' h
  · intro h
    rw [magnitude, h, Nat.cast_zero, zero_mul]

/-! ## Digits -/

theorem digitCount_pos (n : Nat) : 0 < digitCount n :=
  List.length_pos_iff.2 Nat.toDigits_ne_nil

/-- A natural number has more than `k` digits if it reaches `10 ^ k`. -/
theorem lt_digitCount_iff (hk : 0 < k) : k < digitCount n ↔ 10 ^ k ≤ n := by
  rw [← not_le, ← not_lt (a := n), digitCount, Nat.length_toDigits_le_iff (by decide) hk]

theorem lt_ten_pow_digitCount (n : Nat) : n < 10 ^ digitCount n :=
  (Nat.length_toDigits_le_iff (by decide) (digitCount_pos n)).1 (Nat.le_refl _)

theorem ten_pow_le_of_ne_zero (h : n ≠ 0) : 10 ^ (digitCount n - 1) ≤ n := by
  rcases Nat.eq_zero_or_pos (digitCount n - 1) with hzero | hpos
  · rw [hzero, pow_zero]
    exact Nat.pos_of_ne_zero h
  · exact (lt_digitCount_iff hpos).1 (Nat.sub_one_lt (digitCount_pos n).ne')

/-- The first digit of a number stands at the power of ten that is its logarithm. -/
theorem log_magnitude (h : d.coefficient ≠ 0) : Int.log 10 d.magnitude = d.adjusted := by
  have hpos := magnitude_pos h
  have hcount := digitCount_pos d.coefficient
  have hten : (0 : Rat) < 10 ^ d.exponent := by positivity
  -- The coefficient lies between the powers of ten that its digits tell.
  refine le_antisymm ?_ ?_
  · have hlt : (d.coefficient : Rat) < 10 ^ digitCount d.coefficient := by
      exact_mod_cast lt_ten_pow_digitCount d.coefficient
    refine Int.lt_add_one_iff.1 ((Int.lt_zpow_iff_log_lt (by decide) hpos).1 ?_)
    calc d.magnitude < (10 : Rat) ^ digitCount d.coefficient * 10 ^ d.exponent :=
          mul_lt_mul_of_pos_right hlt hten
      _ = ((10 : Nat) : Rat) ^ (d.adjusted + 1) := by
          rw [← zpow_natCast, ← zpow_add₀ (by norm_num), adjusted]
          norm_num
          ring_nf
  · have hle : (10 : Rat) ^ (digitCount d.coefficient - 1) ≤ d.coefficient := by
      exact_mod_cast ten_pow_le_of_ne_zero h
    refine (Int.zpow_le_iff_le_log (by decide) hpos).1 ?_
    calc ((10 : Nat) : Rat) ^ d.adjusted
        = (10 : Rat) ^ (digitCount d.coefficient - 1) * 10 ^ d.exponent := by
          rw [← zpow_natCast, ← zpow_add₀ (by norm_num), adjusted, Nat.cast_sub hcount]
          norm_num
          ring_nf
      _ ≤ d.magnitude := mul_le_mul_of_nonneg_right hle hten.le

/-! ## Lowest terms -/

theorem splitTens_eq (limit n : Nat) :
    (splitTens limit n).2 * 10 ^ (splitTens limit n).1 = n := by
  induction limit generalizing n with
  | zero => simp [splitTens]
  | succ limit ih =>
    rw [splitTens]
    split
    · next hmod =>
      have hdiv : n / 10 * 10 = n := Nat.div_mul_cancel (Nat.dvd_of_mod_eq_zero hmod)
      rw [pow_succ, ← mul_assoc, ih, hdiv]
    · simp

theorem magnitude_lowest (d : Decimal) : d.lowest.magnitude = d.magnitude := by
  unfold lowest
  split
  · next hzero =>
    have hcoefficient : d.coefficient = 0 := by simpa [isZero] using hzero
    rw [magnitude_eq_zero_iff.2 hcoefficient]
    exact magnitude_eq_zero_iff.2 rfl
  · obtain ⟨count, rest, hsplit⟩ : ∃ count rest,
        splitTens (digitCount d.coefficient) d.coefficient = (count, rest) := ⟨_, _, rfl⟩
    have heq : rest * 10 ^ count = d.coefficient := by
      have heq := splitTens_eq (digitCount d.coefficient) d.coefficient
      rwa [hsplit] at heq
    simp only [hsplit, magnitude]
    rw [← heq, zpow_add₀ (by norm_num), zpow_natCast]
    push_cast
    ring

@[simp]
theorem negative_lowest (d : Decimal) : d.lowest.negative = d.negative := by
  unfold lowest
  split <;> rfl

/-- Lowest terms take nothing off the exponent, except for zero. -/
theorem exponent_le_exponent_lowest (h : d.coefficient ≠ 0) : d.exponent ≤ d.lowest.exponent := by
  rw [lowest, if_neg (by simpa [isZero] using h)]
  exact Int.le_add_of_nonneg_right (Int.natCast_nonneg _)

/-! ## Reading digits -/

theorem natOfDigits_append_singleton (cs : List Char) (c : Char) :
    natOfDigits (cs ++ [c]) = 10 * natOfDigits cs + (c.toNat - 48) := by
  simp [natOfDigits]

theorem natOfDigits_append (cs ds : List Char) :
    natOfDigits (cs ++ ds) = natOfDigits cs * 10 ^ ds.length + natOfDigits ds := by
  induction ds using List.reverseRecOn with
  | nil => simp [natOfDigits]
  | append_singleton ds c ih =>
    rw [← List.append_assoc, natOfDigits_append_singleton, ih, natOfDigits_append_singleton,
      List.length_append, List.length_singleton, pow_succ]
    ring

theorem natOfDigits_replicate_zero (k : Nat) : natOfDigits (List.replicate k '0') = 0 := by
  induction k with
  | zero => rfl
  | succ k ih => rw [List.replicate_succ', natOfDigits_append_singleton, ih]; rfl

/-- The digits of a number write it. -/
theorem natOfDigits_digitsOf (n : Nat) : natOfDigits (digitsOf n) = n := by
  induction n using Nat.strong_induction_on with
  | _ n ih =>
    unfold digitsOf at ih ⊢
    rcases Nat.lt_or_ge n 10 with hlt | hle
    · rw [Nat.toDigits_of_lt_base hlt, ← List.nil_append [n.digitChar],
        natOfDigits_append_singleton, Nat.toNat_digitChar_sub_48_of_lt_ten hlt]
      exact Nat.zero_add n
    · rw [Nat.toDigits_of_base_le (by decide) hle, natOfDigits_append_singleton,
        ih _ (Nat.div_lt_self (by omega) (by decide)),
        Nat.toNat_digitChar_sub_48_of_lt_ten (Nat.mod_lt n (by decide))]
      exact Nat.div_add_mod n 10

end ResourceTables.Decimal
