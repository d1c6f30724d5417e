import ResourceTables.Decimal.Arithmetic

/-!
# Results that are zero or one

Arithmetic fails when a result is too large or a remainder is not defined, but never when the result
is zero, nor when a number is divided by itself. So every operand has partners with which an
operation has a result:

* `exists_add_negate`, `exists_mul_of_isZero`, `exists_rem_of_isZero` and `exists_rem_self`, where
  the result is zero;
* `exists_div_of_isZero` and `exists_div_self`, where it is zero and one.
-/

namespace ResourceTables.Decimal

variable {a b d : Decimal}

/-! ## Zero and opposite numbers -/

theorem exists_of_isOk {x : Except ε α} (h : x.isOk) : ∃ r, x = .ok r := by
  cases x with
  | ok r => exact ⟨r, rfl⟩
  | error err => cases h

/-- Zero is never out of range. -/
theorem exists_round_of_isZero (h : d.isZero) : ∃ r, d.round = .ok r := by
  rw [round, if_pos h]
  exact ⟨_, rfl⟩

theorem coefficient_pos (h : d.isZero = false) : 0 < d.coefficient := by
  rw [isZero, beq_eq_false_iff_ne] at h
  omega

@[simp]
theorem isZero_negate (d : Decimal) : d.negate.isZero = d.isZero := rfl

@[simp]
theorem adjusted_negate (d : Decimal) : d.negate.adjusted = d.adjusted := rfl

@[simp]
theorem negate_negate (d : Decimal) : d.negate.negate = d := by
  cases d
  simp [negate]

theorem signedAt_negate (d : Decimal) (low : Int) : d.negate.signedAt low = -d.signedAt low := by
  cases h : d.negative <;> simp [signedAt, negate, h]

/-- The first digit of a number does not stand below its last digit. -/
theorem exponent_le_adjusted (d : Decimal) : d.exponent ≤ d.adjusted := by
  have hpos : 0 < digitCount d.coefficient := Nat.length_toDigits_pos
  unfold adjusted
  omega

/-- A number is not shortened beside one whose last digit does not stand above its own. -/
theorem shortened_of_exponent_le {big : Decimal} (h : big.exponent ≤ d.exponent) :
    shortened big d = d := by
  have hadjusted := exponent_le_adjusted d
  unfold shortened
  rw [if_pos]
  rw [Bool.or_eq_true, decide_eq_true_eq]
  right
  split <;> omega

/-! ## Operations with a result -/

/-- A number and its opposite add to zero. -/
theorem exists_add_negate (d : Decimal) : ∃ r, d.add d.negate = .ok r := by
  by_cases h : d.isZero
  · rw [add, if_pos (by simp [h])]
    exact exists_round_of_isZero rfl
  · rw [add, if_neg (by simp [h]), if_neg h, if_neg (by simpa using h)]
    have hshort : shortened d d.negate = d.negate :=
      shortened_of_exponent_le (Int.le_refl d.exponent)
    rw [adjusted_negate, if_neg (Int.lt_irrefl _), hshort]
    -- Both operands keep all their digits, so that the sum is exact before it is rounded.
    refine exists_round_of_isZero ?_
    simp [isZero, signedAt_negate, Int.add_right_neg]

/-- A product with zero is zero. -/
theorem exists_mul_of_isZero (h : a.isZero ∨ b.isZero) : ∃ r, a.mul b = .ok r := by
  refine exists_round_of_isZero ?_
  simpa [isZero, Nat.mul_eq_zero] using h

/-- Zero can be divided by every other number. -/
theorem exists_div_of_isZero (h : a.isZero) (hb : b.isZero = false) : ∃ r, a.div b = .ok r := by
  rw [div, if_neg (by simp [hb]), if_pos h]
  exact exists_round_of_isZero rfl

/-- A number other than zero divided by itself is one, whatever its size. -/
theorem exists_div_self (h : d.isZero = false) : ∃ r, d.div d = .ok r := by
  have hpos := coefficient_pos h
  -- The coefficient cancels, and what is left to round is the same for all numbers.
  have hone : ∀ shift : Nat, shift = 514 →
      ∃ r, round ⟨false, Nat.pow 10 shift * 10 + 0, 0 - shift - 1⟩ = .ok r := by
    rintro _ rfl
    exact exists_of_isOk (by decide +kernel)
  rw [div, if_neg (by simp [h]), if_neg (by simp [h])]
  generalize hshift : precision + 2 + digitCount d.coefficient - digitCount d.coefficient = shift
  simp only [Nat.mul_div_cancel_left _ hpos, Nat.mul_mod_right, Int.sub_self, bne_self_eq_false,
    if_pos]
  exact hone shift (hshift.symm.trans (Nat.add_sub_cancel ..))

/-- Zero divided by another number leaves nothing. -/
theorem exists_rem_of_isZero (h : a.isZero) (hb : b.isZero = false) : ∃ r, a.rem b = .ok r := by
  rw [rem, if_neg (by simp [hb]), if_pos h]
  exact exists_round_of_isZero h

/-- A number other than zero divided by itself leaves nothing. -/
theorem exists_rem_self (h : d.isZero = false) : ∃ r, d.rem d = .ok r := by
  have hpos := coefficient_pos h
  have hcompare : (compareAbs d d == .lt) = false := by
    simp [compareAbs, h]
  rw [rem, if_neg (by simp [h]), if_neg (by simp [h]), if_neg (by simp [hcompare]),
    if_neg (by simp [precision])]
  simp only [Int.min_self]
  have hscaled : 0 < d.coefficient * Nat.pow 10 (d.exponent - d.exponent).toNat :=
    Nat.mul_pos hpos (Nat.pow_pos (by decide))
  rw [Nat.div_self hscaled, Nat.mod_self, if_neg]
  · exact exists_round_of_isZero rfl
  · have hprecision : precision ≠ 0 := by decide
    rw [Nat.pow_eq, Nat.not_le]
    exact Nat.one_lt_pow hprecision (by decide)

end ResourceTables.Decimal
