import Mathlib.Algebra.Order.Floor.Semifield
import Mathlib.Tactic.FieldSimp
import ResourceTables.Decimal.Binary64
import ResourceTables.Proofs.Decimal.Magnitude

/-!
# Rounding to binary floating point

A decimal is rounded to the binary floating point number nearest to its magnitude. That number does
not depend on how the decimal is written, and every finite number is nearest to itself. The decimal
with the fewest digits that a finite number is shown by is rounded back to the number.

* `Binary64.nearest`: the number nearest to a rational one;
* `Binary64.ofRatio_eq`, `Binary64.ofDecimal_eq`: this is what is computed with integers;
* `Binary64.IsProper`: the significand and the exponent of a finite number are in their ranges;
* `Binary64.isProper_ofDecimal`: what a decimal is rounded to is such a number;
* `Binary64.nearest_of_isProper`: rounding changes no such number;
* `Binary64.ofDecimal_congr`: rounding does not depend on how a decimal is written;
* `Binary64.ofDecimal_exactDecimal`: the exact value of a number is rounded to it;
* `Binary64.shortest_readsAs`: so is its shortest decimal, which is not far below it.
-/

namespace ResourceTables.Binary64

section Nearest

variable {negative : Bool} {num den s n : Nat} {e : Int} {q : Rat}

/-! ## Integers -/

/-- The natural number nearest to the rational one, halves to even. -/
def roundRat (q : Rat) : Nat :=
  let below := ⌊q⌋₊
  if 2 * (q - below) < 1 then below
  else if 1 < 2 * (q - below) then below + 1
  else below + below % 2

theorem roundDiv_eq (hden : 0 < den) : roundDiv num den = roundRat (num / den) := by
  have hpos : (0 : Rat) < den := by exact_mod_cast hden
  have hrest : (num / den : Rat) - (num / den : Nat) = (num % den : Nat) / den := by
    rw [eq_div_iff hpos.ne', sub_mul, div_mul_cancel₀ _ hpos.ne', sub_eq_iff_eq_add]
    exact_mod_cast (Nat.mod_add_div' num den).symm
  have hlow : 2 * ((num % den : Nat) / den : Rat) < 1 ↔ 2 * (num % den) < den := by
    rw [← mul_div_assoc, div_lt_one hpos]
    exact_mod_cast Iff.rfl
  have hhigh : 1 < 2 * ((num % den : Nat) / den : Rat) ↔ den < 2 * (num % den) := by
    rw [← mul_div_assoc, one_lt_div hpos]
    exact_mod_cast Iff.rfl
  simp only [roundDiv, roundRat, Nat.floor_div_eq_div, hrest, hlow, hhigh]

@[simp]
theorem roundRat_natCast (n : Nat) : roundRat n = n := by
  simp [roundRat]

/-- Whether a ratio is below a power of two is seen without fractions. -/
theorem lt_two_pow_eq (hnum : 0 < num) (hden : 0 < den) :
    (if 0 ≤ e then decide (num < den * Nat.pow 2 e.toNat)
        else decide (num * Nat.pow 2 (-e).toNat < den)) =
      decide (Int.log 2 (num / den : Rat) < e) := by
  have hden' : (0 : Rat) < den := by exact_mod_cast hden
  have hnum' : (0 : Rat) < num := by exact_mod_cast hnum
  simp only [← Int.lt_zpow_iff_log_lt (by decide : 1 < 2) (div_pos hnum' hden'),
    div_lt_iff₀ hden']
  split
  · next hsign =>
    obtain ⟨k, rfl⟩ := Int.eq_ofNat_of_zero_le hsign
    refine decide_eq_decide.2 ?_
    rw [Int.toNat_natCast, zpow_natCast, mul_comm, Nat.pow_eq]
    exact_mod_cast Iff.rfl
  · next hsign =>
    obtain ⟨k, rfl⟩ : ∃ k : Nat, e = -k := ⟨(-e).toNat, by omega⟩
    refine decide_eq_decide.2 ?_
    rw [neg_neg, Int.toNat_natCast, zpow_neg, zpow_natCast, ← div_eq_inv_mul,
      lt_div_iff₀ (by positivity), Nat.pow_eq]
    exact_mod_cast Iff.rfl

/-- A ratio divided by a power of two, without fractions. -/
theorem roundRat_div_two_pow (hden : 0 < den) :
    (if 0 ≤ e then roundDiv num (den * Nat.pow 2 e.toNat)
      else roundDiv (num * Nat.pow 2 (-e).toNat) den) = roundRat (num / den / 2 ^ e) := by
  split
  · next hsign =>
    obtain ⟨k, rfl⟩ := Int.eq_ofNat_of_zero_le hsign
    have hpos : 0 < den * Nat.pow 2 k := Nat.mul_pos hden (Nat.two_pow_pos k)
    rw [Int.toNat_natCast, roundDiv_eq hpos, zpow_natCast, Nat.pow_eq, Nat.cast_mul, Nat.cast_pow,
      Nat.cast_ofNat, div_div]
  · next hsign =>
    obtain ⟨k, rfl⟩ : ∃ k : Nat, e = -k := ⟨(-e).toNat, by omega⟩
    rw [roundDiv_eq hden, neg_neg, Int.toNat_natCast, zpow_neg, zpow_natCast, div_inv_eq_mul,
      Nat.pow_eq, Nat.cast_mul, Nat.cast_pow, Nat.cast_ofNat, div_mul_eq_mul_div]

/-- The lengths of two numbers say how large their ratio is, up to a factor of two. -/
theorem log_ratio_bounds (hnum : 0 < num) (hden : 0 < den) :
    (num.log2 : Int) - den.log2 - 1 ≤ Int.log 2 (num / den : Rat) ∧
      Int.log 2 (num / den : Rat) ≤ (num.log2 : Int) - den.log2 := by
  have hden' : (0 : Rat) < den := by exact_mod_cast hden
  have hnum' : (0 : Rat) < num := by exact_mod_cast hnum
  have hratio := div_pos hnum' hden'
  have hnumLow : (2 : Rat) ^ num.log2 ≤ num := by exact_mod_cast Nat.log2_self_le hnum.ne'
  have hnumHigh : (num : Rat) < 2 ^ (num.log2 + 1) := by exact_mod_cast Nat.lt_log2_self
  have hdenLow : (2 : Rat) ^ den.log2 ≤ den := by exact_mod_cast Nat.log2_self_le hden.ne'
  have hdenHigh : (den : Rat) < 2 ^ (den.log2 + 1) := by exact_mod_cast Nat.lt_log2_self
  constructor
  · refine (Int.zpow_le_iff_le_log (by decide) hratio).1 ?_
    calc ((2 : Nat) : Rat) ^ ((num.log2 : Int) - den.log2 - 1)
        = 2 ^ num.log2 / 2 ^ (den.log2 + 1) := by
          rw [sub_sub, zpow_sub₀ (by norm_num)]
          norm_cast
      _ ≤ num / den := div_le_div₀ hnum'.le hnumLow hden' hdenHigh.le
  · refine Int.lt_add_one_iff.1 ((Int.lt_zpow_iff_log_lt (by decide) hratio).1 ?_)
    calc (num / den : Rat) < 2 ^ (num.log2 + 1) / 2 ^ den.log2 :=
          div_lt_div₀ hnumHigh hdenLow (by positivity) (by positivity)
      _ = ((2 : Nat) : Rat) ^ ((num.log2 : Int) - den.log2 + 1) := by
          rw [sub_add_eq_add_sub, zpow_sub₀ (by norm_num)]
          norm_cast

/-! ## Numbers -/

/-- The number with the given significand, which may be one too large, and exponent. -/
def pack (negative : Bool) (significand : Nat) (exponent : Int) : Binary64 :=
  let (significand, exponent) :=
    if significand = Nat.pow 2 53 then (Nat.pow 2 52, exponent + 1) else (significand, exponent)
  if maxExponent < exponent then .infinite negative else .finite negative significand exponent

/-- The number nearest to a positive rational one, or its negative. -/
def nearest (negative : Bool) (q : Rat) : Binary64 :=
  let exponent := max (Int.log 2 q - 52) minExponent
  pack negative (roundRat (q / 2 ^ exponent)) exponent

/-- The number nearest to a ratio is computed with integers. -/
theorem ofRatio_eq (hnum : 0 < num) (hden : 0 < den) :
    ofRatio negative num den = nearest negative (num / den) := by
  obtain ⟨hlow, hhigh⟩ := log_ratio_bounds hnum hden
  unfold ofRatio nearest
  dsimp only
  generalize hbits : (num.log2 : Int) - den.log2 = bits at hlow hhigh ⊢
  have htop : (if decide (Int.log 2 (num / den : Rat) < bits) = true then bits - 1 else bits) =
      Int.log 2 (num / den : Rat) := by
    split
    · next h => have hlt := of_decide_eq_true h; omega
    · next h => have hge := mt decide_eq_true h; omega
  rw [lt_two_pow_eq hnum hden, htop, roundRat_div_two_pow hden]
  rfl

/-- The significand and the exponent of a finite number are in their ranges, so that each number is
written in one way. -/
def IsProper : Binary64 → Prop
  | .finite _ significand exponent =>
    significand < 2 ^ 53 ∧ minExponent ≤ exponent ∧ exponent ≤ maxExponent ∧
      (2 ^ 52 ≤ significand ∨ exponent = minExponent)
  | .infinite _ => True
  | .nan => False

/-- A finite number is the one that is nearest to itself. -/
theorem nearest_of_isProper (hs : s ≠ 0) (h : (finite negative s e).IsProper) :
    nearest negative (s * 2 ^ e) = .finite negative s e := by
  obtain ⟨hlt, hmin, hmax, hfull⟩ := h
  have hpow : (2 : Rat) ^ e ≠ 0 := by positivity
  have hpos : (0 : Rat) < s * 2 ^ e := by
    have hs' : 0 < s := Nat.pos_of_ne_zero hs
    positivity
  have hhigh : Int.log 2 (s * 2 ^ e : Rat) < 53 + e := by
    refine (Int.lt_zpow_iff_log_lt (by decide) hpos).1 ?_
    have hlt' : (s : Rat) < 2 ^ 53 := by exact_mod_cast hlt
    rw [zpow_add₀ (by norm_num)]
    exact mul_lt_mul_of_pos_right hlt' (by positivity)
  -- The exponent that is chosen is that of the number: its digits are full, or it is the smallest.
  have hexponent : max (Int.log 2 (s * 2 ^ e : Rat) - 52) minExponent = e := by
    rcases hfull with hfull | rfl
    · have hlow : 52 + e ≤ Int.log 2 (s * 2 ^ e : Rat) := by
        refine (Int.zpow_le_iff_le_log (by decide) hpos).1 ?_
        have hfull' : (2 : Rat) ^ 52 ≤ s := by exact_mod_cast hfull
        rw [zpow_add₀ (by norm_num)]
        exact mul_le_mul_of_nonneg_right hfull' (by positivity)
      omega
    · omega
  unfold nearest
  simp only [hexponent]
  rw [mul_div_cancel_right₀ _ hpow, roundRat_natCast, pack]
  simp only [if_neg (show ¬ s = Nat.pow 2 53 from hlt.ne)]
  exact if_neg (by omega)

/-! ## Decimals -/

/-- What a decimal is rounded to depends on its sign and its magnitude only. -/
theorem ofDecimal_eq (d : Decimal) :
    ofDecimal d =
      if d.magnitude = 0 ∨ Int.log 10 d.magnitude < -400 then .finite d.negative 0 minExponent
      else if 400 < Int.log 10 d.magnitude then .infinite d.negative
      else nearest d.negative d.magnitude := by
  unfold ofDecimal
  by_cases hzero : d.coefficient = 0
  · rw [if_pos (by simp [Decimal.isZero, hzero]),
      if_pos (.inl (Decimal.magnitude_eq_zero_iff.2 hzero))]
  · have hpos : 0 < d.coefficient := Nat.pos_of_ne_zero hzero
    have hmagnitude : d.magnitude ≠ 0 := mt Decimal.magnitude_eq_zero_iff.1 hzero
    have hisZero : d.isZero = false := by simpa [Decimal.isZero] using hzero
    simp only [hisZero, hmagnitude, Bool.false_or, decide_eq_true_eq, false_or,
      Decimal.log_magnitude hzero]
    -- As a ratio of whole numbers, either way, it is the magnitude.
    have hratio : (if 0 ≤ d.exponent
          then ofRatio d.negative (d.coefficient * Nat.pow 10 d.exponent.toNat) 1
          else ofRatio d.negative d.coefficient (Nat.pow 10 (-d.exponent).toNat)) =
        nearest d.negative d.magnitude := by
      have hten : ∀ k : Nat, 0 < Nat.pow 10 k := fun k => Nat.pow_pos (by decide)
      split
      · next hsign =>
        obtain ⟨k, hk⟩ := Int.eq_ofNat_of_zero_le hsign
        rw [ofRatio_eq (Nat.mul_pos hpos (hten _)) (by decide), Decimal.magnitude, hk,
          Int.toNat_natCast, zpow_natCast, Nat.pow_eq, Nat.cast_one, div_one]
        push_cast
        rfl
      · next hsign =>
        obtain ⟨k, hk⟩ : ∃ k : Nat, d.exponent = -k := ⟨(-d.exponent).toNat, by omega⟩
        rw [ofRatio_eq hpos (hten _), Decimal.magnitude, hk, neg_neg, Int.toNat_natCast, zpow_neg,
          zpow_natCast, Nat.pow_eq, div_eq_mul_inv]
        push_cast
        rfl
    rw [hratio]

end Nearest

/-! ## Shortest decimals -/

section Shortest

variable {negative : Bool} {s : Nat} {e : Int} {target : Binary64} {exact d a b : Decimal}

/-- Decimals that differ only in how they are written are rounded to the same number. -/
theorem ofDecimal_congr (hsign : a.negative = b.negative) (h : a.magnitude = b.magnitude) :
    ofDecimal a = ofDecimal b := by
  rw [ofDecimal_eq, ofDecimal_eq, hsign, h]

/-! ## Exact values -/

theorem magnitude_exactDecimal (negative : Bool) (s : Nat) (e : Int) :
    (exactDecimal negative s e).magnitude = s * 2 ^ e := by
  unfold exactDecimal Decimal.magnitude
  split
  · next hsign =>
    obtain ⟨k, rfl⟩ := Int.eq_ofNat_of_zero_le hsign
    simp
  · next hsign =>
    obtain ⟨k, rfl⟩ : ∃ k : Nat, e = -k := ⟨(-e).toNat, by omega⟩
    have hten : (10 : Rat) ^ (-(k : Int)) = 5⁻¹ ^ k * 2 ^ (-(k : Int)) := by
      rw [zpow_neg, zpow_neg, zpow_natCast, zpow_natCast, inv_pow, ← mul_inv, ← mul_pow]
      norm_num
    rw [hten, neg_neg, Int.toNat_natCast, Nat.pow_eq, Nat.cast_mul, Nat.cast_pow, Nat.cast_ofNat,
      mul_assoc, ← mul_assoc (5 ^ k : Rat), ← mul_pow, mul_inv_cancel₀ (by norm_num), one_pow,
      one_mul]

@[simp]
theorem negative_exactDecimal : (exactDecimal negative s e).negative = negative := by
  unfold exactDecimal
  split <;> rfl

/-- Eight is less than ten. -/
theorem two_pow_le_ten_pow {k n : Nat} (h : k ≤ 3 * n) : (2 : Rat) ^ k ≤ 10 ^ n := by
  calc (2 : Rat) ^ k ≤ 2 ^ (3 * n) := pow_le_pow_right₀ (by norm_num) h
    _ = 8 ^ n := by
      rw [pow_mul]
      norm_num
    _ ≤ 10 ^ n := pow_le_pow_left₀ (by norm_num) (by norm_num) n

/-- Finite numbers are far from the bounds beyond which a decimal is not looked at. -/
theorem log_bounds (hs : s ≠ 0) (h : (finite negative s e).IsProper) :
    -400 ≤ Int.log 10 (s * 2 ^ e : Rat) ∧ Int.log 10 (s * 2 ^ e : Rat) ≤ 400 := by
  obtain ⟨hlt, hmin, hmax, -⟩ := h
  have hone : (1 : Rat) ≤ s := by exact_mod_cast Nat.pos_of_ne_zero hs
  have hlt' : (s : Rat) < 2 ^ 53 := by exact_mod_cast hlt
  have hpos : (0 : Rat) < s * 2 ^ e := by positivity
  -- A number has at most 53 binary digits, with an exponent from -1074 to 971.
  constructor
  · refine (Int.zpow_le_iff_le_log (by decide) hpos).1 ?_
    have hsmall : ((10 : Rat) ^ 400)⁻¹ ≤ (2 ^ 1074)⁻¹ :=
      inv_anti₀ (by positivity) (two_pow_le_ten_pow (by decide))
    calc ((10 : Nat) : Rat) ^ (-400 : Int) ≤ 1 * 2 ^ (-1074 : Int) := by
          rw [one_mul, zpow_neg, zpow_neg]
          exact_mod_cast hsmall
      _ ≤ s * 2 ^ e :=
        mul_le_mul hone (zpow_le_zpow_right₀ (by norm_num) hmin) (by positivity) (by positivity)
  · refine Int.lt_add_one_iff.1 ((Int.lt_zpow_iff_log_lt (by decide) hpos).1 ?_)
    calc (s * 2 ^ e : Rat) < 2 ^ 53 * 2 ^ (971 : Int) :=
          mul_lt_mul hlt' (zpow_le_zpow_right₀ (by norm_num) hmax) (by positivity) (by positivity)
      _ ≤ ((10 : Nat) : Rat) ^ ((400 : Int) + 1) := by
          have hexponent : ((53 : Nat) : Int) + 971 = (1024 : Nat) := rfl
          have hten : (400 : Int) + 1 = (401 : Nat) := rfl
          rw [← zpow_natCast, ← zpow_add₀ (by norm_num), hexponent, hten, zpow_natCast,
            zpow_natCast]
          exact two_pow_le_ten_pow (by decide)

/-- The exact value of a number is rounded to it. -/
theorem ofDecimal_exactDecimal (h : (finite negative s e).IsProper) :
    ofDecimal (exactDecimal negative s e) = .finite negative s e := by
  rw [ofDecimal_eq, magnitude_exactDecimal, negative_exactDecimal]
  by_cases hs : s = 0
  · obtain ⟨-, -, -, hfull⟩ := h
    have he : e = minExponent := hfull.resolve_left (by simp [hs])
    rw [if_pos (by simp [hs]), hs, he]
  · obtain ⟨hlow, hhigh⟩ := log_bounds hs h
    have hpos : (s * 2 ^ e : Rat) ≠ 0 := by positivity
    rw [if_neg (by simp only [hpos, false_or]; omega), if_neg (by omega), nearest_of_isProper hs h]

/-! ## The search -/

/-- Candidates stand at the power of ten that is tried. -/
theorem exponent_of_mem_neighbours {unit : Int} (h : d ∈ neighbours exact unit) :
    d.exponent = unit := by
  unfold neighbours at h
  dsimp only at h
  split at h <;> simp only [List.mem_cons, List.not_mem_nil, or_false] at h <;>
    rcases h with rfl | rfl <;> rfl

/-- Whatever is found is rounded to the number, and it has no digit behind the exact value's. -/
theorem shortestFrom_spec (hexact : ofDecimal exact = target) (fuel digits : Nat) :
    ofDecimal (shortestFrom target exact fuel digits) = target ∧
      exact.exponent ≤ (shortestFrom target exact fuel digits).exponent := by
  induction fuel generalizing digits with
  | zero => exact ⟨hexact, le_refl _⟩
  | succ fuel ih =>
    unfold shortestFrom
    dsimp only
    split
    · exact ⟨hexact, le_refl _⟩
    · next hunit =>
      split
      · next d hfound =>
        have hrounded := List.find?_some hfound
        refine ⟨by simpa using hrounded, ?_⟩
        rw [exponent_of_mem_neighbours (List.mem_of_find?_eq_some hfound)]
        omega
      · exact ih _

/-- The decimal is read as the number, and it is no more than a moderate number of digits long. -/
structure ReadsAs (d : Decimal) (x : Binary64) : Prop where
  /-- It is rounded to the number. -/
  rounded : ofDecimal d = x
  /-- Its last digit does not stand far behind the point. -/
  exponent : -1074 ≤ d.exponent

/-- The last digit of an exact value does not stand far behind the point. -/
theorem exponent_exactDecimal (h : minExponent ≤ e) :
    -1074 ≤ (exactDecimal negative s e).exponent := by
  unfold exactDecimal
  split
  · exact show (-1074 : Int) ≤ 0 by decide
  · exact h

theorem coefficient_ne_zero (hs : s ≠ 0) (h : ofDecimal d = .finite negative s e) :
    d.coefficient ≠ 0 := by
  intro hzero
  rw [ofDecimal_eq, if_pos (.inl (Decimal.magnitude_eq_zero_iff.2 hzero))] at h
  injection h with _ hs'
  exact hs hs'.symm

/-- The shortest decimal of a number is read as it. -/
theorem shortest_readsAs (hs : s ≠ 0) (h : (finite negative s e).IsProper) :
    ReadsAs (shortest negative s e) (.finite negative s e) := by
  obtain ⟨hrounded, hexponent⟩ := shortestFrom_spec (ofDecimal_exactDecimal h) 17 1
  have hmin : -1074 ≤ (exactDecimal negative s e).exponent := exponent_exactDecimal h.2.1
  refine ⟨?_, ?_⟩
  · rw [← hrounded]
    exact ofDecimal_congr (Decimal.negative_lowest _) (Decimal.magnitude_lowest _)
  · have hlowest := Decimal.exponent_le_exponent_lowest (coefficient_ne_zero hs hrounded)
    exact (hmin.trans hexponent).trans hlowest

/-- A decimal that is read as a number is in the range of decimals. -/
theorem ReadsAs.withinLimits (hs : s ≠ 0) (h : ReadsAs d (.finite negative s e)) :
    d.withinLimits = true := by
  have hne := coefficient_ne_zero hs h.rounded
  have hisZero : d.isZero = false := by simpa [Decimal.isZero] using hne
  -- Beyond this bound it would be read as infinite.
  have hadjusted : ¬ 400 < d.adjusted := by
    intro hlarge
    have hrounded := h.rounded
    rw [← Decimal.log_magnitude hne] at hlarge
    rw [ofDecimal_eq, if_neg, if_pos hlarge] at hrounded
    · cases hrounded
    · rintro (hzero | hlow)
      · exact hne (Decimal.magnitude_eq_zero_iff.1 hzero)
      · omega
  have hexponent := h.exponent
  unfold Decimal.withinLimits Decimal.minExponent Decimal.maxAdjusted
  rw [hisZero, Bool.and_eq_true]
  constructor
  · rw [decide_eq_true_eq]
    omega
  · rw [decide_eq_true_eq, if_neg Bool.false_ne_true]
    omega

end Shortest

end ResourceTables.Binary64
