import Mathlib
import ResourceTables.Proofs.Decimal.Magnitude
import ResourceTables.Proofs.Report.Numerals

/-!
# The order of decimals and positional notation

Decimals are compared without forming large powers of ten. The comparison is the one of the numbers
that they stand for.

Positional notation has no exponent and no needless zero: an integer has no zero before its first
digit, and a fraction none behind its last. It is read as the number that it was written for, so
two decimals have the same notation only if they are the same number with the same sign.

* `Decimal.value`: the number with its sign;
* `Decimal.compareAbs_eq`, `Decimal.compare_eq`: what the comparisons compute;
* `Decimal.sameAs_iff`: two decimals are the same number if their values are equal;
* `Decimal.value_eq_iff`: that is, if they are equal in magnitude and, zeros apart, in sign;
* `Decimal.SpellsPlain cs d`: the characters `cs` are plain notation and write the decimal;
* `Decimal.SpellsPlain.ofText?`: plain notation is read as the decimal that it writes;
* `Decimal.exists_spellsPlain_positional`: positional notation is plain and keeps the number;
* `Decimal.lowest_eq_iff`, `Decimal.positional_eq_iff`: lowest terms and positional notation depend
  on the number and its sign, and on nothing else.
-/

namespace ResourceTables.Decimal

/-! ## The numbers that decimals stand for -/

/-- The number with its sign. -/
def value (d : Decimal) : Rat := if d.negative then -d.magnitude else d.magnitude

variable {a b d : Decimal}

theorem isZero_iff : d.isZero = true ↔ d.coefficient = 0 := by
  rw [isZero, beq_iff_eq]

theorem isZero_eq_false_iff : d.isZero = false ↔ d.coefficient ≠ 0 := by
  rw [isZero, beq_eq_false_iff_ne]

theorem magnitude_of_isZero (h : d.isZero = true) : d.magnitude = 0 :=
  magnitude_eq_zero_iff.2 (isZero_iff.1 h)

theorem magnitude_pos_of_isZero (h : d.isZero = false) : 0 < d.magnitude :=
  magnitude_pos (isZero_eq_false_iff.1 h)

theorem value_of_isZero (h : d.isZero = true) : d.value = 0 := by
  rw [value, magnitude_of_isZero h, neg_zero, ite_self]

/-! ## Without signs -/

/-- A number is its coefficient at a lower power of ten, times that power. -/
theorem magnitude_eq_scaled {low : Int} (h : low ≤ d.exponent) :
    d.magnitude = (d.coefficient * 10 ^ (d.exponent - low).toNat : Nat) * (10 : Rat) ^ low := by
  obtain ⟨k, hk⟩ := Int.le.dest h
  rw [magnitude, ← hk, add_sub_cancel_left, Int.toNat_natCast, zpow_add₀ (by norm_num),
    zpow_natCast]
  push_cast
  ring

/-- Numbers at one power of ten are compared by their coefficients there. -/
theorem cmp_magnitude_of_le {low : Int} (ha : low ≤ a.exponent) (hb : low ≤ b.exponent) :
    cmp a.magnitude b.magnitude =
      cmp (a.coefficient * 10 ^ (a.exponent - low).toNat)
        (b.coefficient * 10 ^ (b.exponent - low).toNat) := by
  have hpow : StrictMono fun n : Nat => (n : Rat) * (10 : Rat) ^ low := fun m n hmn =>
    mul_lt_mul_of_pos_right (Nat.cast_lt.2 hmn) (by positivity)
  rw [magnitude_eq_scaled ha, magnitude_eq_scaled hb]
  exact hpow.cmp_map_eq _ _

/-- A number whose first digit stands at a lower power of ten is less. -/
theorem magnitude_lt_of_adjusted_lt (ha : a.isZero = false) (hb : b.isZero = false)
    (h : a.adjusted < b.adjusted) : a.magnitude < b.magnitude := by
  have hne := isZero_eq_false_iff.1 ha
  have hne' := isZero_eq_false_iff.1 hb
  rw [← log_magnitude hne, ← log_magnitude hne'] at h
  by_contra hle
  exact absurd (Int.log_mono_right (magnitude_pos hne') (not_lt.1 hle)) (not_le.2 h)

/-- Zero is compared with a number like the coefficients. -/
theorem cmp_magnitude_of_isZero (h : a.isZero = true) :
    cmp a.magnitude b.magnitude = cmp a.coefficient b.coefficient := by
  rw [magnitude_of_isZero h, isZero_iff.1 h]
  cases hb : b.isZero with
  | true => rw [magnitude_of_isZero hb, isZero_iff.1 hb, cmp_self_eq_eq, cmp_self_eq_eq]
  | false =>
    have hpos : 0 < b.coefficient := Nat.pos_of_ne_zero (isZero_eq_false_iff.1 hb)
    rw [(magnitude_pos_of_isZero hb).cmp_eq_lt, hpos.cmp_eq_lt]

theorem compareAbs_eq (a b : Decimal) : a.compareAbs b = cmp a.magnitude b.magnitude := by
  unfold compareAbs
  -- A zero has no first digit, so it is compared without a look at where its digits stand.
  split
  · next hzero =>
    rw [← cmp_eq_compare]
    rcases Bool.or_eq_true_iff.1 hzero with ha | hb
    · exact (cmp_magnitude_of_isZero ha).symm
    · exact cmp_eq_cmp_symm.1 (cmp_magnitude_of_isZero hb).symm
  · next hnonzero =>
    rw [Bool.or_eq_true, not_or, Bool.not_eq_true, Bool.not_eq_true] at hnonzero
    obtain ⟨ha, hb⟩ := hnonzero
    rw [← cmp_eq_compare]
    split
    · rw [← cmp_eq_compare]
      exact (cmp_magnitude_of_le (min_le_left _ _) (min_le_right _ _)).symm
    · next hne =>
      rcases lt_trichotomy a.adjusted b.adjusted with hlt | heq | hgt
      · rw [hlt.cmp_eq_lt, (magnitude_lt_of_adjusted_lt ha hb hlt).cmp_eq_lt]
      · exact absurd heq.cmp_eq_eq hne
      · rw [hgt.cmp_eq_gt, (magnitude_lt_of_adjusted_lt hb ha hgt).cmp_eq_gt]

/-! ## With signs -/

theorem value_of_negative (h : d.negative = true) : d.value = -d.magnitude := by
  rw [value, if_pos h]

theorem value_of_nonnegative (h : d.negative = false) : d.value = d.magnitude := by
  rw [value, if_neg (by simp [h])]

theorem value_pos (hd : d.isZero = false) (h : d.negative = false) : 0 < d.value := by
  rw [value_of_nonnegative h]
  exact magnitude_pos_of_isZero hd

theorem value_lt_zero (hd : d.isZero = false) (h : d.negative = true) : d.value < 0 := by
  rw [value_of_negative h]
  exact neg_lt_zero.2 (magnitude_pos_of_isZero hd)

theorem compare_eq (a b : Decimal) : a.compare b = cmp a.value b.value := by
  unfold compare
  cases ha : a.isZero <;> cases hb : b.isZero <;> simp only [Bool.and_true, Bool.and_false, if_pos,
    Bool.false_eq_true, if_false]
  · -- Neither is zero, and numbers of the same sign are compared by their magnitudes.
    split
    · next hsign hsign' =>
      rw [value_of_nonnegative hsign, value_of_nonnegative hsign', compareAbs_eq]
    · next hsign hsign' =>
      have hanti : StrictAnti (Neg.neg : Rat → Rat) := fun _ _ => neg_lt_neg
      rw [value_of_negative hsign, value_of_negative hsign', compareAbs_eq, hanti.cmp_map_eq]
    · next hsign hsign' =>
      exact ((value_lt_zero hb hsign').trans (value_pos ha hsign)).cmp_eq_gt.symm
    · next hsign hsign' =>
      exact ((value_lt_zero ha hsign).trans (value_pos hb hsign')).cmp_eq_lt.symm
  · rw [value_of_isZero hb]
    cases hsign : a.negative with
    | true => exact (value_lt_zero ha hsign).cmp_eq_lt.symm
    | false => exact (value_pos ha hsign).cmp_eq_gt.symm
  · rw [value_of_isZero ha]
    cases hsign : b.negative with
    | true => exact (value_lt_zero hb hsign).cmp_eq_gt.symm
    | false => exact (value_pos hb hsign).cmp_eq_lt.symm
  · rw [value_of_isZero ha, value_of_isZero hb, cmp_self_eq_eq]

theorem sameAs_iff : a.sameAs b = true ↔ a.value = b.value := by
  rw [sameAs, beq_iff_eq, compare_eq, cmp_eq_eq_iff]

/-- Two numbers are equal if they have the same magnitude and, zeros apart, the same sign. -/
theorem value_eq_iff :
    a.value = b.value ↔
      a.magnitude = b.magnitude ∧ (a.isZero = false → a.negative = b.negative) := by
  -- Equal values have equal absolute values, and these are the magnitudes.
  have habs : ∀ d : Decimal, |d.value| = d.magnitude := by
    intro d
    unfold value
    split <;> simp [abs_of_nonneg d.magnitude_nonneg]
  constructor
  · intro h
    have hmagnitude : a.magnitude = b.magnitude := by rw [← habs a, ← habs b, h]
    refine ⟨hmagnitude, fun ha => ?_⟩
    have hb : b.isZero = false := by
      rw [isZero_eq_false_iff, ne_eq, ← magnitude_eq_zero_iff, ← hmagnitude]
      exact (magnitude_pos_of_isZero ha).ne'
    cases hsign : a.negative <;> cases hsign' : b.negative
    · rfl
    · exact absurd h ((value_lt_zero hb hsign').trans (value_pos ha hsign)).ne'
    · exact absurd h ((value_lt_zero ha hsign).trans (value_pos hb hsign')).ne
    · rfl
  · rintro ⟨hmagnitude, hsign⟩
    cases ha : a.isZero with
    | true =>
      have hb : b.isZero = true := by
        rw [isZero_iff, ← magnitude_eq_zero_iff, ← hmagnitude, magnitude_of_isZero ha]
      rw [value_of_isZero ha, value_of_isZero hb]
    | false => rw [value, value, hmagnitude, hsign ha]

open Json

variable {n : Nat} {cs : List Char}

/-! ## Lowest terms -/

/-- What is left of a number without its tens does not end in a zero. -/
theorem splitTens_mod_ne_zero {limit : Nat} (hn : n ≠ 0) (h : n < 10 ^ limit) :
    (splitTens limit n).2 % 10 ≠ 0 := by
  induction limit generalizing n with
  | zero => exact absurd (Nat.lt_one_iff.1 h) hn
  | succ limit ih =>
    rw [splitTens]
    split
    · next hmod => exact ih (by omega) (by rw [pow_succ] at h; omega)
    · next hmod => exact hmod

theorem coefficient_lowest_mod_ne_zero (h : d.isZero = false) : d.lowest.coefficient % 10 ≠ 0 := by
  rw [lowest, if_neg (by simp [h])]
  exact splitTens_mod_ne_zero (isZero_eq_false_iff.1 h) (lt_ten_pow_digitCount _)

theorem isZero_eq_iff_of_magnitude_eq (h : a.magnitude = b.magnitude) : a.isZero = b.isZero := by
  rw [Bool.eq_iff_iff, isZero_iff, isZero_iff, ← magnitude_eq_zero_iff, h, magnitude_eq_zero_iff]

/-- Of two numbers of one magnitude, the one with the lower exponent ends in a zero. -/
theorem coefficient_mod_eq_zero (h : a.magnitude = b.magnitude) (hlt : a.exponent < b.exponent) :
    a.coefficient % 10 = 0 := by
  rw [magnitude_eq_scaled (Int.le_refl _), magnitude_eq_scaled hlt.le, sub_self, Int.toNat_zero,
    pow_zero, mul_one] at h
  have hpow : (10 : Rat) ^ a.exponent ≠ 0 := by positivity
  have hcoefficient : a.coefficient = b.coefficient * 10 ^ (b.exponent - a.exponent).toNat := by
    exact_mod_cast mul_right_cancel₀ hpow h
  obtain ⟨k, hk⟩ : ∃ k, (b.exponent - a.exponent).toNat = k + 1 :=
    Nat.exists_eq_succ_of_ne_zero (by omega)
  rw [hcoefficient, hk, pow_succ, ← mul_assoc, Nat.mul_mod_left]

/-- Lowest terms depend on the number and its sign alone. -/
theorem lowest_eq_iff :
    a.lowest = b.lowest ↔ a.negative = b.negative ∧ a.magnitude = b.magnitude := by
  constructor
  · intro h
    rw [← negative_lowest a, ← negative_lowest b, ← magnitude_lowest a, ← magnitude_lowest b, h]
    exact ⟨rfl, rfl⟩
  · rintro ⟨hsign, hmagnitude⟩
    have hzero := isZero_eq_iff_of_magnitude_eq hmagnitude
    cases ha : a.isZero with
    | true => rw [lowest, if_pos ha, lowest, if_pos (hzero ▸ ha), hsign]
    | false =>
      have hb : b.isZero = false := hzero ▸ ha
      have hlowest : a.lowest.magnitude = b.lowest.magnitude := by
        rw [magnitude_lowest, magnitude_lowest, hmagnitude]
      -- With a smaller exponent, the coefficient would end in a zero that lowest terms have not.
      have hexponent : a.lowest.exponent = b.lowest.exponent := by
        rcases lt_trichotomy a.lowest.exponent b.lowest.exponent with hlt | heq | hgt
        · exact absurd (coefficient_mod_eq_zero hlowest hlt) (coefficient_lowest_mod_ne_zero ha)
        · exact heq
        · exact absurd (coefficient_mod_eq_zero hlowest.symm hgt)
            (coefficient_lowest_mod_ne_zero hb)
      have hpow : (10 : Rat) ^ a.lowest.exponent ≠ 0 := by positivity
      have hcoefficient : a.lowest.coefficient = b.lowest.coefficient := by
        rw [magnitude, magnitude, ← hexponent] at hlowest
        exact_mod_cast mul_right_cancel₀ hpow hlowest
      have hnegative : a.lowest.negative = b.lowest.negative := by
        rw [negative_lowest, negative_lowest, hsign]
      show (⟨a.lowest.negative, a.lowest.coefficient, a.lowest.exponent⟩ : Decimal) = b.lowest
      rw [hnegative, hcoefficient, hexponent]

/-! ## Plain notation -/

/-- The characters write the decimal without an exponent: digits that do not begin with a needless
zero, perhaps behind a minus sign, and perhaps a point and digits that do not end in a zero. -/
inductive SpellsPlain : List Char → Decimal → Prop
  | mk (negative : Bool) {w ds f : List Char} (hw : IsWhole w) (hf : IsFraction ds f)
      (hlast : ds.getLast? ≠ some '0') :
      SpellsPlain ((if negative then ['-'] else []) ++ (w ++ f))
        ⟨negative, natOfDigits (w ++ ds), -ds.length⟩

/-- An integer and a fraction are a whole literal. -/
theorem literalLength_plain {w ds f : List Char} (hw : IsWhole w) (hf : IsFraction ds f) :
    literalLength (w ++ f) = (w ++ f).length := by
  have hempty : EndsNumeral [] := fun _ hc => nomatch hc
  have hdigits := hf.noDigit_append .none hempty
  have hfraction := hf.fractionLength_append (IsExponent.none.head_append hempty)
  rw [List.nil_append, List.append_nil] at hdigits
  rw [List.nil_append] at hfraction
  rw [literalLength_eq, spanDigits_append hw.areDigits hdigits,
    if_neg (mt List.length_eq_zero_iff.1 hw.ne_nil)]
  have hlength := lengthBehind_spelled (w := w) hfraction
    (IsExponent.none.exponentLength_append hempty)
  rw [List.nil_append, List.append_nil] at hlength
  exact hlength

/-- A text is read as the literal in it if it is one literal, perhaps behind a minus sign. -/
theorem ofText?_eq_some {s : String} {negative : Bool} {c : Char}
    (hs : s.toList = (if negative then ['-'] else []) ++ c :: cs) (hdigit : c.isDigit = true)
    (h : literalLength (c :: cs) = (c :: cs).length) :
    ofText? s = some (ofLiteral negative (c :: cs)) := by
  have hne : (c :: cs).length ≠ 0 := Nat.succ_ne_zero _
  unfold ofText?
  rw [hs]
  cases negative with
  | true =>
    simp only [if_true, List.singleton_append]
    rw [h, if_neg hne, List.drop_length, List.take_length]
  | false =>
    simp only [Bool.false_eq_true, if_false, List.nil_append]
    split
    · next heq =>
      cases heq
      cases hdigit
    · dsimp only
      rw [h, if_neg hne, List.drop_length, List.take_length]

/-- Plain notation is read as the decimal that it writes. -/
theorem SpellsPlain.ofText? {s : String} (h : SpellsPlain s.toList d) : ofText? s = some d := by
  generalize hs : s.toList = cs at h
  cases h with
  | @mk negative w ds f hw hf hlast =>
    have hlength := literalLength_plain hw hf
    have hliteral := ofLiteral_spelled negative hw hf .none
    obtain ⟨c, more, rfl, hdigit⟩ := hw.exists_digit
    rw [List.append_nil, zero_sub] at hliteral
    rw [← hliteral]
    exact ofText?_eq_some hs hdigit hlength

/-- The last digit of a number is zero if its digits end in a zero. -/
theorem getLast?_ne_zero {ds : List Char} (h : natOfDigits ds % 10 ≠ 0) :
    ds.getLast? ≠ some '0' := by
  intro hlast
  obtain ⟨ds, rfl⟩ := List.getLast?_eq_some_iff.1 hlast
  rw [natOfDigits_append_singleton] at h
  exact h (by simp)

/-- The notation of a number without its sign, for a coefficient other than zero. -/
theorem exists_body (hmod : n % 10 ≠ 0) (e : Int) :
    ∃ w ds f, (if 0 ≤ e then digitsOf n ++ List.replicate e.toNat '0'
        else withPoint (digitsOf n) (-e).toNat) = w ++ f ∧
      IsWhole w ∧ IsFraction ds f ∧ ds.getLast? ≠ some '0' ∧
      (natOfDigits (w ++ ds) : Rat) * 10 ^ (-ds.length : Int) = n * 10 ^ e ∧
      -(ds.length : Int) = min e 0 := by
  have hn : n ≠ 0 := by
    rintro rfl
    exact hmod rfl
  obtain ⟨c, cs, hdigits, hc, hall⟩ := exists_digitsOf hn
  have hvalue : natOfDigits (c :: cs) = n := by rw [← hdigits, natOfDigits_digitsOf]
  rw [hdigits]
  -- A whole number has zeros behind its digits, any other a point between them.
  split
  · next hsign =>
    obtain ⟨k, rfl⟩ := Int.eq_ofNat_of_zero_le hsign
    refine ⟨c :: cs ++ List.replicate k '0', [], [], (List.append_nil _).symm,
      .digits hc (hall.append (areDigits_replicate k)), .none, by simp, ?_, by simp⟩
    rw [List.append_nil, natOfDigits_append, natOfDigits_replicate_zero, hvalue,
      List.length_replicate]
    simp
  · next hsign =>
    have hplaces : (-e).toNat ≠ 0 := by omega
    obtain ⟨w, ds, f, hpoint, hw, hf, hlength, hsame⟩ := exists_withPoint hc hall hplaces
    rw [hvalue] at hsame
    have hexponent : -(ds.length : Int) = e := by omega
    refine ⟨w, ds, f, hpoint, hw, hf, ?_, ?_, ?_⟩
    · -- The last digit of the fraction is the last one of the coefficient.
      intro hlast
      have hne : ds ≠ [] := by
        rintro rfl
        cases hlast
      refine getLast?_ne_zero (hsame ▸ hmod) ?_
      rw [List.getLast?_append_of_ne_nil _ hne, hlast]
    · rw [hsame, hexponent]
    · omega

/-- Positional notation writes the number in plain notation. -/
theorem exists_spellsPlain_positional (d : Decimal) :
    ∃ d', SpellsPlain d.positional.toList d' ∧ d'.negative = d.negative ∧
      d'.magnitude = d.magnitude ∧ d'.exponent = min d.lowest.exponent 0 := by
  -- Lowest terms keep the sign, also that of a zero.
  have hsign : ∀ body : List Char, (if d.lowest.negative then '-' :: body else body) =
      (if d.negative then ['-'] else []) ++ body := by
    intro body
    rw [negative_lowest]
    split <;> rfl
  unfold positional
  dsimp only
  rw [String.toList_ofList, hsign]
  cases hzero : d.isZero with
  | true =>
    have hlowest : d.lowest = ⟨d.negative, 0, 0⟩ := by rw [lowest, if_pos hzero]
    have hbody : digitsOf 0 ++ List.replicate (Int.toNat 0) '0' = ['0'] ++ [] := rfl
    have hplain := SpellsPlain.mk d.negative .zero .none (by simp)
    rw [hlowest]
    dsimp only
    rw [if_pos (Int.le_refl 0), hbody]
    refine ⟨_, hplain, rfl, ?_, rfl⟩
    rw [magnitude_of_isZero hzero, magnitude_eq_zero_iff]
    rfl
  | false =>
    obtain ⟨w, ds, f, hbody, hw, hf, hlast, hmagnitude, hexponent⟩ :=
      exists_body (coefficient_lowest_mod_ne_zero hzero) d.lowest.exponent
    rw [hbody]
    exact ⟨_, .mk d.negative hw hf hlast, rfl, hmagnitude.trans d.magnitude_lowest, hexponent⟩

/-- Two decimals have one positional notation if they are the same number with the same sign. -/
theorem positional_eq_iff :
    a.positional = b.positional ↔ a.negative = b.negative ∧ a.magnitude = b.magnitude := by
  constructor
  · intro h
    obtain ⟨a', ha, hsign, hmagnitude, -⟩ := exists_spellsPlain_positional a
    obtain ⟨b', hb, hsign', hmagnitude', -⟩ := exists_spellsPlain_positional b
    have hread : some a' = some b' := by rw [← ha.ofText?, h, hb.ofText?]
    obtain rfl := Option.some.inj hread
    exact ⟨hsign.symm.trans hsign', hmagnitude.symm.trans hmagnitude'⟩
  · intro h
    unfold positional
    rw [lowest_eq_iff.2 h]

end ResourceTables.Decimal
