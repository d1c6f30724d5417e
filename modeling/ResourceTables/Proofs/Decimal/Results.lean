import ResourceTables.Proofs.Decimal.Positional
import ResourceTables.Proofs.Limits.Operations

/-!
# The texts of results

A result of arithmetic has at most 512 significant digits, and its first digit is not too high and
its last not too low. Such a number loses nothing when it becomes a text, although a number with a
fraction is rounded for it.

* `Decimal.IsResult`: what a result of arithmetic may be;
* `Decimal.isResult_round`: what has been rounded is such a number;
* `Decimal.IsResult.text_eq`: the text of a result is its positional notation;
* `Decimal.IsResult.exists_spellsPlain_text`, `Value.toNumber_text`: the text is plain notation, and
  is converted to the number that it was made of;
* `Decimal.IsResult.text_eq_iff`: two results have one text if and only if they are the same number,
  where the two zeros are told apart.
-/

namespace ResourceTables

namespace Decimal

variable {a b d r : Decimal}

/-- The number is within the limits of a result. A carry may leave a zero behind its digits. -/
structure IsResult (d : Decimal) : Prop where
  /-- It has no more significant digits than a result keeps. -/
  digits : d.coefficient ≤ 10 ^ precision
  /-- Its last digit is not too low. -/
  low : etiny ≤ d.exponent
  /-- Its first digit is not too high. -/
  high : d.isZero = false → d.adjusted ≤ emax

instance (d : Decimal) : Decidable d.IsResult :=
  decidable_of_iff (d.coefficient ≤ 10 ^ precision ∧ etiny ≤ d.exponent ∧
    (d.isZero = false → d.adjusted ≤ emax)) ⟨fun h => ⟨h.1, h.2.1, h.2.2⟩, fun h => ⟨h.1, h.2, h.3⟩⟩

/-- What rounding keeps of a number other than zero, unless its first digit is too high. -/
theorem rounded_of_round (hzero : d.isZero = false) (h : d.round = .ok r) :
    (r = d ∧ d.lastDigit ≤ d.exponent ∨ r = d.cut ∧ d.exponent < d.lastDigit) ∧
      (r.isZero = false → r.adjusted ≤ emax) := by
  rw [round_eq hzero] at h
  dsimp only at h
  have hhigh : ∀ d' : Decimal, (if !d'.isZero && emax < d'.adjusted then
      .error .outOfRange else .ok d' : Except Fault Decimal) = .ok r →
        r = d' ∧ (r.isZero = false → r.adjusted ≤ emax) := by
    intro d' hd'
    split at hd'
    · cases hd'
    · next hfits =>
      obtain rfl := Except.ok.inj hd'
      exact ⟨rfl, fun hr => by simpa [hr] using hfits⟩
  obtain ⟨hr, hfits⟩ := hhigh _ h
  refine ⟨?_, hfits⟩
  split at hr
  · next hkept => exact .inl ⟨hr, hkept⟩
  · next hcut => exact .inr ⟨hr, not_le.1 hcut⟩

/-- What has been rounded is within the limits of a result. -/
theorem isResult_round (d : Decimal) : Ensures IsResult d.round := by
  intro r h
  cases hzero : d.isZero with
  | true =>
    rw [round, if_pos hzero] at h
    cases h
    refine ⟨Nat.zero_le _, le_max_left _ _, ?_⟩
    rintro ⟨⟩
  | false =>
    -- The number is kept, or it is cut at its last digit.
    obtain ⟨⟨rfl, hkept⟩ | ⟨rfl, -⟩, hhigh⟩ := rounded_of_round hzero h
    · refine ⟨?_, (le_max_right _ _).trans hkept, hhigh⟩
      have hlast : r.adjusted - precision + 1 ≤ r.exponent := (le_max_left _ _).trans hkept
      have hcount : digitCount r.coefficient ≤ precision := by
        unfold adjusted at hlast
        omega
      exact (lt_ten_pow_digitCount _).le.trans (Nat.pow_le_pow_right (by decide) hcount)
    · have hdigits : (d.adjusted + 1 - d.lastDigit).toNat ≤ precision := by
        unfold lastDigit
        omega
      exact ⟨d.coefficient_cut_le.trans (Nat.pow_le_pow_right (by decide) hdigits),
        le_max_right _ _, hhigh⟩

/-! ## Rounding a result -/

/-- The only result that is cut is a power of ten, which loses one zero. -/
theorem IsResult.eq_of_exponent_lt (h : d.IsResult) (hlast : d.exponent < d.lastDigit) :
    d.coefficient = 10 ^ precision ∧ d.lastDigit = d.exponent + 1 := by
  have hlow := h.low
  have hcount := digitCount_le_of_le_pow h.digits
  have hlong : precision < digitCount d.coefficient := by
    unfold lastDigit adjusted at hlast
    omega
  have hle : 10 ^ precision ≤ d.coefficient := (lt_digitCount_iff (by decide)).1 hlong
  refine ⟨le_antisymm h.digits hle, ?_⟩
  unfold lastDigit adjusted at hlast ⊢
  omega

/-- A result can be rounded, and is still the same number. -/
theorem IsResult.exists_round (h : d.IsResult) :
    ∃ r, d.round = .ok r ∧ r.negative = d.negative ∧ r.magnitude = d.magnitude := by
  cases hzero : d.isZero with
  | true =>
    rw [round, if_pos hzero]
    refine ⟨_, rfl, rfl, ?_⟩
    rw [magnitude_of_isZero hzero, magnitude_eq_zero_iff]
  | false =>
    obtain ⟨r, hr⟩ := rounds_of_coefficient_le h.digits (h.high hzero)
    refine ⟨r, hr, ?_⟩
    obtain ⟨⟨rfl, -⟩ | ⟨rfl, hlast⟩, -⟩ := rounded_of_round hzero hr
    · exact ⟨rfl, rfl⟩
    · -- Only the largest coefficient has a digit more than fits, and it ends in a zero.
      obtain ⟨hcoefficient, hexponent⟩ := h.eq_of_exponent_lt hlast
      obtain ⟨n, hn, hround⟩ : ∃ n, 10 ^ precision = n * 10 ∧
          roundHalfEven (10 ^ precision) 1 = n :=
        ⟨10 ^ 511, by decide +kernel, by decide +kernel⟩
      refine ⟨rfl, ?_⟩
      simp only [magnitude, cut, hexponent, hcoefficient]
      rw [add_sub_cancel_left, Int.toNat_one, hround, hn, zpow_add₀ (by norm_num), zpow_one]
      push_cast
      ring

/-- The text of a result is its positional notation. -/
theorem IsResult.text_eq (h : d.IsResult) : d.text = d.positional := by
  unfold text
  split
  · rfl
  · obtain ⟨r, hr, hsign, hmagnitude⟩ := h.exists_round
    rw [hr]
    exact positional_eq_iff.2 ⟨hsign, hmagnitude⟩

/-! ## Reading the text -/

/-- The text of a result is plain notation of the number, within the limits of a literal. -/
theorem IsResult.exists_spellsPlain_text (h : d.IsResult) :
    ∃ d', SpellsPlain d.text.toList d' ∧ d'.negative = d.negative ∧ d'.magnitude = d.magnitude ∧
      d'.withinLimits = true := by
  obtain ⟨d', hplain, hsign, hmagnitude, hexponent⟩ := exists_spellsPlain_positional d
  refine ⟨d', h.text_eq ▸ hplain, hsign, hmagnitude, ?_⟩
  have hzero' := isZero_eq_iff_of_magnitude_eq hmagnitude
  simp only [withinLimits, Bool.and_eq_true, decide_eq_true_eq]
  cases hzero : d.isZero with
  | true =>
    have hunit : d'.exponent = 0 := by rw [hexponent, lowest, if_pos hzero]; rfl
    rw [hzero', hzero, if_pos rfl, hunit]
    decide
  | false =>
    have hlow := h.low
    have hhigh := h.high hzero
    have hlowest := exponent_le_exponent_lowest (isZero_eq_false_iff.1 hzero)
    -- Numbers of one magnitude have their first digits at one place.
    have hadjusted : d'.adjusted = d.adjusted := by
      rw [← log_magnitude (isZero_eq_false_iff.1 hzero), ← hmagnitude,
        log_magnitude (isZero_eq_false_iff.1 (hzero'.trans hzero))]
    rw [hzero', hzero, if_neg (by simp), hexponent, hadjusted]
    simp only [etiny, emin, emax, precision, minExponent, maxAdjusted] at *
    omega

/-- The two are the same number, and have the same sign even if they are zero. -/
def Alike (a b : Decimal) : Prop :=
  a.sameAs b = true ∧ (a.isZero = true → a.negative = b.negative)

instance (a b : Decimal) : Decidable (a.Alike b) :=
  inferInstanceAs (Decidable (_ ∧ _))

theorem alike_iff : a.Alike b ↔ a.negative = b.negative ∧ a.magnitude = b.magnitude := by
  rw [Alike, sameAs_iff, value_eq_iff]
  cases a.isZero <;> simp [and_comm]

/-- Other numbers than zero are alike if they are the same. -/
theorem alike_iff_sameAs (h : a.isZero = false) : a.Alike b ↔ a.sameAs b = true := by
  simp [Alike, h]

/-- Two results have one text if they are alike. -/
theorem IsResult.text_eq_iff (ha : a.IsResult) (hb : b.IsResult) : a.text = b.text ↔ a.Alike b := by
  rw [ha.text_eq, hb.text_eq, positional_eq_iff, alike_iff]

end Decimal

/-- The text of a result is converted to the number that it was made of. -/
theorem Value.toNumber_text {d d' : Decimal} (h : Decimal.SpellsPlain d.text.toList d')
    (hlimits : d'.withinLimits = true) (o : Origin) (role : Role) :
    (Value.string d.text).toNumber o role = .ok (some d') := by
  simp only [toNumber, h.ofText?, hlimits, if_true]

end ResourceTables
