import ResourceTables.Json.Document
import ResourceTables.Proofs.Decimal.Rounding
import ResourceTables.Proofs.Language.Numbers

/-!
# Written numbers

The text of a finite number is a JSON number, whether it is written positionally or with an
exponent, and reading it gives the number again.

* `Json.isWhole_digitsOf`: the digits of a natural number are a JSON integer;
* `Binary64.exists_spellsNumber_show`: a layout writes a decimal of the same sign and magnitude;
* `Binary64.exists_spellsNumber_floatText`: the text of a number is rounded to the number;
* `Json.spellsNumber_ofInt`: the text of an integer.
-/

namespace ResourceTables

namespace Json

variable {n : Nat} {w ds f e cs : List Char}

/-! ## Digits -/

theorem AreDigits.append (h : AreDigits cs) (h' : AreDigits ds) : AreDigits (cs ++ ds) := by
  intro c hc
  exact (List.mem_append.1 hc).elim (h c) (h' c)

theorem areDigits_replicate (k : Nat) : AreDigits (List.replicate k '0') := by
  intro c hc
  rw [List.eq_of_mem_replicate hc]
  rfl

theorem areDigits_digitsOf (n : Nat) : AreDigits (Decimal.digitsOf n) :=
  fun _ hc => Nat.isDigit_of_mem_toDigits (by decide) (by decide) hc

/-- The digits of a positive number do not begin with a zero. -/
theorem exists_digitsOf (h : n ≠ 0) :
    ∃ c cs, Decimal.digitsOf n = c :: cs ∧ c ≠ '0' ∧ AreDigits (c :: cs) := by
  suffices hfirst : ∃ c cs, Decimal.digitsOf n = c :: cs ∧ c ≠ '0' by
    obtain ⟨c, cs, hdigits, hc⟩ := hfirst
    exact ⟨c, cs, hdigits, hc, hdigits ▸ areDigits_digitsOf n⟩
  induction n using Nat.strong_induction_on with
  | _ n ih =>
    unfold Decimal.digitsOf at ih ⊢
    rcases Nat.lt_or_ge n 10 with hlt | hle
    · refine ⟨n.digitChar, [], Nat.toDigits_of_lt_base hlt, fun hzero => h ?_⟩
      have hvalue := Nat.toNat_digitChar_sub_48_of_lt_ten hlt
      rw [hzero] at hvalue
      exact hvalue.symm
    · have hsmaller : n / 10 < n := Nat.div_lt_self (by omega) (by decide)
      obtain ⟨c, cs, hdigits, hc⟩ := ih (n / 10) hsmaller (by omega)
      refine ⟨c, cs ++ [(n % 10).digitChar], ?_, hc⟩
      rw [Nat.toDigits_of_base_le (by decide) hle, hdigits, List.cons_append]

theorem isWhole_digitsOf (n : Nat) : IsWhole (Decimal.digitsOf n) := by
  by_cases h : n = 0
  · rw [h]
    exact .zero
  · obtain ⟨c, cs, hdigits, hc, hall⟩ := exists_digitsOf h
    rw [hdigits]
    exact .digits hc hall

/-! ## Signs -/

/-- The parts of a number, behind its sign. -/
theorem spellsNumber_signed {k : Int} (negative : Bool) (hw : IsWhole w) (hf : IsFraction ds f)
    (he : IsExponent k e) :
    SpellsNumber ((if negative then ['-'] else []) ++ (w ++ (f ++ e)))
      ⟨negative, Decimal.natOfDigits (w ++ ds), k - ds.length⟩ := by
  cases negative with
  | false => exact .nonnegative hw hf he
  | true => exact .negative hw hf he

/-- The text of an integer is a JSON number. -/
theorem spellsNumber_ofInt (n : Int) : SpellsNumber (toString n).toList (Decimal.ofInt n) := by
  have hdigits := spellsNumber_signed (n < 0) (isWhole_digitsOf n.natAbs) .none .none
  rw [List.append_nil, List.append_nil, Decimal.natOfDigits_digitsOf] at hdigits
  have htext : (toString n).toList =
      (if decide (n < 0) = true then ['-'] else []) ++ Decimal.digitsOf n.natAbs := by
    cases n with
    | ofNat k =>
      rw [if_neg (by simp)]
      exact Nat.toList_repr
    | negSucc k =>
      have hminus : (toString (Int.negSucc k)).toList = ['-'] ++ (k + 1).repr.toList :=
        String.toList_append
      rw [if_pos (by simp), hminus, Nat.toList_repr]
      rfl
  rw [htext]
  exact hdigits

/-! ## Points -/

theorem natOfDigits_zeros_append (k : Nat) (cs : List Char) :
    Decimal.natOfDigits (List.replicate k '0' ++ cs) = Decimal.natOfDigits cs := by
  rw [Decimal.natOfDigits_append, Decimal.natOfDigits_replicate_zero, Nat.zero_mul, Nat.zero_add]

/-- Digits with a point among them are a JSON number, whose digits are the same number. -/
theorem exists_withPoint {c : Char} {places : Nat} (hc : c ≠ '0') (h : AreDigits (c :: cs))
    (hplaces : places ≠ 0) :
    ∃ w ds f, Decimal.withPoint (c :: cs) places = w ++ f ∧ IsWhole w ∧ IsFraction ds f ∧
      ds.length = places ∧ Decimal.natOfDigits (w ++ ds) = Decimal.natOfDigits (c :: cs) := by
  unfold Decimal.withPoint
  rw [if_neg hplaces]
  dsimp only
  generalize hpadded :
    List.replicate (places + 1 - (c :: cs).length) '0' ++ (c :: cs) = padded
  have hlength : padded.length = max (places + 1) (c :: cs).length := by
    rw [← hpadded, List.length_append, List.length_replicate]
    omega
  have hdigits : AreDigits padded := hpadded ▸ (areDigits_replicate _).append h
  have hfraction : (padded.drop (padded.length - places)).length = places := by
    rw [List.length_drop]
    omega
  refine ⟨_, padded.drop (padded.length - places), _, rfl, ?_, .digits ?_ ?_, hfraction, ?_⟩
  · rcases Nat.lt_or_ge places (c :: cs).length with hlong | hshort
    · -- There are digits enough, and the first of them stands before the point.
      have hnone : places + 1 - (c :: cs).length = 0 := by omega
      rw [hnone] at hpadded
      have hbefore : padded.length - places = padded.length - places - 1 + 1 := by omega
      rw [hbefore, ← hpadded, List.replicate_zero, List.nil_append, List.take_succ_cons]
      refine .digits hc fun x hx => h x ?_
      exact List.cons_subset_cons _ (List.take_subset _ _) hx
    · -- Only a zero stands before the point.
      have hbefore : padded.length - places = 1 := by omega
      have hzeros : places + 1 - (c :: cs).length = places - (c :: cs).length + 1 := by omega
      rw [hbefore, ← hpadded, hzeros, List.replicate_succ, List.cons_append, List.take_succ_cons,
        List.take_zero]
      exact .zero
  · intro hnil
    rw [hnil] at hfraction
    exact hplaces hfraction.symm
  · exact fun x hx => hdigits x (List.mem_of_mem_drop hx)
  · rw [List.take_append_drop, ← hpadded, natOfDigits_zeros_append]

end Json

namespace Binary64

open Json

variable {negative : Bool} {s : Nat} {e : Int} {d : Decimal}

/-- The exponent of a number, with its sign and perhaps with zeros before its digits. -/
theorem isExponent_power (power : Int) (zeros : Nat) :
    IsExponent power ('e' :: (if power < 0 then '-' else '+') ::
      (List.replicate zeros '0' ++ Decimal.digitsOf power.natAbs)) := by
  have hdigits : AreDigits (List.replicate zeros '0' ++ Decimal.digitsOf power.natAbs) :=
    (areDigits_replicate zeros).append (areDigits_digitsOf _)
  have hne : List.replicate zeros '0' ++ Decimal.digitsOf power.natAbs ≠ [] :=
    List.append_ne_nil_of_right_ne_nil _ Nat.toDigits_ne_nil
  have hvalue : Decimal.natOfDigits (List.replicate zeros '0' ++ Decimal.digitsOf power.natAbs) =
      power.natAbs := by
    rw [natOfDigits_zeros_append, Decimal.natOfDigits_digitsOf]
  split
  · next hsign =>
    have hexponent := IsExponent.minus (.inl rfl) hne hdigits
    rw [hvalue] at hexponent
    rwa [show -(power.natAbs : Int) = power by omega] at hexponent
  · next hsign =>
    have hexponent := IsExponent.plus (.inl rfl) hne hdigits
    rw [hvalue] at hexponent
    rwa [show (power.natAbs : Int) = power by omega] at hexponent

/-- A layout writes a number of the same sign and magnitude, with at most one more digit. -/
theorem exists_spellsNumber_show (l : Layout) (h : d.coefficient ≠ 0) :
    ∃ d', SpellsNumber (l.show d).toList d' ∧ d'.negative = d.negative ∧
      d'.magnitude = d.magnitude ∧ min d.exponent (-1) ≤ d'.exponent := by
  obtain ⟨c, cs, hdigits, hc, hall⟩ := exists_digitsOf h
  have hcoefficient : Decimal.natOfDigits (c :: cs) = d.coefficient := by
    rw [← hdigits, Decimal.natOfDigits_digitsOf]
  have hadjusted : d.adjusted = d.exponent + cs.length := by
    have hcount : Decimal.digitCount d.coefficient = (c :: cs).length :=
      congrArg List.length hdigits
    rw [Decimal.adjusted, hcount, List.length_cons]
    omega
  unfold Layout.show
  rw [String.toList_ofList, hdigits]
  dsimp only
  by_cases hpositional : l.lowestPositional ≤ d.adjusted ∧ d.adjusted < l.firstScientific
  · rw [if_pos hpositional]
    by_cases hsign : 0 ≤ d.exponent
    · -- An integer is followed by its zeros, and by a point and one zero more.
      obtain ⟨k, hk⟩ := Int.eq_ofNat_of_zero_le hsign
      have hwhole : IsWhole (c :: (cs ++ List.replicate k '0')) :=
        .digits hc (hall.append (areDigits_replicate k))
      have hnumber := spellsNumber_signed d.negative hwhole
        (.digits (List.cons_ne_nil '0' []) (by simp [AreDigits])) .none
      rw [if_pos hsign, hk, Int.toNat_natCast]
      have hmin : min (k : Int) (-1) ≤ 0 - (['0'].length : Int) := min_le_right _ _
      refine ⟨_, hnumber, rfl, ?_, hmin⟩
      have hvalue : Decimal.natOfDigits (c :: (cs ++ List.replicate k '0') ++ ['0']) =
          10 * (d.coefficient * 10 ^ k) := by
        rw [Decimal.natOfDigits_append_singleton, ← List.cons_append, Decimal.natOfDigits_append,
          Decimal.natOfDigits_replicate_zero, List.length_replicate, hcoefficient]
        rfl
      rw [Decimal.magnitude, Decimal.magnitude, hvalue, hk, zpow_natCast]
      push_cast
      simp
      ring
    · have hplaces : (-d.exponent).toNat ≠ 0 := by omega
      obtain ⟨w, ds, f, hpoint, hw, hf, hlength, hvalue⟩ := exists_withPoint hc hall hplaces
      have hnumber := spellsNumber_signed d.negative hw hf .none
      rw [List.append_nil, hvalue, hcoefficient, hlength] at hnumber
      rw [if_neg hsign, hpoint]
      have hexponent : (0 : Int) - (-d.exponent).toNat = d.exponent := by omega
      rw [hexponent] at hnumber
      exact ⟨d, hnumber, rfl, rfl, min_le_left _ _⟩
  · -- The exponent counts from the first digit.
    have hexponent := isExponent_power d.adjusted
      (l.exponentDigits - (Decimal.digitsOf d.adjusted.natAbs).length)
    have hwhole : IsWhole [c] :=
      .digits hc fun x hx => hall x (List.cons_subset_cons c (List.nil_subset cs) hx)
    have hd : (⟨d.negative, d.coefficient, d.adjusted - cs.length⟩ : Decimal) = d := by
      rw [hadjusted, Int.add_sub_cancel]
    rw [if_neg hpositional]
    refine ⟨d, ?_, rfl, rfl, min_le_left _ _⟩
    cases cs with
    | nil =>
      have hnumber := spellsNumber_signed d.negative hwhole .none hexponent
      rw [List.append_nil, hcoefficient, hd] at hnumber
      exact hnumber
    | cons c' cs =>
      have hnumber := spellsNumber_signed d.negative hwhole
        (.digits (List.cons_ne_nil c' cs) fun x hx => hall x (List.mem_cons_of_mem c hx)) hexponent
      rw [List.singleton_append, List.singleton_append, hcoefficient, hd] at hnumber
      exact hnumber

/-- A finite number is written as a decimal that is rounded to it. -/
theorem exists_spellsNumber_floatText (h : (finite negative s e).IsProper) :
    ∃ d, SpellsNumber (Document.floatText (.finite negative s e)).toList d ∧
      ofDecimal d = .finite negative s e ∧ d.withinLimits = true := by
  have htext : Document.floatText (.finite negative s e) = (finite negative s e).text := rfl
  rw [htext, text]
  split
  · -- Zero is written without an exponent, and it has the smallest one.
    next hs =>
    obtain ⟨-, -, -, hfull⟩ := h
    have he : e = minExponent := hfull.resolve_left (by simp [hs])
    have hnumber := spellsNumber_signed negative .zero
      (.digits (List.cons_ne_nil '0' []) (by simp [AreDigits])) .none
    have hzero : (if negative = true then "-0.0" else "0.0").toList =
        (if negative = true then ['-'] else []) ++ (['0'] ++ (['.', '0'] ++ [])) := by
      cases negative <;> rfl
    rw [hzero, hs, he]
    exact ⟨_, hnumber, rfl, rfl⟩
  · next hs =>
    have hshortest := shortest_readsAs hs h
    obtain ⟨d, hd, hsign, hmagnitude, hexponent⟩ :=
      exists_spellsNumber_show layout (coefficient_ne_zero hs hshortest.rounded)
    have hreads : ReadsAs d (.finite negative s e) := by
      refine ⟨?_, ?_⟩
      · rw [← hshortest.rounded]
        exact ofDecimal_congr hsign hmagnitude
      · have hmin := hshortest.exponent
        omega
    exact ⟨d, hd, hreads.rounded, hreads.withinLimits hs⟩

end Binary64

end ResourceTables
