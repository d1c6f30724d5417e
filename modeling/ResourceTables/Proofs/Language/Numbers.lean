import ResourceTables.Proofs.Encodings.Numerals

/-!
# The language of JSON numbers

A JSON number is an integer without leading zeros, perhaps with a minus sign before it and with a
fraction and an exponent behind it. It writes an exact decimal.

* `Json.SpellsNumber cs d`: the characters `cs` write the decimal;
* `Json.SpellsNumber.numberLength_append`, `Json.exists_spellsNumber`: the lexer takes a number if
  and only if its characters write a decimal;
* `Json.SpellsNumber.ofLiteral`: the decimal is the one that is read.
-/

namespace ResourceTables.Json

/-- All characters are digits. -/
def AreDigits (cs : List Char) : Prop :=
  ∀ c ∈ cs, c.isDigit = true

/-- The digits before the point: a zero alone, or digits that do not begin with a zero. -/
inductive IsWhole : List Char → Prop
  | zero : IsWhole ['0']
  | digits {c : Char} {cs : List Char} (hzero : c ≠ '0') (h : AreDigits (c :: cs)) :
      IsWhole (c :: cs)

/-- The characters of a fraction with the given digits, or none without digits. -/
inductive IsFraction : List Char → List Char → Prop
  | none : IsFraction [] []
  | digits {ds : List Char} (hne : ds ≠ []) (h : AreDigits ds) : IsFraction ds ('.' :: ds)

/-- The characters of an exponent with the given value, or none. -/
inductive IsExponent : Int → List Char → Prop
  | none : IsExponent 0 []
  | plain {e : Char} {ds : List Char} (he : e = 'e' ∨ e = 'E') (hne : ds ≠ []) (h : AreDigits ds) :
      IsExponent (Decimal.natOfDigits ds) (e :: ds)
  | plus {e : Char} {ds : List Char} (he : e = 'e' ∨ e = 'E') (hne : ds ≠ []) (h : AreDigits ds) :
      IsExponent (Decimal.natOfDigits ds) (e :: '+' :: ds)
  | minus {e : Char} {ds : List Char} (he : e = 'e' ∨ e = 'E') (hne : ds ≠ []) (h : AreDigits ds) :
      IsExponent (-Decimal.natOfDigits ds) (e :: '-' :: ds)

/-- The characters are a JSON number that writes the decimal. -/
inductive SpellsNumber : List Char → Decimal → Prop
  | nonnegative {w ds f e : List Char} {n : Int} (hw : IsWhole w) (hf : IsFraction ds f)
      (he : IsExponent n e) :
      SpellsNumber (w ++ (f ++ e)) ⟨false, Decimal.natOfDigits (w ++ ds), n - ds.length⟩
  | negative {w ds f e : List Char} {n : Int} (hw : IsWhole w) (hf : IsFraction ds f)
      (he : IsExponent n e) :
      SpellsNumber ('-' :: (w ++ (f ++ e))) ⟨true, Decimal.natOfDigits (w ++ ds), n - ds.length⟩

section Parts

variable {cs ds w f e rest : List Char} {c : Char} {n : Int}

/-- No digit comes first. -/
def NoDigit (rest : List Char) : Prop :=
  ∀ c, rest.head? = some c → c.isDigit = false

theorem noDigit_of_endsNumeral (h : EndsNumeral rest) : NoDigit rest := by
  intro c hc
  have hchar := h c hc
  simp only [isNumeralChar, Bool.or_eq_false_iff] at hchar
  exact hchar.1.1.1.1.1

theorem spanDigits_append (h : AreDigits ds) (hrest : NoDigit rest) :
    Decimal.spanDigits (ds ++ rest) = (ds, rest) := by
  rw [spanDigits_eq, List.takeWhile_append_of_pos h, List.dropWhile_append_of_pos h]
  cases rest with
  | nil => simp
  | cons c rest => simp [hrest c rfl]

theorem IsWhole.areDigits (h : IsWhole w) : AreDigits w := by
  cases h with
  | zero => simp [AreDigits]
  | digits _ h => exact h

theorem IsWhole.exists_digit (h : IsWhole w) : ∃ c cs, w = c :: cs ∧ c.isDigit = true := by
  cases h with
  | zero => exact ⟨'0', [], rfl, rfl⟩
  | @digits c cs hzero h => exact ⟨c, cs, rfl, h c (by simp)⟩

theorem IsWhole.ne_nil (h : IsWhole w) : w ≠ [] := by
  obtain ⟨c, cs, rfl, -⟩ := h.exists_digit
  exact List.cons_ne_nil c cs

/-- The length of an integer without a sign. -/
def wholeLength (cs : List Char) : Nat :=
  match cs with
  | '0' :: _ => 1
  | rest => (Decimal.spanDigits rest).1.length

theorem integerLength_eq {sign : Nat} (hsign : sign = if cs.head? = some '-' then 1 else 0) :
    Document.integerLength cs =
      if wholeLength (cs.drop sign) = 0 then 0 else sign + wholeLength (cs.drop sign) := by
  unfold Document.integerLength
  rw [← hsign]
  dsimp only
  generalize cs.drop sign = rest
  split
  · rfl
  · next hzero => rw [wholeLength.eq_2 rest hzero]

/-- An integer is taken whole. -/
theorem IsWhole.wholeLength_append (h : IsWhole w) (hrest : NoDigit rest) :
    wholeLength (w ++ rest) = w.length := by
  cases h with
  | zero => rfl
  | @digits c cs hzero h =>
    rw [wholeLength, spanDigits_append h hrest]
    rintro more ⟨⟩
    exact hzero rfl

theorem IsFraction.areDigits (h : IsFraction ds f) : AreDigits ds := by
  cases h with
  | none => simp [AreDigits]
  | digits _ h => exact h

/-- A fraction is taken whole. -/
theorem IsFraction.fractionLength_append (h : IsFraction ds f)
    (hrest : ∀ c, rest.head? = some c → c.isDigit = false ∧ c ≠ '.') :
    Document.fractionLength (f ++ rest) = f.length := by
  cases h with
  | none =>
    cases rest with
    | nil => rfl
    | cons c rest => exact fractionLength_of_ne_point (hrest c rfl).2
  | digits hne h =>
    have hspan := spanDigits_append h fun c hc => (hrest c hc).1
    rw [List.cons_append, Document.fractionLength, hspan]
    exact if_neg (mt List.length_eq_zero_iff.1 hne)

/-- An exponent with a sign. -/
theorem exponentLength_sign (he : c = 'e' ∨ c = 'E') {s : Char} (hs : s = '+' ∨ s = '-') :
    Document.exponentLength (c :: s :: cs) =
      let digits := (Decimal.spanDigits cs).1.length
      if digits = 0 then 0 else digits + 2 := by
  simp only [Document.exponentLength, if_pos he, if_pos hs]
  rfl

/-- An exponent without one. -/
theorem exponentLength_plain (he : c = 'e' ∨ c = 'E')
    (hs : ∀ s, cs.head? = some s → ¬ (s = '+' ∨ s = '-')) :
    Document.exponentLength (c :: cs) =
      let digits := (Decimal.spanDigits cs).1.length
      if digits = 0 then 0 else digits + 1 := by
  cases cs with
  | nil => simp only [Document.exponentLength, if_pos he]; rfl
  | cons s cs => simp only [Document.exponentLength, if_pos he, if_neg (hs s rfl)]; rfl

theorem not_sign_of_isDigit (h : c.isDigit = true) : ¬ (c = '+' ∨ c = '-') := by
  rintro (rfl | rfl) <;> cases h

/-- An exponent is taken whole. -/
theorem IsExponent.exponentLength_append (h : IsExponent n e) (hrest : EndsNumeral rest) :
    Document.exponentLength (e ++ rest) = e.length := by
  have hdigits := noDigit_of_endsNumeral hrest
  cases h with
  | none => exact exponentLength_of_cuts hrest.cuts
  | @plain c ds he hne h =>
    -- A digit follows the letter, so no sign is taken.
    have hsign : ∀ s, (ds ++ rest).head? = some s → ¬ (s = '+' ∨ s = '-') := by
      obtain ⟨d, ds, rfl⟩ := List.exists_cons_of_ne_nil hne
      rintro s ⟨⟩
      exact not_sign_of_isDigit (h d (by simp))
    rw [List.cons_append, exponentLength_plain he hsign, spanDigits_append h hdigits]
    exact if_neg (mt List.length_eq_zero_iff.1 hne)
  | plus he hne h =>
    rw [List.cons_append, List.cons_append, exponentLength_sign he (.inl rfl),
      spanDigits_append h hdigits]
    exact if_neg (mt List.length_eq_zero_iff.1 hne)
  | minus he hne h =>
    rw [List.cons_append, List.cons_append, exponentLength_sign he (.inr rfl),
      spanDigits_append h hdigits]
    exact if_neg (mt List.length_eq_zero_iff.1 hne)

/-- The first character behind the fraction of a number is none of a fraction. -/
theorem IsExponent.head_append (h : IsExponent n e) (hrest : EndsNumeral rest) :
    ∀ c, (e ++ rest).head? = some c → c.isDigit = false ∧ c ≠ '.' := by
  have hletter : ∀ c, c = 'e' ∨ c = 'E' → c.isDigit = false ∧ c ≠ '.' := by
    rintro c (rfl | rfl) <;> decide
  intro c hc
  cases h with
  | none =>
    refine ⟨noDigit_of_endsNumeral hrest c hc, ?_⟩
    rintro rfl
    cases hrest '.' hc
  | plain he | plus he | minus he =>
    cases hc
    exact hletter c he

/-- The first character behind the integer of a number is no digit. -/
theorem IsFraction.noDigit_append (hf : IsFraction ds f) (he : IsExponent n e)
    (hrest : EndsNumeral rest) : NoDigit (f ++ (e ++ rest)) := by
  cases hf with
  | none => exact fun c hc => (he.head_append hrest c hc).1
  | digits =>
    rintro c ⟨⟩
    rfl

end Parts

/-! ## Numbers -/

section Numbers

variable {cs w ds f e rest : List Char} {d : Decimal} {n : Int}

theorem IsWhole.integerLength_append (h : IsWhole w) (hrest : NoDigit rest) :
    Document.integerLength (w ++ rest) = w.length := by
  obtain ⟨c, more, rfl, hc⟩ := h.exists_digit
  have hsign : (0 : Nat) = if (c :: more ++ rest).head? = some '-' then 1 else 0 := by
    rw [if_neg]
    rintro ⟨⟩
    cases hc
  rw [integerLength_eq hsign, List.drop_zero, h.wholeLength_append hrest, Nat.zero_add]
  exact if_neg (mt List.length_eq_zero_iff.1 h.ne_nil)

theorem IsWhole.integerLength_minus_append (h : IsWhole w) (hrest : NoDigit rest) :
    Document.integerLength ('-' :: (w ++ rest)) = ('-' :: w).length := by
  have hsign : 1 = if ('-' :: (w ++ rest)).head? = some '-' then 1 else 0 := rfl
  rw [integerLength_eq hsign, List.drop_one, List.tail_cons, h.wholeLength_append hrest,
    if_neg (mt List.length_eq_zero_iff.1 h.ne_nil), List.length_cons, Nat.add_comm]

/-- A fraction and an exponent are taken behind an integer. -/
theorem lengthBehind_spelled (hf : Document.fractionLength (f ++ (e ++ rest)) = f.length)
    (he : Document.exponentLength (e ++ rest) = e.length) :
    lengthBehind w.length (w ++ (f ++ (e ++ rest))) = (w ++ (f ++ e)).length := by
  have hdrop : (w ++ (f ++ (e ++ rest))).drop (w.length + f.length) = e ++ rest := by
    rw [← List.append_assoc, ← List.length_append, List.drop_left]
  simp only [lengthBehind, List.drop_left, hf, hdrop, he, List.length_append, Nat.add_assoc]

/-- A number is taken whole. -/
theorem SpellsNumber.numberLength_append (h : SpellsNumber cs d) (hrest : EndsNumeral rest) :
    numberLength (cs ++ rest) = cs.length := by
  cases h with
  | @nonnegative w ds f e n hw hf he =>
    have hdigits := hf.noDigit_append he hrest
    have hassoc : w ++ (f ++ e) ++ rest = w ++ (f ++ (e ++ rest)) := by
      simp only [List.append_assoc]
    rw [numberLength_eq, hassoc, hw.integerLength_append hdigits,
      if_neg (mt List.length_eq_zero_iff.1 hw.ne_nil)]
    exact lengthBehind_spelled (hf.fractionLength_append (he.head_append hrest))
      (he.exponentLength_append hrest)
  | @negative w ds f e n hw hf he =>
    have hdigits := hf.noDigit_append he hrest
    have hassoc : '-' :: (w ++ (f ++ e)) ++ rest = '-' :: (w ++ (f ++ (e ++ rest))) := by
      simp only [List.append_assoc, List.cons_append]
    rw [numberLength_eq, hassoc, hw.integerLength_minus_append hdigits,
      if_neg (mt List.length_eq_zero_iff.1 (List.cons_ne_nil _ w))]
    exact lengthBehind_spelled (hf.fractionLength_append (he.head_append hrest))
      (he.exponentLength_append hrest)

/-- The power of ten that the characters of an exponent write. -/
def exponentValue : List Char → Int
  | _ :: '-' :: digits => -(Decimal.natOfDigits digits : Int)
  | _ :: '+' :: digits => Decimal.natOfDigits digits
  | _ :: digits => Decimal.natOfDigits digits
  | [] => 0

theorem IsExponent.value_eq (h : IsExponent n e) : exponentValue e = n := by
  cases h with
  | none => rfl
  | plus => rfl
  | minus => rfl
  | @plain c ds he hne h =>
    obtain ⟨d, ds, rfl⟩ := List.exists_cons_of_ne_nil hne
    have hd := not_sign_of_isDigit (h d (by simp))
    refine exponentValue.eq_3 c (d :: ds) ?_ ?_
    · rintro _ ⟨⟩
      exact hd (.inr rfl)
    · rintro _ ⟨⟩
      exact hd (.inl rfl)

/-- The digits of a fraction at the start, and what follows them. -/
def spanFraction (cs : List Char) : List Char × List Char :=
  match cs with
  | '.' :: after => Decimal.spanDigits after
  | _ => ([], cs)

theorem ofLiteral_eq (negative : Bool) (hspan : Decimal.spanDigits cs = (w, rest)) :
    Decimal.ofLiteral negative cs =
      ⟨negative, Decimal.natOfDigits (w ++ (spanFraction rest).1),
        exponentValue (spanFraction rest).2 - (spanFraction rest).1.length⟩ := by
  unfold Decimal.ofLiteral
  rw [hspan]
  rfl

theorem IsFraction.spanFraction_append (h : IsFraction ds f)
    (hrest : ∀ c, rest.head? = some c → c.isDigit = false ∧ c ≠ '.') :
    spanFraction (f ++ rest) = (ds, rest) := by
  cases h with
  | none =>
    refine spanFraction.eq_2 rest ?_
    rintro after rfl
    exact (hrest '.' rfl).2 rfl
  | digits _ h => exact spanDigits_append h fun c hc => (hrest c hc).1

/-- A literal is read as the decimal that its parts write. -/
theorem ofLiteral_spelled (negative : Bool) (hw : IsWhole w) (hf : IsFraction ds f)
    (he : IsExponent n e) :
    Decimal.ofLiteral negative (w ++ (f ++ e)) =
      ⟨negative, Decimal.natOfDigits (w ++ ds), n - ds.length⟩ := by
  have hempty : EndsNumeral [] := fun _ hc => nomatch hc
  have hdigits := hf.noDigit_append he hempty
  have hhead := he.head_append hempty
  rw [List.append_nil] at hdigits hhead
  rw [ofLiteral_eq negative (spanDigits_append hw.areDigits hdigits),
    hf.spanFraction_append hhead, he.value_eq]

/-- The decimal that is read of a number is the one that it writes. -/
theorem SpellsNumber.ofLiteral (h : SpellsNumber cs d) :
    Decimal.ofLiteral (cs.head? = some '-') (cs.drop (if cs.head? = some '-' then 1 else 0)) =
      d := by
  cases h with
  | @nonnegative w ds f e n hw hf he =>
    have hsign : ¬ ((w ++ (f ++ e)).head? = some '-') := by
      obtain ⟨c, more, rfl, hc⟩ := hw.exists_digit
      rintro ⟨⟩
      cases hc
    rw [if_neg hsign, decide_eq_false hsign, List.drop_zero]
    exact ofLiteral_spelled false hw hf he
  | negative hw hf he => exact ofLiteral_spelled true hw hf he

/-- A number begins with a digit or with a minus sign. -/
theorem SpellsNumber.exists_cons (h : SpellsNumber cs d) :
    ∃ c more, cs = c :: more ∧ (c = '-' ∨ c.isDigit = true) := by
  cases h with
  | nonnegative hw hf he =>
    obtain ⟨c, more, rfl, hc⟩ := hw.exists_digit
    exact ⟨c, _, rfl, .inr hc⟩
  | negative hw hf he => exact ⟨'-', _, rfl, .inl rfl⟩

end Numbers

end ResourceTables.Json
