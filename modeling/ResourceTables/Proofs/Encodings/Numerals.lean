import Mathlib.Data.List.TakeDrop
import ResourceTables.Json.Token

/-!
# Numerals of both notations

A numeral that is a number literal in the native notation and a number in JSON is read in full in
both, whatever construct comes behind it.

* `Numeral`: characters that both notations read as one number, which therefore has no sign;
* `Numeral.literalLength_append`, `Numeral.numberLength_append`: it is cut off where it ends;
* `Numeral.isNumeralChar_of_mem`: what characters it consists of.
-/

namespace ResourceTables

/-- A numeral that is valid in both notations. -/
structure Numeral where
  /-- The characters. -/
  chars : List Char
  /-- There is at least one. -/
  ne_nil : chars ≠ []
  /-- All of them are a native number literal. -/
  native : Decimal.literalLength chars = chars.length
  /-- All of them are a JSON number. -/
  json : Json.numberLength chars = chars.length

/-- The characters that numerals consist of. -/
def isNumeralChar (c : Char) : Bool :=
  c.isDigit || c == '.' || c == 'e' || c == 'E' || c == '+' || c == '-'

/-- The digits. -/
def digits : List Char := ['0', '1', '2', '3', '4', '5', '6', '7', '8', '9']

theorem mem_digits_of_isDigit {c : Char} (h : c.isDigit) : c ∈ digits := by
  simp only [Char.isDigit, Bool.and_eq_true, decide_eq_true_eq] at h
  have hlow : 48 ≤ c.toNat := h.1
  have hhigh : c.toNat < 58 := Nat.lt_succ_of_le h.2
  have hall : ∀ n < 58, 48 ≤ n → Char.ofNat n ∈ digits := by decide
  have hc := hall c.toNat hhigh hlow
  rwa [Char.ofNat_toNat] at hc

/-- What none of the ten digits has, no digit has. -/
theorem eq_false_of_mem_digits {p : Char → Bool} {c : Char} (hnone : digits.any p = false)
    (h : c ∈ digits) : p c = false :=
  Bool.eq_false_iff.2 (List.any_eq_false.1 hnone c h)

/-- No character of a numeral comes first. -/
def EndsNumeral (rest : List Char) : Prop :=
  ∀ c, rest.head? = some c → isNumeralChar c = false

theorem endsNumeral_cons {c : Char} {rest : List Char} (h : isNumeralChar c = false) :
    EndsNumeral (c :: rest) := by
  rintro c' ⟨⟩
  exact h

/-- The characters continue no numeral: no character of one comes first, or a point without a digit
behind it. -/
def CutsNumeral (rest : List Char) : Prop :=
  ∀ c more, rest = c :: more →
    isNumeralChar c = false ∨ c = '.' ∧ ∀ d, more.head? = some d → d.isDigit = false

theorem EndsNumeral.cuts {rest : List Char} (h : EndsNumeral rest) : CutsNumeral rest := by
  rintro c more rfl
  exact .inl (h c rfl)

/-! ## Parts of a numeral -/

section Parts

variable {cs rest : List Char}

/-- What cuts a numeral off begins with no digit, no sign and no letter of an exponent. -/
theorem CutsNumeral.head {c : Char} (h : CutsNumeral (c :: rest)) :
    c.isDigit = false ∧ ¬ (c = 'e' ∨ c = 'E') ∧ ¬ (c = '+' ∨ c = '-') := by
  rcases h c rest rfl with hchar | ⟨rfl, -⟩
  · refine ⟨?_, ?_, ?_⟩
    · simp only [isNumeralChar, Bool.or_eq_false_iff] at hchar
      exact hchar.1.1.1.1.1
    · rintro (rfl | rfl) <;> cases hchar
    · rintro (rfl | rfl) <;> cases hchar
  · decide

theorem spanDigits_eq (cs : List Char) :
    Decimal.spanDigits cs = (cs.takeWhile Char.isDigit, cs.dropWhile Char.isDigit) := by
  rw [Decimal.spanDigits, List.span_eq_takeWhile_dropWhile]

theorem takeWhile_isDigit_append (h : CutsNumeral rest) :
    (cs ++ rest).takeWhile Char.isDigit = cs.takeWhile Char.isDigit := by
  induction cs with
  | nil =>
    cases rest with
    | nil => rfl
    | cons c rest => simp [h.head.1]
  | cons c cs ih => rw [List.cons_append, List.takeWhile_cons, List.takeWhile_cons, ih]

/-- How many digits stand at the start. -/
theorem length_spanDigits_append (cs : List Char) (h : CutsNumeral rest) :
    (Decimal.spanDigits (cs ++ rest)).1.length = (Decimal.spanDigits cs).1.length := by
  simp only [spanDigits_eq]
  rw [takeWhile_isDigit_append h]

theorem length_spanDigits_of_cuts (h : CutsNumeral rest) :
    (Decimal.spanDigits rest).1.length = 0 := by
  have hlength : (Decimal.spanDigits ([] ++ rest)).1.length = 0 :=
    length_spanDigits_append [] h
  exact hlength

theorem fractionLength_of_ne_point {c : Char} (h : c ≠ '.') :
    Document.fractionLength (c :: cs) = 0 := by
  rw [Document.fractionLength.eq_2]
  rintro rest ⟨⟩
  exact h rfl

theorem fractionLength_of_cuts (h : CutsNumeral rest) : Document.fractionLength rest = 0 := by
  cases rest with
  | nil => rfl
  | cons c rest =>
    by_cases hc : c = '.'
    · subst hc
      -- A point without digits behind it is no fraction.
      have hdigit : ∀ d, rest.head? = some d → d.isDigit = false := by
        rcases h '.' rest rfl with hchar | ⟨-, hdigit⟩
        · cases hchar
        · exact hdigit
      have hnone : (Decimal.spanDigits rest).1.length = 0 := by
        cases rest with
        | nil => rfl
        | cons d rest => simp [spanDigits_eq, hdigit d rfl]
      simp [Document.fractionLength, hnone]
    · exact fractionLength_of_ne_point hc

theorem fractionLength_append (h : CutsNumeral rest) :
    Document.fractionLength (cs ++ rest) = Document.fractionLength cs := by
  cases cs with
  | nil => exact fractionLength_of_cuts h
  | cons c cs =>
    by_cases hc : c = '.'
    · subst hc
      simp only [List.cons_append, Document.fractionLength, length_spanDigits_append _ h]
    · rw [List.cons_append, fractionLength_of_ne_point hc, fractionLength_of_ne_point hc]

theorem exponentLength_of_ne {c : Char} (h : ¬ (c = 'e' ∨ c = 'E')) :
    Document.exponentLength (c :: cs) = 0 := by
  simp only [Document.exponentLength, if_neg h]

theorem exponentLength_of_cuts (h : CutsNumeral rest) : Document.exponentLength rest = 0 := by
  cases rest with
  | nil => rfl
  | cons c rest => exact exponentLength_of_ne h.head.2.1

theorem exponentLength_append (h : CutsNumeral rest) :
    Document.exponentLength (cs ++ rest) = Document.exponentLength cs := by
  match cs with
  | [] => exact exponentLength_of_cuts h
  | [e] =>
    by_cases he : e = 'e' ∨ e = 'E'
    · -- What comes behind is neither a sign nor a digit.
      have hdigits := length_spanDigits_of_cuts h
      cases rest with
      | nil => rfl
      | cons c rest =>
        simp only [List.cons_append, List.nil_append, Document.exponentLength, if_pos he,
          if_neg h.head.2.2, List.drop_zero, hdigits]
        rfl
    · rw [List.cons_append, exponentLength_of_ne he, exponentLength_of_ne he]
  | e :: s :: cs =>
    by_cases he : e = 'e' ∨ e = 'E'
    · -- The sign belongs to the exponent, and digits are looked for behind it.
      by_cases hs : s = '+' ∨ s = '-'
      · simp only [List.cons_append, Document.exponentLength, if_pos he, if_pos hs,
          List.drop_succ_cons, List.drop_zero, length_spanDigits_append _ h]
      · have hdigits := length_spanDigits_append (s :: cs) h
        rw [List.cons_append] at hdigits
        simp only [List.cons_append, Document.exponentLength, if_pos he, if_neg hs,
          List.drop_zero, hdigits]
    · rw [List.cons_append, exponentLength_of_ne he, exponentLength_of_ne he]

/-- The length of a numeral with the given number of characters before its fraction. -/
def lengthBehind (whole : Nat) (cs : List Char) : Nat :=
  let fraction := Document.fractionLength (cs.drop whole)
  whole + fraction + Document.exponentLength (cs.drop (whole + fraction))

theorem lengthBehind_append {whole : Nat} (h : lengthBehind whole cs = cs.length)
    (hrest : CutsNumeral rest) : lengthBehind whole (cs ++ rest) = cs.length := by
  simp only [lengthBehind] at h ⊢
  have hwhole : whole ≤ cs.length := by omega
  rw [List.drop_append_of_le_length hwhole, fractionLength_append hrest]
  have hfraction : whole + Document.fractionLength (cs.drop whole) ≤ cs.length := by omega
  rw [List.drop_append_of_le_length hfraction, exponentLength_append hrest]
  exact h

/-- How a native literal is cut off: digits, a fraction and an exponent. -/
theorem literalLength_eq (cs : List Char) :
    Decimal.literalLength cs =
      if (Decimal.spanDigits cs).1.length = 0 then 0
      else lengthBehind (Decimal.spanDigits cs).1.length cs := by
  have hdrop : (Decimal.spanDigits cs).2 = cs.drop (Decimal.spanDigits cs).1.length := by
    rw [spanDigits_eq]
    calc cs.dropWhile Char.isDigit
      _ = (cs.takeWhile Char.isDigit ++ cs.dropWhile Char.isDigit).drop
          (cs.takeWhile Char.isDigit).length := List.drop_left.symm
      _ = cs.drop (cs.takeWhile Char.isDigit).length := by rw [List.takeWhile_append_dropWhile]
  generalize hspan : Decimal.spanDigits cs = span at hdrop
  obtain ⟨whole, after⟩ := span
  simp only [Decimal.literalLength, hspan, lengthBehind, ← List.drop_drop, ← hdrop,
    List.isEmpty_iff_length_eq_zero, Document.fractionLength]
  -- The lengths differ only in the order in which the parts of the exponent are added up.
  generalize List.drop _ after = exponent
  rcases exponent with _ | ⟨e, _ | ⟨s, rest⟩⟩
  · rfl
  · simp only [Document.exponentLength]
    rfl
  · simp only [Document.exponentLength]
    congr 4
    omega

/-- Characters that are a whole native literal start with a digit. -/
theorem exists_digit_of_literalLength (hne : cs ≠ [])
    (h : Decimal.literalLength cs = cs.length) : ∃ c more, cs = c :: more ∧ c.isDigit := by
  obtain ⟨c, more, rfl⟩ := List.exists_cons_of_ne_nil hne
  refine ⟨c, more, rfl, ?_⟩
  rw [literalLength_eq] at h
  by_contra hc
  rw [Bool.not_eq_true] at hc
  have hnone : (Decimal.spanDigits (c :: more)).1.length = 0 := by simp [spanDigits_eq, hc]
  rw [if_pos hnone] at h
  cases h

/-- The native lexer takes a whole literal and nothing behind it. -/
theorem literalLength_append (hne : cs ≠ []) (h : Decimal.literalLength cs = cs.length)
    (hrest : CutsNumeral rest) : Decimal.literalLength (cs ++ rest) = cs.length := by
  rw [literalLength_eq] at h ⊢
  rw [length_spanDigits_append _ hrest]
  split at h
  · exact absurd (List.length_eq_zero_iff.1 h.symm) hne
  · next hwhole =>
    rw [if_neg hwhole]
    exact lengthBehind_append h hrest

/-- How a JSON number is cut off: an integer, a fraction and an exponent. -/
theorem numberLength_eq (cs : List Char) :
    Json.numberLength cs =
      if Document.integerLength cs = 0 then 0 else lengthBehind (Document.integerLength cs) cs :=
  rfl

/-- An integer without a sign is a zero, or all digits at the start. -/
theorem integerLength_of_isDigit {c : Char} (hc : c.isDigit) :
    Document.integerLength (c :: cs) =
      if c = '0' then 1 else (Decimal.spanDigits (c :: cs)).1.length := by
  have hsign : ¬ ((c :: cs).head? = some '-') := by
    rintro ⟨⟩
    cases hc
  simp only [Document.integerLength, if_neg hsign, List.drop_zero, Nat.zero_add]
  split
  · next heq =>
    cases heq
    rfl
  · next hne =>
    have hzero : c ≠ '0' := fun heq => hne cs (by rw [heq])
    rw [if_neg hzero]
    split
    · next hlength => exact hlength.symm
    · rfl

/-! ### Characters -/

theorem isNumeralChar_of_isDigit {c : Char} (h : c.isDigit) : isNumeralChar c := by
  simp [isNumeralChar, h]

theorem isDigit_of_mem_take {c : Char} (h : c ∈ cs.take (Decimal.spanDigits cs).1.length) :
    c.isDigit := by
  rw [spanDigits_eq, ← List.prefix_iff_eq_take.1 (List.takeWhile_prefix _)] at h
  exact List.all_eq_true.1 List.all_takeWhile c h

theorem isNumeralChar_of_mem_fraction {c : Char} (h : c ∈ cs.take (Document.fractionLength cs)) :
    isNumeralChar c := by
  cases cs with
  | nil => cases h
  | cons p cs =>
    by_cases hp : p = '.'
    · subst hp
      simp only [Document.fractionLength] at h
      split at h
      · cases h
      · rcases List.mem_cons.1 h with rfl | h
        · rfl
        · exact isNumeralChar_of_isDigit (isDigit_of_mem_take h)
    · rw [fractionLength_of_ne_point hp] at h
      cases h

theorem isNumeralChar_of_mem_exponent {c : Char} (h : c ∈ cs.take (Document.exponentLength cs)) :
    isNumeralChar c := by
  cases cs with
  | nil => cases h
  | cons e cs =>
    by_cases he : e = 'e' ∨ e = 'E'
    · have hletter : isNumeralChar e := by rcases he with rfl | rfl <;> rfl
      cases cs with
      | nil =>
        simp only [Document.exponentLength, if_pos he] at h
        cases h
      | cons s cs =>
        -- The letter, a sign if there is one, and digits are taken.
        by_cases hs : s = '+' ∨ s = '-'
        · have hsign : isNumeralChar s := by rcases hs with rfl | rfl <;> rfl
          simp only [Document.exponentLength, if_pos he, if_pos hs] at h
          split at h
          · cases h
          · rcases List.mem_cons.1 h with rfl | h
            · exact hletter
            · rcases List.mem_cons.1 h with rfl | h
              · exact hsign
              · exact isNumeralChar_of_isDigit (isDigit_of_mem_take h)
        · simp only [Document.exponentLength, if_pos he, if_neg hs] at h
          split at h
          · cases h
          · rcases List.mem_cons.1 h with rfl | h
            · exact hletter
            · exact isNumeralChar_of_isDigit (isDigit_of_mem_take h)
    · rw [exponentLength_of_ne he] at h
      cases h

end Parts

namespace Numeral

variable (n : Numeral) {rest : List Char}

/-- A numeral starts with a digit. -/
theorem exists_digit : ∃ c cs, n.chars = c :: cs ∧ c.isDigit :=
  exists_digit_of_literalLength n.ne_nil n.native

theorem length_ne_zero : n.chars.length ≠ 0 :=
  fun h => n.ne_nil (List.length_eq_zero_iff.1 h)

/-- The native lexer takes the numeral and nothing behind it. -/
theorem literalLength_append (hrest : EndsNumeral rest) :
    Decimal.literalLength (n.chars ++ rest) = n.chars.length :=
  ResourceTables.literalLength_append n.ne_nil n.native hrest.cuts

/-- The JSON lexer takes the numeral and nothing behind it. -/
theorem numberLength_append (hrest : EndsNumeral rest) :
    Json.numberLength (n.chars ++ rest) = n.chars.length := by
  have hinteger : Document.integerLength (n.chars ++ rest) = Document.integerLength n.chars := by
    obtain ⟨c, cs, hcs, hc⟩ := n.exists_digit
    rw [hcs, List.cons_append, integerLength_of_isDigit hc, integerLength_of_isDigit hc,
      ← List.cons_append, length_spanDigits_append _ hrest.cuts]
  have hjson := n.json
  rw [numberLength_eq] at hjson ⊢
  rw [hinteger]
  split at hjson
  · exact absurd hjson.symm n.length_ne_zero
  · next hwhole =>
    rw [if_neg hwhole]
    exact lengthBehind_append hjson hrest.cuts

/-- A numeral consists of digits, a point, the letter of an exponent and its sign. -/
theorem isNumeralChar_of_mem {c : Char} (h : c ∈ n.chars) : isNumeralChar c := by
  have hlength := n.native
  rw [literalLength_eq] at hlength
  split at hlength
  · exact absurd hlength.symm n.length_ne_zero
  · rw [← List.take_length (l := n.chars), ← hlength, lengthBehind, List.take_add, List.take_add]
      at h
    rcases List.mem_append.1 h with h | h
    · rcases List.mem_append.1 h with h | h
      · exact isNumeralChar_of_isDigit (isDigit_of_mem_take h)
      · exact isNumeralChar_of_mem_fraction h
    · exact isNumeralChar_of_mem_exponent h

/-- The number that the numeral writes. -/
def decimal : Decimal :=
  Decimal.ofLiteral false n.chars

end Numeral

end ResourceTables
