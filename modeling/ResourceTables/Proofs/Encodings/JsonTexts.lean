import Mathlib.Algebra.Group.Nat.Defs
import Mathlib.Data.List.Basic
import ResourceTables.Json.Token

/-!
# Texts in JSON

Writing a text as a JSON string and reading it gives the text back. Characters outside of ASCII are
written as one or two units of four hexadecimal digits.

* `Text.readHex?_hexDigits`: reading hexadecimal digits inverts writing them;
* `Json.decode_encode`: reading a string inverts writing it;
* `Json.stringLength?_encode`: the lexer takes what is written, up to the closing quote.
-/

namespace ResourceTables

namespace Text

/-! ## Hexadecimal digits -/

theorem hexValue?_hexDigit {n : Nat} (h : n < 16) : hexValue? (hexDigit n) = some n := by
  revert n
  decide

theorem length_hexDigits (width n : Nat) : (hexDigits width n).length = width := by
  induction width generalizing n with
  | zero => rfl
  | succ width ih => rw [hexDigits, List.length_append, ih, List.length_singleton]

/-- Reading digits inverts writing them, as far as they reach. -/
theorem readHex?_hexDigits (width n : Nat) :
    readHex? (hexDigits width n) = some (n % 16 ^ width) := by
  induction width generalizing n with
  | zero =>
    rw [Nat.pow_zero, Nat.mod_one]
    rfl
  | succ width ih =>
    have hdigit := hexValue?_hexDigit (Nat.mod_lt n (by decide : 0 < 16))
    have hfirst := ih (n / 16)
    rw [readHex?] at hfirst ⊢
    rw [hexDigits, List.foldlM_append, hfirst, Nat.pow_succ', Nat.mod_mul]
    simp [hdigit]
    omega

end Text

namespace Json

/-- How a character is written: with a short escape, as it is, as one unit, or as two units. -/
theorem encodeChar_cases (c : Char) :
    (∃ e, encodeChar c = ['\\', e] ∧ simpleEscape? e = some c) ∨
      (encodeChar c = [c] ∧ c ≠ '"' ∧ c ≠ '\\' ∧ 0x20 ≤ c.toNat) ∨
      (encodeChar c = unitEscape c.toNat ∧ c.toNat < 0x10000) ∨
      (encodeChar c = unitEscape (0xD800 + (c.toNat - 0x10000) / 0x400) ++
        unitEscape (0xDC00 + (c.toNat - 0x10000) % 0x400) ∧ 0x10000 ≤ c.toNat) := by
  generalize hx : encodeChar c = x
  unfold encodeChar at hx
  split_ifs at hx with hquote hslash hn hr ht hf hb
  · exact .inl ⟨'"', hx.symm, by rw [hquote]; rfl⟩
  · exact .inl ⟨'\\', hx.symm, by rw [hslash]; rfl⟩
  · exact .inl ⟨'n', hx.symm, by rw [hn]; rfl⟩
  · exact .inl ⟨'r', hx.symm, by rw [hr]; rfl⟩
  · exact .inl ⟨'t', hx.symm, by rw [ht]; rfl⟩
  · exact .inl ⟨'f', hx.symm, by rw [hf]; rfl⟩
  · exact .inl ⟨'b', hx.symm, by rw [hb]; rfl⟩
  -- No short escape is left.
  dsimp only at hx
  split_ifs at hx with hplain hunit
  · exact .inr (.inl ⟨hx.symm, hquote, hslash, hplain.1⟩)
  · exact .inr (.inr (.inl ⟨hx.symm, hunit⟩))
  · exact .inr (.inr (.inr ⟨hx.symm, Nat.le_of_not_lt hunit⟩))

/-! ## Reading -/

section Decoding

variable {n : Nat} {cs : List Char}

theorem unit?_hexDigits (h : n < 0x10000) : unit? (Text.hexDigits 4 n ++ cs) = some (n, cs) := by
  have hlength := Text.length_hexDigits 4 n
  have hread : Text.readHex? (Text.hexDigits 4 n) = some n := by
    rw [Text.readHex?_hexDigits, Nat.mod_eq_of_lt (Nat.lt_of_lt_of_eq h (by decide))]
  rw [unit?, List.take_left' hlength, List.drop_left' hlength, if_pos hlength, hread]
  rfl

/-- A unit outside of the pairs is a character by itself. -/
theorem unitChar_single (h : ¬ isHighUnit n) (h' : ¬ isLowUnit n) :
    unitChar n cs = (Char.ofNat n, cs) := by
  simp only [unitChar, if_neg h, if_neg h']

/-- Two units together are one character beyond the basic plane. -/
theorem unitChar_pair (h : 0x10000 ≤ n) (h' : n < 0x110000) :
    unitChar (0xD800 + (n - 0x10000) / 0x400)
      (unitEscape (0xDC00 + (n - 0x10000) % 0x400) ++ cs) = (Char.ofNat n, cs) := by
  have hhigh : isHighUnit (0xD800 + (n - 0x10000) / 0x400) := by
    simp only [isHighUnit, Bool.and_eq_true, decide_eq_true_eq]
    omega
  have hlow : isLowUnit (0xDC00 + (n - 0x10000) % 0x400) := by
    simp only [isLowUnit, Bool.and_eq_true, decide_eq_true_eq]
    omega
  have hunit : 0xDC00 + (n - 0x10000) % 0x400 < 0x10000 := by omega
  have hsum : 0x10000 + (0xD800 + (n - 0x10000) / 0x400 - 0xD800) * 0x400 +
      (0xDC00 + (n - 0x10000) % 0x400 - 0xDC00) = n := by omega
  simp only [unitChar, if_pos hhigh, unitEscape, List.cons_append, unit?_hexDigits hunit,
    if_pos hlow, hsum]

theorem decodeFrom_escape {e c : Char} (h : simpleEscape? e = some c) (fuel : Nat) :
    decodeFrom (fuel + 1) ('\\' :: e :: cs) =
      (decodeFrom fuel cs).map fun (cs, rest) => (c :: cs, rest) := by
  have hu : e ≠ 'u' := by
    rintro rfl
    cases h
  simp [decodeFrom, h]

theorem decodeFrom_plain {c : Char} (hquote : c ≠ '"') (hslash : c ≠ '\\') (h : 0x20 ≤ c.toNat)
    (fuel : Nat) :
    decodeFrom (fuel + 1) (c :: cs) =
      (decodeFrom fuel cs).map fun (cs, rest) => (c :: cs, rest) := by
  simp only [decodeFrom, if_neg hquote, if_neg hslash, if_neg (Nat.not_lt.2 h)]

theorem decodeFrom_unit {c : Char} {after : List Char} (h : n < 0x10000)
    (hc : unitChar n cs = (c, after)) (fuel : Nat) :
    decodeFrom (fuel + 1) (unitEscape n ++ cs) =
      (decodeFrom fuel after).map fun (cs, rest) => (c :: cs, rest) := by
  simp [unitEscape, decodeFrom, unit?_hexDigits h, hc]

/-- Reading takes one written character at a time. -/
theorem decodeFrom_encodeChar (c : Char) (fuel : Nat) :
    decodeFrom (fuel + 1) (encodeChar c ++ cs) =
      (decodeFrom fuel cs).map fun (cs, rest) => (c :: cs, rest) := by
  have hvalid : c.toNat < 0xD800 ∨ 0xDFFF < c.toNat ∧ c.toNat < 0x110000 := c.valid
  rcases encodeChar_cases c with ⟨e, he, hmeans⟩ | ⟨he, hquote, hslash, h⟩ | ⟨he, h⟩ | ⟨he, h⟩
  · rw [he]
    exact decodeFrom_escape hmeans fuel
  · rw [he]
    exact decodeFrom_plain hquote hslash h fuel
  · -- The units of pairs are no characters.
    have hsingle : unitChar c.toNat cs = (c, cs) := by
      rw [unitChar_single, Char.ofNat_toNat]
      · simp only [isHighUnit, Bool.and_eq_true, decide_eq_true_eq]
        omega
      · simp only [isLowUnit, Bool.and_eq_true, decide_eq_true_eq]
        omega
    rw [he]
    exact decodeFrom_unit h hsingle fuel
  · have hpair : unitChar (0xD800 + (c.toNat - 0x10000) / 0x400)
        (unitEscape (0xDC00 + (c.toNat - 0x10000) % 0x400) ++ cs) = (c, cs) := by
      rw [unitChar_pair h (by omega), Char.ofNat_toNat]
    rw [he, List.append_assoc]
    exact decodeFrom_unit (by omega) hpair fuel

theorem length_encodeChar_pos (c : Char) : 0 < (encodeChar c).length := by
  rcases encodeChar_cases c with ⟨e, he, -⟩ | ⟨he, -⟩ | ⟨he, -⟩ | ⟨he, -⟩ <;>
    simp [he, unitEscape]

/-- Reading a string inverts writing it. -/
theorem decode_encode (s : String) : decode (encode s).tail = .ok (s.toList, []) := by
  -- One unit of fuel for each character of the text is enough.
  have hread : ∀ (cs : List Char) (fuel : Nat), (cs.flatMap encodeChar).length < fuel →
      decodeFrom fuel (cs.flatMap encodeChar ++ ['"']) = .ok (cs, []) := by
    intro cs
    induction cs with
    | nil =>
      intro fuel h
      cases fuel with
      | zero => cases h
      | succ fuel => rfl
    | cons c cs ih =>
      intro fuel h
      cases fuel with
      | zero => cases h
      | succ fuel =>
        have hfuel : (cs.flatMap encodeChar).length < fuel := by
          have hpos := length_encodeChar_pos c
          rw [List.flatMap_cons, List.length_append] at h
          omega
        rw [List.flatMap_cons, List.append_assoc, decodeFrom_encodeChar, ih fuel hfuel]
        rfl
  refine hread s.toList _ ?_
  simp [encode]

end Decoding

/-! ## Cutting off -/

section Lexing

variable {cs rest : List Char}

/-- The character may stand between quotes as it is. -/
def IsPlain (c : Char) : Prop :=
  c ≠ '"' ∧ c ≠ '\\' ∧ c ≠ '\n' ∧ c ≠ '\r'

theorem not_control {c : Char} (h : 0x20 ≤ c.toNat) : ¬ (c = '\n' ∨ c = '\r') := by
  rintro (rfl | rfl)
  · exact Nat.not_succ_le_self 0x1F (Nat.le_trans h (by decide))
  · exact Nat.not_succ_le_self 0x1F (Nat.le_trans h (by decide))

theorem isPlain_hexDigit {n : Nat} (h : n < 16) : IsPlain (Text.hexDigit n) := by
  unfold IsPlain
  revert n
  decide

theorem isPlain_of_mem_hexDigits {width n : Nat} {c : Char} (h : c ∈ Text.hexDigits width n) :
    IsPlain c := by
  induction width generalizing n with
  | zero => cases h
  | succ width ih =>
    rw [Text.hexDigits] at h
    rcases List.mem_append.1 h with h | h
    · exact ih h
    · obtain rfl := List.mem_singleton.1 h
      exact isPlain_hexDigit (Nat.mod_lt n (by decide))

theorem stringLength?_plain {c : Char} (h : IsPlain c) :
    stringLength? (c :: cs) = (stringLength? cs).map (· + 1) := by
  obtain ⟨hquote, hslash, hnewline, -⟩ := h
  rw [stringLength?.eq_3, if_neg hnewline]
  · exact hquote
  · rintro _ _ rfl
    exact absurd rfl hslash

theorem stringLength?_plain_append {plain : List Char} (h : ∀ c ∈ plain, IsPlain c) :
    stringLength? (plain ++ cs) = (stringLength? cs).map (· + plain.length) := by
  induction plain with
  | nil => simp
  | cons c plain ih =>
    rw [List.cons_append, stringLength?_plain (h c (by simp)), ih fun c hc => h c (by simp [hc]),
      Option.map_map, List.length_cons]
    rfl

theorem stringLength?_escape {e : Char} (h : e ≠ '\n') :
    stringLength? ('\\' :: e :: cs) = (stringLength? cs).map (· + 2) := by
  rw [stringLength?, if_neg h]

theorem stringLength?_unitEscape (n : Nat) :
    stringLength? (unitEscape n ++ cs) = (stringLength? cs).map (· + (unitEscape n).length) := by
  rw [unitEscape, List.cons_append, List.cons_append, stringLength?_escape (by decide),
    stringLength?_plain_append fun c hc => isPlain_of_mem_hexDigits hc, Option.map_map]
  rfl

theorem stringLength?_encodeChar (c : Char) :
    stringLength? (encodeChar c ++ cs) = (stringLength? cs).map (· + (encodeChar c).length) := by
  rcases encodeChar_cases c with ⟨e, he, hmeans⟩ | ⟨he, hquote, hslash, h⟩ | ⟨he, -⟩ | ⟨he, -⟩
  · have hne : e ≠ '\n' := by
      rintro rfl
      cases hmeans
    rw [he]
    exact stringLength?_escape hne
  · rw [he]
    refine stringLength?_plain ⟨hquote, hslash, ?_, ?_⟩
    · exact fun hc => not_control h (.inl hc)
    · exact fun hc => not_control h (.inr hc)
  · rw [he]
    exact stringLength?_unitEscape _
  · rw [he, List.append_assoc, stringLength?_unitEscape, stringLength?_unitEscape, Option.map_map,
      List.length_append]
    refine congrArg (Option.map · (stringLength? cs)) (funext fun n => ?_)
    rw [Function.comp_apply, Nat.add_assoc, Nat.add_comm (List.length _) (List.length _)]

/-- The characters behind the opening quote are one token, up to the closing quote. -/
theorem stringLength?_encode (s : String) (rest : List Char) :
    stringLength? ((encode s).tail ++ rest) = some (encode s).tail.length := by
  have hlength : ∀ cs : List Char, stringLength? (cs.flatMap encodeChar ++ '"' :: rest) =
      some ((cs.flatMap encodeChar).length + 1) := by
    intro cs
    induction cs with
    | nil => rfl
    | cons c cs ih =>
      rw [List.flatMap_cons, List.append_assoc, stringLength?_encodeChar, ih, List.length_append]
      simp only [Option.map_some, Option.some.injEq]
      omega
  have hencode := hlength s.toList
  simpa [encode] using hencode

/-- Texts are written without carriage returns. -/
theorem return_not_mem_encode (s : String) : '\r' ∉ encode s := by
  have hunit : ∀ n, '\r' ∉ unitEscape n := by
    intro n h
    rw [unitEscape, List.mem_cons, List.mem_cons] at h
    rcases h with h | h | h
    · cases h
    · cases h
    · exact (isPlain_of_mem_hexDigits h).2.2.2 rfl
  -- A carriage return is a control character, so it is written as an escape.
  have hchar : ∀ c, '\r' ∉ encodeChar c := by
    intro c h
    rcases encodeChar_cases c with ⟨e, he, hmeans⟩ | ⟨he, -, -, hc⟩ | ⟨he, -⟩ | ⟨he, -⟩
    · rw [he] at h
      obtain rfl : '\r' = e := by simpa using h
      cases hmeans
    · rw [he] at h
      obtain rfl := List.mem_singleton.1 h
      exact not_control hc (.inr rfl)
    · rw [he] at h
      exact hunit _ h
    · rw [he] at h
      exact (List.mem_append.1 h).elim (hunit _) (hunit _)
  intro h
  simp only [encode, List.cons_append, List.mem_cons, List.mem_append, List.mem_flatMap,
    List.not_mem_nil, or_false] at h
  rcases h with h | ⟨c, -, hc⟩ | h
  · cases h
  · exact hchar c hc
  · cases h

end Lexing

end Json

end ResourceTables
