import ResourceTables.Proofs.Writing.Texts

/-!
# The language of JSON strings

What may stand between the quotes of a JSON string, and the text that it says: characters as they
are, escapes of one character, and units of four hexadecimal digits, two of which may be the halves
of one character.

* `Json.Spells cs text`: the characters `cs` between two quotes say the text;
* `Json.Spells.decode`, `Json.Passes.spells_of_decode`: a string is decoded if and only if its
  characters say something, and that is what is read;
* `Json.Spells.passes`, `Json.exists_passes_of_stringLength?`: the lexer takes such characters up to
  the closing quote.
-/

namespace ResourceTables.Json

/-- Four hexadecimal digits write the unit. -/
structure IsUnit (hex : List Char) (n : Nat) : Prop where
  /-- There are four of them. -/
  length : hex.length = 4
  /-- Together they write the number. -/
  value : Text.readHex? hex = some n

/-- The escape of the second half of a pair comes first. -/
def StartsLowUnit (cs : List Char) : Prop :=
  ∃ hex n rest, cs = '\\' :: 'u' :: hex ++ rest ∧ IsUnit hex n ∧ isLowUnit n = true

/-- The characters between the quotes of a string say the text. A half of a pair that stands alone
counts as the character that is put in its place. -/
inductive Spells : List Char → List Char → Prop
  | nil : Spells [] []
  | plain {c : Char} {cs text : List Char} (hquote : c ≠ '"') (hslash : c ≠ '\\')
      (hcontrol : 0x20 ≤ c.toNat) (h : Spells cs text) : Spells (c :: cs) (c :: text)
  | escape {e c : Char} {cs text : List Char} (hmeans : simpleEscape? e = some c)
      (h : Spells cs text) : Spells ('\\' :: e :: cs) (c :: text)
  | unit {hex cs text : List Char} {n : Nat} (hunit : IsUnit hex n) (hhigh : isHighUnit n = false)
      (hlow : isLowUnit n = false) (h : Spells cs text) :
      Spells ('\\' :: 'u' :: hex ++ cs) (Char.ofNat n :: text)
  | pair {hex hex' cs text : List Char} {n low : Nat} (hunit : IsUnit hex n)
      (hhigh : isHighUnit n = true) (hunit' : IsUnit hex' low) (hlow : isLowUnit low = true)
      (h : Spells cs text) :
      Spells ('\\' :: 'u' :: hex ++ '\\' :: 'u' :: hex' ++ cs)
        (Char.ofNat (0x10000 + (n - 0xD800) * 0x400 + (low - 0xDC00)) :: text)
  | high {hex cs text : List Char} {n : Nat} (hunit : IsUnit hex n) (hhigh : isHighUnit n = true)
      (hlow : ¬ StartsLowUnit cs) (h : Spells cs text) :
      Spells ('\\' :: 'u' :: hex ++ cs) (unpaired :: text)
  | low {hex cs text : List Char} {n : Nat} (hunit : IsUnit hex n) (hlow : isLowUnit n = true)
      (h : Spells cs text) : Spells ('\\' :: 'u' :: hex ++ cs) (unpaired :: text)

section Units

variable {cs rest hex : List Char} {n : Nat}

theorem unit?_eq_some_iff : unit? cs = some (n, rest) ↔ ∃ hex, cs = hex ++ rest ∧ IsUnit hex n := by
  unfold unit?
  constructor
  · intro h
    split at h
    · next hlength =>
      obtain ⟨value, hread, hpair⟩ := Option.map_eq_some_iff.1 h
      obtain ⟨rfl, rfl⟩ := Prod.mk.inj hpair
      exact ⟨cs.take 4, (List.take_append_drop 4 cs).symm, hlength, hread⟩
    · cases h
  · rintro ⟨hex, rfl, hlength, hread⟩
    rw [List.take_left' hlength, List.drop_left' hlength, if_pos hlength, hread]
    rfl

theorem IsUnit.isPlain (h : IsUnit hex n) : ∀ c ∈ hex, IsPlain c :=
  fun c hc => isPlain_of_hexValue? (Text.isSome_hexValue?_of_readHex? h.value c hc)

/-- What follows the closing quote does not matter to the last unit of a string. -/
theorem startsLowUnit_append_quote : StartsLowUnit (cs ++ '"' :: rest) ↔ StartsLowUnit cs := by
  constructor
  · rintro ⟨hex, n, more, heq, hunit, hlow⟩
    rcases List.append_eq_append_iff.1 heq with ⟨between, hescape, hquote⟩ | ⟨after, rfl, -⟩
    · cases between with
      | nil => exact ⟨hex, n, [], by simp [hescape], hunit, hlow⟩
      | cons c between =>
        -- There is no quote among the characters of an escape.
        obtain ⟨rfl, -⟩ := List.cons.inj hquote
        have hmem : '"' ∈ '\\' :: 'u' :: hex := by
          rw [hescape]
          simp
        have hmem : '"' ∈ hex := by simpa using hmem
        exact absurd rfl (hunit.isPlain _ hmem).1
    · exact ⟨hex, n, after, rfl, hunit, hlow⟩
  · rintro ⟨hex, n, more, rfl, hunit, hlow⟩
    exact ⟨hex, n, more ++ '"' :: rest, by simp, hunit, hlow⟩

/-! ## Units -/

/-- The first half of a pair takes the second half with it. -/
theorem unitChar_pair_of_startsLowUnit {low : Nat} (hhigh : isHighUnit n = true)
    (hunit : IsUnit hex low) (hlow : isLowUnit low = true) :
    unitChar n ('\\' :: 'u' :: hex ++ rest) =
      (Char.ofNat (0x10000 + (n - 0xD800) * 0x400 + (low - 0xDC00)), rest) := by
  have hread : unit? (hex ++ rest) = some (low, rest) := unit?_eq_some_iff.2 ⟨hex, rfl, hunit⟩
  simp only [unitChar, if_pos hhigh, List.cons_append, hread, if_pos hlow]

/-- Without the second half behind it, the first half stands alone. -/
theorem unitChar_high (hhigh : isHighUnit n = true) (hlow : ¬ StartsLowUnit cs) :
    unitChar n cs = (unpaired, cs) := by
  unfold unitChar
  rw [if_pos hhigh]
  split
  · next more =>
    split
    · next low after hread =>
      obtain ⟨hex, rfl, hunit⟩ := unit?_eq_some_iff.1 hread
      exact if_neg fun h => hlow ⟨hex, low, after, rfl, hunit, h⟩
    · rfl
  · rfl

/-- The second half of a pair does not begin one. -/
theorem isHighUnit_of_isLowUnit (h : isLowUnit n = true) : isHighUnit n = false := by
  simp only [isLowUnit, isHighUnit, Bool.and_eq_true, decide_eq_true_eq, Bool.and_eq_false_iff,
    decide_eq_false_iff_not] at h ⊢
  omega

/-- The second half of a pair stands alone where it is not taken with the first. -/
theorem unitChar_low (hlow : isLowUnit n = true) : unitChar n cs = (unpaired, cs) := by
  unfold unitChar
  rw [if_neg (Bool.eq_false_iff.1 (isHighUnit_of_isLowUnit hlow)), if_pos hlow]

end Units

/-! ## Decoding -/

section Decoding

variable {cs rest text hex : List Char} {n fuel : Nat}

/-- A unit and the characters that it is read before say one character more. -/
theorem exists_spells_of_unitChar (hunit : IsUnit hex n) {c : Char} {after : List Char}
    (hchar : unitChar n cs = (c, after))
    (h : ∃ taken, after = taken ++ '"' :: rest ∧ Spells taken text) :
    ∃ taken, '\\' :: 'u' :: hex ++ cs = taken ++ '"' :: rest ∧ Spells taken (c :: text) := by
  obtain ⟨taken, rfl, htaken⟩ := h
  -- Only the first half of a pair looks at what comes behind it.
  cases hhigh : isHighUnit n with
  | true =>
    by_cases hpair : StartsLowUnit cs
    · obtain ⟨hex', low, more, rfl, hunit', hlow⟩ := hpair
      rw [unitChar_pair_of_startsLowUnit hhigh hunit' hlow] at hchar
      obtain ⟨rfl, rfl⟩ := Prod.mk.inj hchar
      exact ⟨_, by simp, .pair hunit hhigh hunit' hlow htaken⟩
    · rw [unitChar_high hhigh hpair] at hchar
      obtain ⟨rfl, rfl⟩ := Prod.mk.inj hchar
      rw [startsLowUnit_append_quote] at hpair
      exact ⟨_, by simp, .high hunit hhigh hpair htaken⟩
  | false =>
    cases hlow : isLowUnit n with
    | true =>
      rw [unitChar_low hlow] at hchar
      obtain ⟨rfl, rfl⟩ := Prod.mk.inj hchar
      exact ⟨_, by simp, .low hunit hlow htaken⟩
    | false =>
      rw [unitChar_single (Bool.eq_false_iff.1 hhigh) (Bool.eq_false_iff.1 hlow)] at hchar
      obtain ⟨rfl, rfl⟩ := Prod.mk.inj hchar
      exact ⟨_, by simp, .unit hunit hhigh hlow htaken⟩

/-- What is decoded is what the characters up to a quote say. -/
theorem ensures_spells (fuel : Nat) (cs : List Char) :
    Ensures (fun (text, rest) => ∃ taken, cs = taken ++ '"' :: rest ∧ Spells taken text)
      (decodeFrom fuel cs) := by
  induction fuel generalizing cs with
  | zero => exact .error
  | succ fuel ih =>
    cases cs with
    | nil => exact .error
    | cons c cs =>
      unfold decodeFrom
      split
      · next hquote => exact .ok ⟨[], by rw [hquote, List.nil_append], .nil⟩
      split
      · next hslash =>
        obtain rfl := hslash
        split
        · next digits =>
          split
          · next n after hread =>
            obtain ⟨hex, rfl, hunit⟩ := unit?_eq_some_iff.1 hread
            obtain ⟨c, behind, hchar⟩ : ∃ c behind, unitChar n after = (c, behind) := ⟨_, _, rfl⟩
            rw [hchar]
            exact (ih behind).map fun _ hresult => exists_spells_of_unitChar hunit hchar hresult
          · exact .error
        · next e after _ =>
          split
          · next c hmeans =>
            refine (ih after).map ?_
            rintro result ⟨taken, rfl, htaken⟩
            exact ⟨_, rfl, .escape hmeans htaken⟩
          · exact .error
        · exact .error
      split
      · exact .error
      · next hquote hslash hcontrol =>
        refine (ih cs).map ?_
        rintro result ⟨taken, rfl, htaken⟩
        exact ⟨_, rfl, .plain hquote hslash (Nat.not_lt.1 hcontrol) htaken⟩

theorem decodeFrom_unitChar (hunit : IsUnit hex n) {c : Char} {after : List Char}
    (hchar : unitChar n cs = (c, after)) :
    decodeFrom (fuel + 1) ('\\' :: 'u' :: hex ++ cs) =
      (decodeFrom fuel after).map fun (cs, rest) => (c :: cs, rest) := by
  have hread : unit? (hex ++ cs) = some (n, cs) := unit?_eq_some_iff.2 ⟨hex, rfl, hunit⟩
  simp [decodeFrom, hread, hchar]

/-- Characters that say a text are decoded to it, up to the quote behind them. -/
theorem Spells.decodeFrom (h : Spells cs text) (hfuel : cs.length ≤ fuel) :
    decodeFrom (fuel + 1) (cs ++ '"' :: rest) = .ok (text, rest) := by
  -- Each character or escape takes one unit of fuel.
  induction h generalizing fuel with
  | nil => rfl
  | plain hquote hslash hcontrol _ ih =>
    obtain ⟨fuel, rfl⟩ := Nat.exists_eq_add_one_of_ne_zero (Nat.ne_zero_of_lt hfuel)
    rw [List.cons_append, decodeFrom_plain hquote hslash hcontrol,
      ih (Nat.le_of_succ_le_succ hfuel)]
    rfl
  | escape hmeans _ ih =>
    obtain ⟨fuel, rfl⟩ := Nat.exists_eq_add_one_of_ne_zero (Nat.ne_zero_of_lt hfuel)
    simp only [List.length_cons] at hfuel
    rw [List.cons_append, List.cons_append, decodeFrom_escape hmeans, ih (by omega)]
    rfl
  | unit hunit hhigh hlow _ ih =>
    obtain ⟨fuel, rfl⟩ := Nat.exists_eq_add_one_of_ne_zero (Nat.ne_zero_of_lt hfuel)
    simp only [List.length_cons, List.length_append] at hfuel
    rw [List.append_assoc, decodeFrom_unitChar hunit (unitChar_single
      (Bool.eq_false_iff.1 hhigh) (Bool.eq_false_iff.1 hlow)), ih (by omega)]
    rfl
  | pair hunit hhigh hunit' hlow _ ih =>
    obtain ⟨fuel, rfl⟩ := Nat.exists_eq_add_one_of_ne_zero (Nat.ne_zero_of_lt hfuel)
    simp only [List.length_cons, List.length_append] at hfuel
    rw [List.append_assoc, List.append_assoc, decodeFrom_unitChar hunit
      (unitChar_pair_of_startsLowUnit hhigh hunit' hlow), ih (by omega)]
    rfl
  | high hunit hhigh hlow _ ih =>
    obtain ⟨fuel, rfl⟩ := Nat.exists_eq_add_one_of_ne_zero (Nat.ne_zero_of_lt hfuel)
    simp only [List.length_cons, List.length_append] at hfuel
    rw [List.append_assoc, decodeFrom_unitChar hunit
      (unitChar_high hhigh (mt startsLowUnit_append_quote.1 hlow)), ih (by omega)]
    rfl
  | low hunit hlow _ ih =>
    obtain ⟨fuel, rfl⟩ := Nat.exists_eq_add_one_of_ne_zero (Nat.ne_zero_of_lt hfuel)
    simp only [List.length_cons, List.length_append] at hfuel
    rw [List.append_assoc, decodeFrom_unitChar hunit (unitChar_low hlow), ih (by omega)]
    rfl

/-- The characters of a string are decoded to what they say. -/
theorem Spells.decode (h : Spells cs text) : decode (cs ++ ['"']) = .ok (text, []) := by
  rw [Json.decode, List.length_append]
  exact h.decodeFrom (Nat.le_refl _)

/-- The lexer passes over the characters of a string. -/
theorem Spells.passes (h : Spells cs text) : Passes cs := by
  obtain ⟨taken, htaken, hpasses⟩ := ensures_decodeFrom _ _ _ h.decode
  obtain ⟨rfl, -⟩ := List.append_inj' htaken rfl
  exact hpasses

/-! ## Tokens -/

/-- A token between quotes that decodes says what is decoded. -/
theorem Passes.spells_of_decode (h : Passes cs)
    (hdecode : Json.decode (cs ++ ['"']) = .ok (text, rest)) : Spells cs text := by
  obtain ⟨taken, htaken, hspells⟩ := ensures_spells _ _ _ hdecode
  -- The lexer and the decoder find the same quote.
  have hlength := congrArg stringLength? htaken
  rw [h, hspells.passes] at hlength
  have hlength : cs.length = taken.length := by simpa [stringLength?] using hlength
  obtain ⟨rfl, -⟩ := List.append_inj htaken hlength
  exact hspells

end Decoding

end ResourceTables.Json
