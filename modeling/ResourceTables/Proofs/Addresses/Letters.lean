import Mathlib.Data.List.DropRight
import ResourceTables.Provider.Address

/-!
# The letters of an address

An address is trimmed and put in lower case before it is looked at. What an address can consist of
is in lower case already, and none of it is white space but the newline.

* `Text.lowerAfter_eq_flatMap`: without a capital sigma each letter is put in lower case by itself;
* `Text.trimmed`: the characters that trimming leaves, and what they are where blanks, letters of
  the other case or words are put to a text;
* `ProviderAddress.isAddressChar`: what addresses can consist of;
* `ProviderAddress.lower_trim_eq_self`: trimming and lower case leave a text of these characters as
  it is, unless a newline stands at one of its ends.
-/

namespace ResourceTables

namespace Text

/-! ## Letters -/

theorem toLower_of_not_capital {c : Char} (h : ¬ (0x41 ≤ c.toNat ∧ c.toNat ≤ 0x5A)) :
    c.toLower = c := by
  have hval : ¬ (c.val ≥ 'A'.val ∧ c.val ≤ 'Z'.val) := h
  exact dif_neg hval

theorem toNat_toLower_of_capital {c : Char} (h : 0x41 ≤ c.toNat ∧ c.toNat ≤ 0x5A) :
    c.toLower.toNat = c.toNat + 0x20 := by
  have hval : c.val ≥ 'A'.val ∧ c.val ≤ 'Z'.val := h
  have hsum : (c.val + ('a'.val - 'A'.val)).toNat = (c.val.toNat + 0x20) % 2 ^ 32 :=
    UInt32.toNat_add c.val _
  have hle : c.val.toNat ≤ 0x5A := h.2
  rw [Nat.mod_eq_of_lt (by omega)] at hsum
  have hlower : c.toLower.val = c.val + ('a'.val - 'A'.val) := congrArg Char.val (dif_pos hval)
  rw [Char.toNat, hlower]
  exact hsum

theorem toLower_eq_sigma_iff {c : Char} : c.toLower = 'Σ' ↔ c = 'Σ' := by
  by_cases h : 0x41 ≤ c.toNat ∧ c.toNat ≤ 0x5A
  · have hsum := toNat_toLower_of_capital h
    have hsigma : 'Σ'.toNat = 0x3A3 := rfl
    constructor
    · intro hc
      rw [hc] at hsum
      omega
    · rintro rfl
      omega
  · rw [toLower_of_not_capital h]

/-- The case of an ASCII letter makes no difference in lower case. -/
theorem lowerChar_toLower (c : Char) : lowerChar c.toLower = lowerChar c := by
  by_cases h : 0x41 ≤ c.toNat ∧ c.toNat ≤ 0x5A
  · have hsum := toNat_toLower_of_capital h
    have hagain : c.toLower.toLower = c.toLower := toLower_of_not_capital (by omega)
    rw [lowerChar, lowerChar, if_pos (by omega), if_pos (by omega), hagain]
  · rw [toLower_of_not_capital h]

theorem isBlank_toLower (c : Char) : isBlank c.toLower = isBlank c := by
  by_cases h : 0x41 ≤ c.toNat ∧ c.toNat ≤ 0x5A
  · have hsum := toNat_toLower_of_capital h
    rw [Bool.eq_iff_iff]
    simp only [isBlank, Bool.or_eq_true, Bool.and_eq_true, decide_eq_true_eq, beq_iff_eq, hsum]
    omega
  · rw [toLower_of_not_capital h]

/-! ## Lower case -/

/-- Only the form of a capital sigma depends on its neighbours. -/
theorem lowerAfter_eq_flatMap {before cs : List Char} (h : 'Σ' ∉ cs) :
    lowerAfter before cs = cs.flatMap lowerChar := by
  induction cs generalizing before with
  | nil => rfl
  | cons c cs ih =>
    rw [List.mem_cons, not_or] at h
    rw [lowerAfter, if_neg (Ne.symm h.1), ih h.2, List.flatMap_cons]

/-- A capital sigma leaves a small one. -/
theorem sigma_mem_lowerAfter (before : List Char) {cs : List Char} (h : 'Σ' ∈ cs) :
    'σ' ∈ lowerAfter before cs ∨ 'ς' ∈ lowerAfter before cs := by
  induction cs generalizing before with
  | nil => cases h
  | cons c cs ih =>
    rw [lowerAfter]
    rcases List.mem_cons.1 h with rfl | h
    · rw [if_pos rfl]
      split <;> simp
    · exact (ih (c :: before) h).imp (List.mem_append_right _) (List.mem_append_right _)

/-- Lower case brings in letters only: a character below them was there before. -/
theorem eq_of_mem_lowerChar {c d : Char} (h : d ∈ lowerChar c) (hpos : 0 < d.toNat)
    (hlow : d.toNat < 'a'.toNat) : d = c := by
  rw [lowerChar] at h
  split at h
  · obtain rfl := List.mem_singleton.1 h
    by_cases hc : 0x41 ≤ c.toNat ∧ c.toNat ≤ 0x5A
    · have hsum := toNat_toLower_of_capital hc
      have ha : 'a'.toNat = 0x61 := rfl
      omega
    · exact toLower_of_not_capital hc
  · split at h
    · rcases List.mem_pair.1 h with rfl | rfl
      · exact absurd hlow (by decide)
      · exact absurd hlow (by decide)
    · split at h
      · next n hn =>
        obtain ⟨run, hrun, hlower⟩ := List.exists_of_findSome?_eq_some hn
        -- The runs beyond ASCII lead to no character below `a`.
        have hruns : ∀ run ∈ lowerRuns, ('a'.toNat : Int) ≤ run.first + run.shift := by
          decide +kernel
        have hshift := hruns run hrun
        simp only [CaseRun.lower?] at hlower
        split at hlower
        · obtain rfl := Option.some.inj hlower
          obtain rfl := List.mem_singleton.1 h
          -- A number that is no character's gives the null character, which `hpos` rules out.
          have hnat : ∀ n, (Char.ofNat n).toNat = n ∨ (Char.ofNat n).toNat = 0 := by
            intro n
            by_cases hvalid : n.isValidChar
            · have hchar : Char.ofNat n = Char.ofNatAux n hvalid := dif_pos hvalid
              exact .inl (congrArg Char.toNat hchar)
            · have hchar : Char.ofNat n = '\x00' := dif_neg hvalid
              exact .inr (congrArg Char.toNat hchar)
          rcases hnat ((c.toNat : Int) + run.shift).toNat with hn | hn <;> omega
        · cases hlower
      · exact List.mem_singleton.1 h

/-! ## Trimming -/

/-- The characters without the blanks at either end. -/
def trimmed (cs : List Char) : List Char :=
  dropEnd isBlank (dropStart isBlank cs)

theorem toList_trim (s : String) : (trim s).toList = trimmed s.toList := by
  rw [trim, String.toList_ofList, trimmed]

section Trimming

variable {before after word cs : List Char}

theorem dropStart_eq_self (h : ∀ c, cs.head? = some c → isBlank c = false) :
    dropStart isBlank cs = cs := by
  cases cs with
  | nil => rfl
  | cons c cs => rw [dropStart, List.dropWhile_cons_of_neg (by simp [h c rfl])]

/-- Blanks are dropped from the end of what stands behind a text that ends in no blank. -/
theorem dropEnd_append (h : ∀ c, word.getLast? = some c → isBlank c = false) (cs : List Char) :
    dropEnd isBlank (word ++ cs) = word ++ dropEnd isBlank cs := by
  have hword : word.reverse.dropWhile isBlank = word.reverse :=
    dropStart_eq_self (by simpa [List.head?_reverse] using h)
  rw [dropEnd, List.reverse_append, List.dropWhile_append, hword, dropEnd]
  split
  · next hempty => simp [List.isEmpty_iff.1 hempty]
  · simp

theorem dropEnd_eq_self (h : ∀ c, cs.getLast? = some c → isBlank c = false) :
    dropEnd isBlank cs = cs := by
  have hnil : dropEnd isBlank [] = [] := rfl
  simpa [hnil] using dropEnd_append h []

theorem trimmed_eq_self (hbegins : ∀ c, cs.head? = some c → isBlank c = false)
    (hends : ∀ c, cs.getLast? = some c → isBlank c = false) : trimmed cs = cs := by
  rw [trimmed, dropStart_eq_self hbegins, dropEnd_eq_self hends]

theorem isBlank_getLast?_trimmed {c : Char} (h : (trimmed cs).getLast? = some c) :
    isBlank c = false := by
  have hne : trimmed cs ≠ [] := by
    rintro hnil
    rw [hnil] at h
    cases h
  rw [List.getLast?_eq_some_getLast hne, Option.some.injEq] at h
  rw [← h, Bool.eq_false_iff]
  exact List.rdropWhile_last_not isBlank _ hne

theorem trimmed_blanks (hbefore : ∀ c ∈ before, isBlank c = true)
    (hafter : ∀ c ∈ after, isBlank c = true) (cs : List Char) :
    trimmed (before ++ cs ++ after) = trimmed cs := by
  have hnil : after.dropWhile isBlank = [] := List.dropWhile_eq_nil_iff.2 hafter
  have hreverse : after.reverse.dropWhile isBlank = [] :=
    List.dropWhile_eq_nil_iff.2 (by simpa using hafter)
  rw [trimmed, trimmed, dropStart, dropStart, List.append_assoc,
    List.dropWhile_append_of_pos hbefore, List.dropWhile_append]
  split
  · next hempty => rw [hnil, List.isEmpty_iff.1 hempty]
  · rw [dropEnd, dropEnd, List.reverse_append, List.dropWhile_append, hreverse]
    rfl

/-- A word in front of a text is trimmed with it. -/
theorem trimmed_word (hbefore : ∀ c ∈ before, isBlank c = true)
    (hcs : ∀ c, cs.head? = some c → isBlank c = false)
    (hword : ∀ c ∈ word, isBlank c = false) :
    trimmed (before ++ (word ++ cs)) = word ++ trimmed (before ++ cs) := by
  have hhead : ∀ c, (word ++ cs).head? = some c → isBlank c = false := by
    intro c hc
    rw [List.head?_append, Option.or_eq_some_iff] at hc
    rcases hc with hc | ⟨-, hc⟩
    · exact hword c (List.mem_of_mem_head? hc)
    · exact hcs c hc
  rw [trimmed, trimmed, dropStart, dropStart, List.dropWhile_append_of_pos hbefore,
    List.dropWhile_append_of_pos hbefore, ← dropStart, ← dropStart, dropStart_eq_self hhead,
    dropStart_eq_self hcs, dropEnd_append fun c hc => hword c (List.mem_of_getLast? hc)]

theorem map_toLower_trimmed (cs : List Char) :
    (trimmed cs).map Char.toLower = trimmed (cs.map Char.toLower) := by
  have hblank : isBlank ∘ Char.toLower = isBlank := funext isBlank_toLower
  rw [trimmed, trimmed, dropStart, dropStart, dropEnd, dropEnd, List.dropWhile_map,
    ← List.map_reverse, List.dropWhile_map, hblank, List.map_reverse]

end Trimming

/-- Trimming and lower case make no difference between the cases of ASCII letters. -/
theorem lower_trimmed_congr {cs cs' : List Char}
    (h : cs.map Char.toLower = cs'.map Char.toLower) (hsigma : 'Σ' ∉ trimmed cs) :
    lowerAfter [] (trimmed cs) = lowerAfter [] (trimmed cs') := by
  have hmap : (trimmed cs).map Char.toLower = (trimmed cs').map Char.toLower := by
    rw [map_toLower_trimmed, map_toLower_trimmed, h]
  have hmem : ∀ cs : List Char, 'Σ' ∈ cs ↔ 'Σ' ∈ cs.map Char.toLower := by
    simp [List.mem_map, toLower_eq_sigma_iff]
  have hflat : ∀ cs : List Char,
      cs.flatMap lowerChar = (cs.map Char.toLower).flatMap lowerChar := by
    simp [List.flatMap_map, lowerChar_toLower]
  have hsigma' : 'Σ' ∉ trimmed cs' := by rwa [hmem, ← hmap, ← hmem]
  rw [lowerAfter_eq_flatMap hsigma, lowerAfter_eq_flatMap hsigma', hflat, hmap, ← hflat]

/-! ## Digits -/

/-- A digit beyond ASCII lies in no interval that the table of digits leaves out. -/
theorem digits_apart (first last : Nat) (h : ∀ r ∈ digits, r.2 < first ∨ last < r.1) {c : Char}
    (hc : digits.contains c = true) : c.toNat < first ∨ last < c.toNat := by
  obtain ⟨r, hr, hmem⟩ := List.any_eq_true.1 hc
  simp only [Bool.and_eq_true, decide_eq_true_eq] at hmem
  rcases h r hr with h | h <;> omega

end Text

namespace ProviderAddress

open Text (lowerChar lowerAfter isBlank trimmed)

/-! ## What addresses consist of -/

/-- What an address in lower case can consist of. -/
def isAddressChar (c : Char) : Bool :=
  isAlphaNum c || Text.isDigit c || ['-', '_', '.', ':', '/', '\n'].contains c

theorem isAddressChar_ascii {c : Char} (h : isAddressChar c = true) (hc : c.toNat < 0x80) :
    c.toLower = c ∧ (c ≠ '\n' → isBlank c = false) := by
  have hall : ∀ n < 0x80, isAddressChar (Char.ofNat n) = true →
      (Char.ofNat n).toLower = Char.ofNat n ∧
        (Char.ofNat n ≠ '\n' → isBlank (Char.ofNat n) = false) := by
    decide +kernel
  have hchar := hall c.toNat hc
  rw [Char.ofNat_toNat] at hchar
  exact hchar h

/-- Beyond ASCII an address can have digits only. -/
theorem contains_digits_of_isAddressChar {c : Char} (h : isAddressChar c = true)
    (hc : ¬ c.toNat < 0x80) : Text.digits.contains c = true := by
  have hne : ∀ d : Char, d.toNat < 0x80 → c ≠ d := by
    rintro d hd rfl
    exact hc hd
  have hle : ∀ d : Char, d.toNat < 0x80 → ¬ c ≤ d := by
    intro d hd hcd
    have hnat : c.toNat ≤ d.toNat := hcd
    omega
  have hnine := hle '9' (by decide)
  have hz := hle 'z' (by decide)
  simpa [isAddressChar, isAlphaNum, Text.isDigit, hc, hnine, hz, hne '-' (by decide),
    hne '_' (by decide), hne '.' (by decide), hne ':' (by decide), hne '/' (by decide),
    hne '\n' (by decide)] using h

/-- An address character is in lower case. -/
theorem lowerChar_of_isAddressChar {c : Char} (h : isAddressChar c = true) : lowerChar c = [c] := by
  by_cases hc : c.toNat < 0x80
  · rw [lowerChar, if_pos hc, (isAddressChar_ascii h hc).1]
  · -- The table of letters has no digits.
    have hdigit := contains_digits_of_isAddressChar h hc
    have hruns : ∀ run ∈ Text.lowerRuns, ∀ r ∈ Text.digits, r.2 < run.first ∨ run.last < r.1 := by
      decide +kernel
    have hnone : Text.lowerRuns.findSome? (·.lower? c.toNat) = none := by
      rw [List.findSome?_eq_none_iff]
      intro run hrun
      have hapart := Text.digits_apart _ _ (hruns run hrun) hdigit
      rw [Text.CaseRun.lower?, if_neg (by omega)]
    have hdotted : c ≠ '\u0130' := by
      rintro rfl
      exact absurd hdigit (by decide)
    rw [lowerChar, if_neg hc, if_neg hdotted, hnone]

/-- The only white space in an address is the newline. -/
theorem isBlank_of_isAddressChar {c : Char} (h : isAddressChar c = true) (hne : c ≠ '\n') :
    isBlank c = false := by
  by_cases hc : c.toNat < 0x80
  · exact (isAddressChar_ascii h hc).2 hne
  · have hdigit := contains_digits_of_isAddressChar h hc
    have hlatin := Text.digits_apart 0x80 0xA0 (by decide) hdigit
    have hogham := Text.digits_apart 0x1680 0x1680 (by decide) hdigit
    have hgeneral := Text.digits_apart 0x2000 0x205F (by decide) hdigit
    have hideographic := Text.digits_apart 0x3000 0x3000 (by decide) hdigit
    rw [Bool.eq_false_iff]
    simp only [isBlank, ne_eq, Bool.or_eq_true, Bool.and_eq_true, decide_eq_true_eq, beq_iff_eq]
    omega

section Texts

variable {cs : List Char}

theorem flatMap_lowerChar (h : ∀ c ∈ cs, isAddressChar c = true) : cs.flatMap lowerChar = cs := by
  induction cs with
  | nil => rfl
  | cons c cs ih =>
    rw [List.flatMap_cons, lowerChar_of_isAddressChar (h c (by simp)),
      ih fun c' hc' => h c' (by simp [hc'])]
    rfl

/-- What is an address in lower case has no capital sigma. -/
theorem sigma_not_mem (h : ∀ c ∈ lowerAfter [] cs, isAddressChar c = true) : 'Σ' ∉ cs := by
  intro hsigma
  rcases Text.sigma_mem_lowerAfter [] hsigma with hmem | hmem
  · exact absurd (h _ hmem) (by decide)
  · exact absurd (h _ hmem) (by decide)

theorem lowerAfter_eq_self (h : ∀ c ∈ cs, isAddressChar c = true) : lowerAfter [] cs = cs := by
  have hsigma : 'Σ' ∉ cs := fun hmem => absurd (h _ hmem) (by decide)
  rw [Text.lowerAfter_eq_flatMap hsigma, flatMap_lowerChar h]

/-- An address that neither begins nor ends with a newline is as it is after trimming and in lower
case. -/
theorem lower_trim_eq_self (h : ∀ c ∈ cs, isAddressChar c = true) (hbegins : cs.head? ≠ some '\n')
    (hends : cs.getLast? ≠ some '\n') :
    (Text.lower (Text.trim (String.ofList cs))).toList = cs := by
  have htrimmed : trimmed cs = cs := by
    refine Text.trimmed_eq_self (fun c hc => ?_) (fun c hc => ?_)
    · refine isBlank_of_isAddressChar (h c (List.mem_of_mem_head? hc)) ?_
      rintro rfl
      exact hbegins hc
    · refine isBlank_of_isAddressChar (h c (List.mem_of_getLast? hc)) ?_
      rintro rfl
      exact hends hc
  rw [Text.lower, String.toList_ofList, Text.toList_trim, String.toList_ofList, htrimmed,
    lowerAfter_eq_self h]

end Texts

end ProviderAddress

end ResourceTables
