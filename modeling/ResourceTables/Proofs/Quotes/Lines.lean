import Mathlib.Data.List.Forall2
import ResourceTables.Proofs.Writing.Heredocs

/-!
# What stands between quotes, line by line

The lexer takes the literal characters between two quotes up to a newline, an interpolation or a
directive. So characters that begin on one line and end on another come as several tokens, and each
token is decoded by itself.

* `Literals`: characters that are one token;
* `literals_take`, `textLength_drop`: the lexer takes all literal characters that there are;
* `decodeQuoted_joinLines`: no escape reaches over the end of a line, so lines can be decoded one by
  one;
* `decodeQuoted_joinLines_iff`: without the newlines between them the lines mean something else.
-/

namespace ResourceTables.Native

open Heredoc (joinLines)

section Literals

variable {c : Char} {cs : List Char}

/-! ## Literal characters -/

/-- All of the characters are literal characters of a quoted text. -/
def Literals (cs : List Char) : Prop :=
  textLength cs = cs.length

theorem literals_nil : Literals [] := rfl

theorem Literals.newline_not_mem (h : Literals cs) : '\n' ∉ cs := by
  unfold Literals at h
  fun_induction textLength cs with
  | case1 rest => simp at h
  | case2 c rest hc ih =>
    have hrest := ih (by simpa using h)
    simp [Ne.symm hc, hrest]
  | case3 rest ih | case4 rest ih => simpa using ih (by simpa using h)
  | case5 rest | case6 rest => simp at h
  | case7 c rest _ _ _ _ _ hc => simp at h
  | case8 c rest _ _ _ _ _ hc ih =>
    have hrest := ih (by simpa using h)
    simp only [not_or] at hc
    simp [Ne.symm hc.2.1, hrest]
  | case9 => simp

/-- What begins no sequence begins none where less of it is there. -/
theorem Sequence.append (h : Sequence cs) (more : List Char) : Sequence (cs ++ more) := by
  obtain ⟨m, t, hm, rfl | rfl⟩ := h
  · exact ⟨m, t ++ more, hm, .inl rfl⟩
  · exact ⟨m, t ++ more, hm, .inr rfl⟩

/-- The lexer tells a sequence by its first characters. -/
theorem not_sequence_of_ne (hdollars : ∀ t, c = '$' → cs = '$' :: '\x7b' :: t → False)
    (hpercents : ∀ t, c = '%' → cs = '%' :: '\x7b' :: t → False)
    (hdollar : ∀ t, c = '$' → cs = '\x7b' :: t → False)
    (hpercent : ∀ t, c = '%' → cs = '\x7b' :: t → False) : ¬ Sequence (c :: cs) := by
  rintro ⟨m, t, rfl | rfl, h | h⟩ <;> obtain ⟨hc, hcs⟩ := List.cons.inj h
  · exact hdollar t hc hcs
  · exact hdollars t hc hcs
  · exact hpercent t hc hcs
  · exact hpercents t hc hcs

/-- What the lexer takes are literal characters. -/
theorem literals_take (cs : List Char) : Literals (cs.take (textLength cs)) := by
  unfold Literals
  fun_induction textLength cs with
  | case2 c rest hc ih => simp [textLength, hc, ih]
  | case3 rest ih | case4 rest ih => simp [textLength, ih]
  | case8 c rest hslash hdollars hpercents hdollar hpercent hc ih =>
    simp only [not_or] at hc
    have hplain : ¬ Sequence (c :: rest.take (textLength rest)) := by
      intro hsequence
      have hwhole := hsequence.append (rest.drop (textLength rest))
      rw [List.cons_append, List.take_append_drop] at hwhole
      exact not_sequence_of_ne hdollars hpercents hdollar hpercent hwhole
    rw [List.take_succ_cons, textLength_plain hc.1 hc.2.2 hc.2.1 hplain, ih, List.length_cons]
  | _ => rfl

theorem textLength_le (cs : List Char) : textLength cs ≤ cs.length := by
  fun_induction textLength cs <;> simp_all

/-- Behind the literal characters that the lexer takes there are no more of them. -/
theorem textLength_drop (cs : List Char) : textLength (cs.drop (textLength cs)) = 0 := by
  fun_induction textLength cs with
  | case1 rest => simp [textLength]
  | case2 c rest hc ih => simpa using ih
  | case3 rest ih | case4 rest ih => simpa using ih
  | case5 rest | case6 rest => simp [textLength]
  | case7 c rest h1 h2 h3 h4 h5 hc => rw [List.drop_zero, textLength.eq_6] <;> simp_all
  | case8 c rest _ _ _ _ _ hc ih => simpa using ih
  | case9 => rfl

end Literals

/-! ## Lines -/

section Lines

variable {c : Char} {a b rest : List Char}

/-- Fuel for all characters is as good as any more of it. -/
theorem decodeQuotedFrom_eq {fuel : Nat} {cs : List Char} (h : cs.length ≤ fuel) :
    decodeQuotedFrom fuel cs = decodeQuoted cs := by
  have hany : ∀ fuel fuel' (cs : List Char), cs.length ≤ fuel → cs.length ≤ fuel' →
      decodeQuotedFrom fuel cs = decodeQuotedFrom fuel' cs := by
    intro fuel
    induction fuel with
    | zero =>
      intro fuel' cs h _
      rw [List.length_eq_zero_iff.1 (Nat.le_zero.1 h)]
      cases fuel' <;> rfl
    | succ fuel ih =>
      intro fuel' cs h h'
      cases fuel' with
      | zero =>
        rw [List.length_eq_zero_iff.1 (Nat.le_zero.1 h')]
        rfl
      | succ fuel' =>
        have hrest : ∀ rest : List Char, rest.length + 1 ≤ cs.length →
            decodeQuotedFrom fuel rest = decodeQuotedFrom fuel' rest :=
          fun rest hrest => ih fuel' rest (by omega) (by omega)
        -- Each step takes one character at least, and uses up one of the fuel.
        rw [decodeQuotedFrom.eq_def, decodeQuotedFrom.eq_def (fuel' + 1)]
        split
        · next hzero => cases hzero
        · rfl
        · next c rest hfuel =>
          cases hfuel
          have hdrop : ∀ width, decodeQuotedFrom fuel (rest.drop width) =
              decodeQuotedFrom fuel' (rest.drop width) :=
            fun width => hrest _ (by simp; omega)
          simp only [hrest rest (by simp), hdrop]
        · next rest hfuel =>
          cases hfuel
          rw [hrest rest (by simp)]
        · next rest hfuel =>
          cases hfuel
          rw [hrest rest (by simp)]
        · next c rest _ _ _ hfuel =>
          cases hfuel
          rw [hrest rest (by simp)]
  exact hany _ _ _ h (Nat.le_refl _)

/-! ## What characters mean -/

theorem decodeQuoted_escape (c : Char) (rest : List Char) :
    decodeQuoted ('\\' :: c :: rest) =
      let width := if c = 'u' then 4 else if c = 'U' then 8 else 0
      if width ≠ 0 ∧ startsWithHex width rest then
        match charOfHex? (rest.take width) with
        | some c => (decodeQuoted (rest.drop width)).map (c :: ·)
        | none => .error .noCharacter
      else match simpleEscape? c with
        | some c => (decodeQuoted rest).map (c :: ·)
        | none => .error (.unknown (String.singleton c)) := by
  have hdrop : ∀ width, decodeQuotedFrom (rest.length + 1) (rest.drop width) =
      decodeQuoted (rest.drop width) :=
    fun width => decodeQuotedFrom_eq (by simp; omega)
  have hrest : decodeQuotedFrom (rest.length + 1) rest = decodeQuoted rest :=
    decodeQuotedFrom_eq (Nat.le_succ _)
  simp only [← hdrop, ← hrest]
  rfl

theorem decodeQuoted_sequence {m : Char} (hm : m = '$' ∨ m = '%') (rest : List Char) :
    decodeQuoted (m :: m :: '\x7b' :: rest) = (decodeQuoted rest).map (m :: '\x7b' :: ·) := by
  have hrest : decodeQuotedFrom (rest.length + 2) rest = decodeQuoted rest :=
    decodeQuotedFrom_eq (by omega)
  rcases hm with rfl | rfl <;> exact congrArg (Except.map _) hrest

theorem decodeQuoted_plain (hslash : c ≠ '\\') (h : ¬ Sequence (c :: rest)) :
    decodeQuoted (c :: rest) = (decodeQuoted rest).map (c :: ·) :=
  decodeQuotedFrom_plain hslash h _

/-! ## The ends of lines -/

theorem Sequence.of_append_newline (h : Sequence (a ++ '\n' :: b)) (ha : a ≠ []) : Sequence a := by
  obtain ⟨m, t, hm, h⟩ := h
  match a, ha, h with
  | [d], _, .inr h =>
    obtain ⟨rfl, -⟩ : '\n' = m ∧ b = '\x7b' :: t := by simpa using (List.cons.inj h).2
    rcases hm with hm | hm <;> cases hm
  | [d, e], _, .inr h =>
    cases (List.cons.inj (List.cons.inj h).2).2
  | d :: e :: a, _, .inl h =>
    obtain ⟨rfl, rfl, -⟩ : d = m ∧ e = '\x7b' ∧ a ++ '\n' :: b = t := by simpa using h
    exact ⟨_, a, hm, .inl rfl⟩
  | d :: e :: f :: a, _, .inr h =>
    obtain ⟨rfl, rfl, rfl, -⟩ : d = m ∧ e = m ∧ f = '\x7b' ∧ a ++ '\n' :: b = t := by
      simpa using h
    exact ⟨_, a, hm, .inr rfl⟩

theorem exists_of_startsWithHex {n : Nat} (h : startsWithHex n a = true) :
    ∃ digits rest, a = digits ++ rest ∧ digits.length = n ∧
      ∀ d ∈ digits, (Text.hexValue? d).isSome = true := by
  rw [startsWithHex, Bool.and_eq_true, beq_iff_eq, List.all_eq_true] at h
  exact ⟨a.take n, a.drop n, (List.take_append_drop n a).symm, h.1, h.2⟩

theorem startsWithHex_append {digits : List Char}
    (h : ∀ d ∈ digits, (Text.hexValue? d).isSome = true) :
    startsWithHex digits.length (digits ++ rest) = true := by
  simpa [startsWithHex] using h

/-- Hexadecimal digits do not reach over the end of a line. -/
theorem startsWithHex_append_newline (n : Nat) :
    startsWithHex n (a ++ '\n' :: b) = startsWithHex n a := by
  refine Bool.eq_iff_iff.2 ⟨fun h => ?_, fun h => ?_⟩
  · obtain ⟨digits, rest, hdigits, rfl, hhex⟩ := exists_of_startsWithHex h
    rcases List.append_eq_append_iff.1 hdigits with ⟨more, rfl, hmore⟩ | ⟨more, rfl, -⟩
    · cases more with
      | nil =>
        rw [List.append_nil] at hhex ⊢
        have hself : startsWithHex a.length (a ++ []) = true := startsWithHex_append hhex
        rwa [List.append_nil] at hself
      | cons d more =>
        obtain ⟨rfl, -⟩ := List.cons.inj hmore
        cases hhex '\n' (by simp)
    · exact startsWithHex_append hhex
  · obtain ⟨digits, rest, rfl, rfl, hhex⟩ := exists_of_startsWithHex h
    rw [List.append_assoc]
    exact startsWithHex_append hhex

theorem literals_of_digits {digits : List Char} (h : Literals (digits ++ rest))
    (hhex : ∀ d ∈ digits, (Text.hexValue? d).isSome = true) : Literals rest := by
  induction digits with
  | nil => exact h
  | cons d digits ih =>
    have hd := hhex d (by simp)
    have hplain : ∀ c, (Text.hexValue? c).isSome = false → d ≠ c := by
      rintro c hc rfl
      rw [hd] at hc
      cases hc
    have hsequence : ¬ Sequence (d :: (digits ++ rest)) := by
      rintro ⟨m, t, rfl | rfl, hcs | hcs⟩ <;> exact hplain _ rfl (List.cons.inj hcs).1
    rw [Literals, List.cons_append, textLength_plain (hplain _ rfl) (hplain _ rfl) (hplain _ rfl)
      hsequence, List.length_cons, Nat.add_right_cancel_iff] at h
    exact ih h fun c hc => hhex c (by simp [hc])

/-- No escape reaches over the end of a line. -/
theorem decodeQuoted_append_newline (ha : Literals a) :
    decodeQuoted (a ++ '\n' :: b) =
      (decodeQuoted a).bind fun x => (decodeQuoted b).map (x ++ '\n' :: ·) := by
  -- The induction is on the length, since an escape takes its digits with it.
  induction hn : a.length using Nat.strongRecOn generalizing a with
  | _ n ih =>
    have hnext : ∀ {a' : List Char} (p : List Char), Literals a' → a'.length < n →
        (decodeQuoted (a' ++ '\n' :: b)).map (p ++ ·) =
          ((decodeQuoted a').map (p ++ ·)).bind fun x =>
            (decodeQuoted b).map (x ++ '\n' :: ·) := by
      intro a' p ha' hlength
      rw [ih _ hlength ha' rfl]
      cases decodeQuoted a' with
      | error e => rfl
      | ok x =>
        cases decodeQuoted b with
        | error e => rfl
        | ok y => exact congrArg Except.ok (List.append_assoc p x ('\n' :: y)).symm
    unfold Literals at ha
    fun_cases textLength a with
    | case1 rest => simp [textLength] at ha
    | case2 c rest hc =>
      have hrest : Literals rest := by simpa [Literals, textLength_escape hc] using ha
      have hshort : rest.length < n := by
        simp only [← hn, List.length_cons]
        omega
      -- An escape has its digits on this line, or too few of them whatever is on the next.
      rw [List.cons_append, List.cons_append, decodeQuoted_escape, decodeQuoted_escape]
      simp only [startsWithHex_append_newline]
      generalize (if c = 'u' then 4 else if c = 'U' then 8 else 0) = width
      split
      · next hhex =>
        obtain ⟨digits, more, rfl, rfl, hdigits⟩ := exists_of_startsWithHex hhex.2
        rw [List.append_assoc, List.take_left' rfl, List.take_left' rfl, List.drop_left' rfl,
          List.drop_left' rfl]
        cases charOfHex? digits with
        | none => rfl
        | some d =>
          refine hnext [d] (literals_of_digits hrest hdigits) ?_
          rw [List.length_append] at hshort
          omega
      · cases simpleEscape? c with
        | none => rfl
        | some d => exact hnext [d] hrest hshort
    | case3 rest =>
      have hrest : Literals rest := by simpa [Literals, textLength] using ha
      rw [List.cons_append, List.cons_append, List.cons_append, decodeQuoted_sequence (.inl rfl),
        decodeQuoted_sequence (.inl rfl)]
      exact hnext ['$', '\x7b'] hrest (by simp [← hn]; omega)
    | case4 rest =>
      have hrest : Literals rest := by simpa [Literals, textLength] using ha
      rw [List.cons_append, List.cons_append, List.cons_append, decodeQuoted_sequence (.inr rfl),
        decodeQuoted_sequence (.inr rfl)]
      exact hnext ['%', '\x7b'] hrest (by simp [← hn]; omega)
    | case5 rest | case6 rest => simp [textLength] at ha
    | case7 c rest hslash hdollars hpercents hdollar hpercent hc =>
      rw [textLength.eq_6 _ _ hslash hdollars hpercents hdollar hpercent, if_pos hc] at ha
      cases ha
    | case8 c rest hslash hdollars hpercents hdollar hpercent hc =>
      have hplain := not_sequence_of_ne hdollars hpercents hdollar hpercent
      simp only [not_or] at hc
      rw [textLength_plain hc.1 hc.2.2 hc.2.1 hplain, List.length_cons,
        Nat.add_right_cancel_iff] at ha
      have hplain' : ¬ Sequence (c :: (rest ++ '\n' :: b)) := fun h =>
        hplain (h.of_append_newline (List.cons_ne_nil c rest))
      rw [List.cons_append, decodeQuoted_plain hc.2.2 hplain', decodeQuoted_plain hc.2.2 hplain]
      exact hnext [c] ha (by simp [← hn])
    | case9 =>
      have hplain : ¬ Sequence ('\n' :: b) := by
        rintro ⟨m, t, rfl | rfl, h | h⟩ <;> cases h
      exact decodeQuoted_plain (by decide) hplain

/-- The second lines are what the characters of the first ones mean. -/
def Decodes (lines decoded : List (List Char)) : Prop :=
  List.Forall₂ (fun line text => decodeQuoted line = .ok text) lines decoded

/-- Lines that are joined mean what each of them means. -/
theorem decodeQuoted_joinLines {lines decoded : List (List Char)} (h : Decodes lines decoded)
    (hlines : ∀ line ∈ lines, Literals line) :
    decodeQuoted (joinLines lines) = .ok (joinLines decoded) := by
  induction h with
  | nil => rfl
  | @cons line text lines decoded hline hdecoded ih =>
    cases hdecoded with
    | nil => exact hline
    | cons hnext hmore =>
      have hrest := ih fun l hl => hlines l (List.mem_cons_of_mem line hl)
      rw [joinLines, decodeQuoted_append_newline (hlines line (by simp)), hline, hrest]
      · rfl
      · simp

/-- The last line stands behind the others, which have newlines. -/
theorem joinLines_append_singleton (lines : List (List Char)) (line : List Char) :
    joinLines (lines ++ [line]) = unlines lines ++ line := by
  induction lines with
  | nil => rfl
  | cons first lines ih =>
    rw [List.cons_append, joinLines, ih]
    · simp [unlines]
    · simp

theorem splitLines_joinLines {lines : List (List Char)} (h : ∀ line ∈ lines, '\n' ∉ line)
    (hne : lines ≠ []) : splitLines (joinLines lines) = lines := by
  obtain ⟨before, last, rfl⟩ := (List.eq_nil_or_concat' lines).resolve_left hne
  rw [joinLines_append_singleton, splitLines_unlines fun line hline => h line (by simp [hline]),
    splitLines_of_not_mem (h last (by simp))]

theorem length_joinLines {lines : List (List Char)} (h : lines ≠ []) :
    (joinLines lines).length + 1 = lines.flatten.length + lines.length := by
  match lines with
  | [line] => simp [joinLines]
  | line :: next :: lines =>
    have hlines := length_joinLines (List.cons_ne_nil next lines)
    rw [joinLines, List.length_append, List.length_cons, List.flatten_cons, List.length_append,
      List.length_cons]
    · omega
    · simp

theorem newline_mem_joinLines_iff {lines : List (List Char)} (h : ∀ line ∈ lines, '\n' ∉ line) :
    '\n' ∈ joinLines lines ↔ 1 < lines.length := by
  match lines with
  | [] => simp [joinLines]
  | [line] => simpa [joinLines] using h
  | line :: next :: lines => simp [joinLines]

/-- Without the newlines between them the lines mean something else, if there are any. -/
theorem decodeQuoted_joinLines_iff {lines decoded : List (List Char)} (h : Decodes lines decoded)
    (hlines : ∀ line ∈ lines, Literals line) (hne : lines ≠ []) :
    decodeQuoted (joinLines lines) = .ok decoded.flatten ↔ '\n' ∉ joinLines lines := by
  have hlength : lines.length = decoded.length := List.Forall₂.length_eq h
  have hpos : 0 < lines.length := List.length_pos_iff.2 hne
  have hjoined := length_joinLines (List.length_pos_iff.1 (hlength ▸ hpos))
  rw [newline_mem_joinLines_iff fun line hline => (hlines line hline).newline_not_mem,
    decodeQuoted_joinLines h hlines, Except.ok.injEq]
  constructor
  · intro heq
    -- The newlines would make what is joined longer.
    rw [heq] at hjoined
    omega
  · intro hone
    obtain ⟨text, rfl⟩ : ∃ text, decoded = [text] := List.length_eq_one_iff.1 (by omega)
    simp [joinLines]

end Lines

end ResourceTables.Native
