import ResourceTables.Proofs.Quotes.Files

/-!
# How long a token is

A token takes no more characters than there are. A heredoc takes two things: the header that begins
it, and the lines up to the one that closes it.

* `Kind.lengthAt_le`, `exists_length`: a token takes no more characters than there are;
* `exponentLength_cons`, `Kind.lengthAt_spelling`: lengths without a case for each character;
* `of_closingLength?`: the line that closes a heredoc does so whatever lines come behind it;
* `HeadsHeredoc`: what the header of a heredoc consists of.
-/

namespace ResourceTables.Native

/-! ## No more than there is -/

section Lengths

variable {cs : List Char}

theorem countWhile_le (p : Char → Bool) (cs : List Char) : countWhile p cs ≤ cs.length := by
  fun_induction countWhile p cs <;> simp_all

theorem nameLength_le (cs : List Char) : nameLength cs ≤ cs.length := by
  cases cs with
  | nil => exact Nat.zero_le 0
  | cons c cs =>
    rw [nameLength]
    split
    · exact Nat.succ_le_succ (countWhile_le _ cs)
    · exact Nat.zero_le _

theorem qualifiersLength_le (fuel : Nat) (cs : List Char) :
    qualifiersLength fuel cs ≤ cs.length := by
  fun_induction qualifiersLength fuel cs with
  | case1 => exact Nat.zero_le _
  | case2 fuel rest n hn ih =>
    have hname : n ≤ rest.length := nameLength_le rest
    rw [List.length_drop] at ih
    simp only [List.length_cons]
    omega
  | case3 => exact Nat.zero_le _

theorem callNameLength_le (cs : List Char) : callNameLength cs ≤ cs.length := by
  have hname := nameLength_le cs
  have hmore := qualifiersLength_le (cs.drop (nameLength cs)).length (cs.drop (nameLength cs))
  rw [List.length_drop] at hmore
  unfold callNameLength
  dsimp only
  split
  · exact Nat.zero_le _
  · split
    · exact Nat.zero_le _
    · split
      · rw [List.length_drop]
        omega
      · exact Nat.zero_le _

theorem templateLength_le (cs : List Char) : templateLength cs ≤ cs.length := by
  fun_induction templateLength cs <;> simp_all

theorem commentEnd?_le {n : Nat} (h : commentEnd? cs = some n) : n ≤ cs.length := by
  fun_induction commentEnd? cs generalizing n with
  | case1 rest =>
    cases h
    simp
  | case2 c rest _ ih =>
    obtain ⟨k, hk, rfl⟩ := Option.map_eq_some_iff.1 h
    simpa using ih hk
  | case3 => cases h

/-- How many digits stand at the start. -/
theorem length_spanDigits (cs : List Char) :
    (Decimal.spanDigits cs).1.length = countWhile Char.isDigit cs := by
  rw [spanDigits_eq]
  induction cs with
  | nil => rfl
  | cons c cs ih =>
    rw [List.takeWhile_cons, countWhile]
    split
    · rw [List.length_cons, ih]
    · rfl

theorem fractionLength_le (cs : List Char) : Document.fractionLength cs ≤ cs.length := by
  cases cs with
  | nil => exact Nat.zero_le 0
  | cons c cs =>
    by_cases hc : c = '.'
    · subst hc
      have hdigits := countWhile_le Char.isDigit cs
      simp only [Document.fractionLength, length_spanDigits, List.length_cons]
      split <;> omega
    · rw [fractionLength_of_ne_point hc]
      exact Nat.zero_le _

/-- The length of the sign of an exponent. -/
def signLength : List Char → Nat
  | s :: _ => if s = '+' ∨ s = '-' then 1 else 0
  | [] => 0

/-- How an exponent is cut off: a letter, a sign and digits. -/
theorem exponentLength_cons (e : Char) (cs : List Char) :
    Document.exponentLength (e :: cs) =
      if (e = 'e' ∨ e = 'E') ∧ countWhile Char.isDigit (cs.drop (signLength cs)) ≠ 0 then
        countWhile Char.isDigit (cs.drop (signLength cs)) + signLength cs + 1
      else 0 := by
  by_cases he : e = 'e' ∨ e = 'E' <;> cases cs <;>
    simp [Document.exponentLength, he, length_spanDigits, signLength]

theorem exponentLength_le (cs : List Char) : Document.exponentLength cs ≤ cs.length := by
  cases cs with
  | nil => exact Nat.zero_le 0
  | cons e cs =>
    have hdigits := countWhile_le Char.isDigit (cs.drop (signLength cs))
    rw [List.length_drop] at hdigits
    rw [exponentLength_cons, List.length_cons]
    split <;> omega

theorem literalLength_le (cs : List Char) : Decimal.literalLength cs ≤ cs.length := by
  have hwhole := countWhile_le Char.isDigit cs
  rw [literalLength_eq, length_spanDigits]
  split
  · exact Nat.zero_le _
  · unfold lengthBehind
    have hfraction := fractionLength_le (cs.drop (countWhile Char.isDigit cs))
    rw [List.length_drop] at hfraction
    have hexponent := exponentLength_le (cs.drop (countWhile Char.isDigit cs +
      Document.fractionLength (cs.drop (countWhile Char.isDigit cs))))
    rw [List.length_drop] at hexponent
    dsimp only
    omega

theorem Kind.lengthAt_spelling {k : Kind} (hk : k.spelling ≠ []) (cs : List Char) :
    k.lengthAt cs = if k.spelling.isPrefixOf cs then k.spelling.length else 0 := by
  cases k <;> first | rfl | exact absurd rfl hk

/-- The line that closes a heredoc ends where a line ends, and it closes the heredoc whatever lines
come behind it. -/
theorem of_closingLength? {marker : List Char} {n : Nat}
    (h : closingLength? marker (splitLines cs) = some n) :
    n ≤ cs.length ∧ EndsLine (cs.drop n) ∧
      ∀ rest, EndsLine rest → closingLength? marker (splitLines (cs.take n ++ rest)) = some n := by
  induction hlength : cs.length using Nat.strongRecOn generalizing cs n with
  | _ length ih =>
    -- A line that closes the heredoc is found at once.
    have hclosing : ∀ line rest : List Char, '\n' ∉ line → closesHeredoc marker line = true →
        EndsLine rest → closingLength? marker (splitLines (line ++ rest)) = some line.length := by
      intro line rest hline hcloses hrest
      obtain ⟨more, hmore⟩ := exists_splitLines hline hrest
      rw [hmore, closingLength?, if_pos hcloses]
    subst hlength
    by_cases hmem : '\n' ∈ cs
    · obtain ⟨line, rest, rfl, hline⟩ := List.eq_append_cons_of_mem hmem
      rw [splitLines_append hline, closingLength?] at h
      split at h
      · next hcloses =>
        cases h
        rw [List.drop_left, List.take_left]
        refine ⟨by simp, ?_, fun rest' => hclosing line rest' hline hcloses⟩
        rintro c ⟨⟩
        rfl
      · next hcloses =>
        obtain ⟨k, hk, rfl⟩ := Option.map_eq_some_iff.1 h
        obtain ⟨hle, hends, hall⟩ := ih _ (by simp; omega) hk rfl
        have hcount : k + line.length + 1 = line.length + (k + 1) := by omega
        rw [hcount, List.drop_length_add_append, List.take_length_add_append]
        refine ⟨by simp; omega, hends, fun rest' hrest' => ?_⟩
        rw [List.take_succ_cons, List.append_assoc, List.cons_append, splitLines_append hline,
          closingLength?, if_neg hcloses, hall rest' hrest', Option.map_some, hcount]
    · rw [splitLines_of_not_mem hmem, closingLength?] at h
      split at h
      · next hcloses =>
        cases h
        rw [List.drop_length, List.take_length]
        refine ⟨Nat.le_refl _, ?_, fun rest' => hclosing cs rest' hmem hcloses⟩
        rintro c ⟨⟩
      · cases h

/-- What the header of a heredoc consists of: perhaps a dash, the marker, blanks and the end of the
line. -/
structure HeadsHeredoc (indented : Bool) (marker header : List Char) : Prop where
  /-- The marker is a name. -/
  whole : nameLength marker = marker.length
  /-- It is not empty. -/
  ne_nil : marker ≠ []
  /-- The parts of the header. -/
  parts : ∃ gap eol : List Char, (∀ c ∈ gap, isGap c = true) ∧ (eol = ['\n'] ∨ eol = ['\r', '\n']) ∧
    header = ['<', '<'] ++ (if indented then ['-'] else []) ++ marker ++ gap ++ eol

theorem mem_take_countWhile {p : Char → Bool} {c : Char} (h : c ∈ cs.take (countWhile p cs)) :
    p c = true := by
  induction cs with
  | nil => cases h
  | cons d cs ih =>
    rw [countWhile] at h
    split at h
    · next hd =>
      rcases List.mem_cons.1 h with rfl | h
      · exact hd
      · exact ih h
    · cases h

theorem exists_header {indented : Bool} {marker : List Char} {n : Nat}
    (h : heredocHeader? cs = some (indented, marker, n)) :
    ∃ header rest, cs = header ++ rest ∧ header.length = n ∧
      HeadsHeredoc indented marker header := by
  unfold heredocHeader? at h
  split at h
  · next rest =>
    generalize hindented : (rest.head? == some '-') = dashed at h
    obtain ⟨body, hbody, hrest⟩ : ∃ body, (if dashed = true then rest.tail else rest) = body ∧
        rest = (if dashed then ['-'] else []) ++ body := by
      cases dashed with
      | false => exact ⟨rest, rfl, rfl⟩
      | true =>
        obtain ⟨tail, rfl⟩ := List.head?_eq_some_iff.1 (beq_iff_eq.1 hindented)
        exact ⟨tail, rfl, rfl⟩
    dsimp only at h
    rw [hbody] at h
    split at h
    · cases h
    · next hempty =>
      have hwhole := nameLength_take body
      have hmarker : (body.take (nameLength body)).length = nameLength body :=
        List.length_take_of_le (nameLength_le body)
      rw [hmarker, ← List.drop_drop] at h
      generalize hbehind : body.drop (nameLength body) = behind at h
      have hgap : (behind.take (countWhile isGap behind)).length = countWhile isGap behind :=
        List.length_take_of_le (countWhile_le _ _)
      -- The parts of the header, put together again, are what the text begins with.
      have hheads : ∀ eol more, behind.drop (countWhile isGap behind) = eol ++ more →
          (eol = ['\n'] ∨ eol = ['\r', '\n']) → ∃ header rest',
            '<' :: '<' :: rest = header ++ rest' ∧ header.length =
              (if dashed then 3 else 2) + nameLength body + countWhile isGap behind + eol.length ∧
              HeadsHeredoc dashed (body.take (nameLength body)) header := by
        intro eol more hmore heol
        have hblanks : ∀ c ∈ behind.take (countWhile isGap behind), isGap c = true :=
          fun c hc => mem_take_countWhile hc
        refine ⟨_, more, ?_, ?_, hwhole, by simpa using hempty, _, eol, hblanks, heol, rfl⟩
        · rw [hrest]
          simp only [List.append_assoc, ← hmore, List.take_append_drop, ← hbehind]
          rfl
        · simp only [List.length_append, hmarker, hgap]
          cases dashed <;> rfl
      split at h
      · next more hmore =>
        cases h
        exact hheads ['\n'] more hmore (.inl rfl)
      · next more hmore =>
        cases h
        exact hheads ['\r', '\n'] more hmore (.inr rfl)
      · cases h
  · cases h

theorem HeadsHeredoc.heredocHeader? {indented : Bool} {marker header : List Char}
    (h : HeadsHeredoc indented marker header) (rest : List Char) :
    heredocHeader? (header ++ rest) = some (indented, marker, header.length) := by
  obtain ⟨hwhole, hne, gap, eol, hgap, heol, rfl⟩ := h
  obtain ⟨c, more, hmarker, hc⟩ := exists_isNameStart hne hwhole
  have hempty : marker.isEmpty = false := by
    rw [hmarker]
    rfl
  -- The marker ends where the gap or the line end begins, and the gap where the line ends.
  have hends : ∀ e, (eol ++ rest).head? = some e → isGap e = false ∧ isNameChar e = false := by
    rcases heol with rfl | rfl <;> rintro _ ⟨⟩ <;> exact ⟨rfl, rfl⟩
  have hcut : ∀ e, (gap ++ (eol ++ rest)).head? = some e → isNameChar e = false := by
    cases gap with
    | nil => exact fun e he => (hends e he).2
    | cons g gap =>
      rintro _ ⟨⟩
      exact isNameChar_of_isBlankChar (isBlankChar_of_isGap (hgap g (by simp)))
  have hlength : nameLength (marker ++ (gap ++ (eol ++ rest))) = marker.length := by
    rcases heol with rfl | rfl <;> cases gap <;>
      exact nameLength_append hwhole hne (hcut _ rfl)
  have hgaps : countWhile isGap (gap ++ (eol ++ rest)) = gap.length :=
    countWhile_eq_of_stop hgap fun e he => (hends e he).1
  have hdash : ((marker ++ (gap ++ (eol ++ rest))).head? == some '-') = false := by
    rw [hmarker, List.cons_append, List.head?_cons, beq_eq_false_iff_ne]
    rintro ⟨⟩
    cases hc
  have hform : ['<', '<'] ++ (if indented then ['-'] else []) ++ marker ++ gap ++ eol ++ rest =
      '<' :: '<' :: ((if indented then ['-'] else []) ++ (marker ++ (gap ++ (eol ++ rest)))) := by
    simp
  rw [hform, Native.heredocHeader?]
  have hbody : ∀ body : List Char, (body.head? == some '-') = false →
      (((if indented then ['-'] else []) ++ body).head? == some '-') = indented ∧
        (if indented then ((if indented then ['-'] else []) ++ body).tail else
          (if indented then ['-'] else []) ++ body) = body := by
    intro body hhead
    cases indented
    · exact ⟨hhead, rfl⟩
    · exact ⟨rfl, rfl⟩
  obtain ⟨hindented, hbehind⟩ := hbody _ hdash
  rw [hindented, hbehind, hlength, List.take_left, ← List.drop_drop, List.drop_left, hgaps,
    List.drop_left, hempty, if_neg Bool.false_ne_true]
  rcases heol with rfl | rfl <;> cases indented <;> simp <;> omega

theorem heredocLength_le (cs : List Char) : heredocLength cs ≤ cs.length := by
  unfold heredocLength
  split
  · exact Nat.zero_le _
  · next indented marker n hheader =>
    obtain ⟨header, rest, rfl, rfl, -⟩ := exists_header hheader
    rw [List.drop_left]
    split
    · next k hk =>
      rw [List.length_append]
      exact Nat.add_le_add_left (of_closingLength? hk).1 _
    · exact Nat.zero_le _

/-- A token takes no more characters than there are. -/
theorem Kind.lengthAt_le (k : Kind) (cs : List Char) : k.lengthAt cs ≤ cs.length := by
  -- Signs and words are taken whole or not at all.
  by_cases hk : k.spelling ≠ []
  · rw [lengthAt_spelling hk]
    split
    · next h => exact (List.isPrefixOf_iff_prefix.1 h).length_le
    · exact Nat.zero_le _
  cases k with
  | name => exact nameLength_le cs
  | callName => exact callNameLength_le cs
  | number => exact literalLength_le cs
  | digits => exact countWhile_le _ cs
  | textChars => exact textLength_le cs
  | templateChars => exact templateLength_le cs
  | heredoc => exact heredocLength_le cs
  | blank => exact countWhile_le _ cs
  | lineComment =>
    unfold lengthAt
    dsimp only
    split
    · exact Nat.succ_le_succ (countWhile_le _ _)
    · exact Nat.succ_le_succ (Nat.succ_le_succ (countWhile_le _ _))
    · exact Nat.zero_le _
  | blockComment =>
    unfold lengthAt
    dsimp only
    split
    · next rest =>
      cases hend : commentEnd? rest with
      | none => exact Nat.zero_le _
      | some n => exact Nat.succ_le_succ (Nat.succ_le_succ (commentEnd?_le hend))
    · exact Nat.zero_le _
  | word w => cases w <;> exact absurd (by decide) hk
  | operator op => cases op <;> exact absurd (by decide) hk
  | _ => exact absurd (List.cons_ne_nil _ _) hk

/-- A token has at least one character, and no more than there are. -/
theorem exists_length {accepted : List Kind} {m : Mark} {t : Token}
    (h : nextToken? accepted m = some t) :
    ∃ n, t = m.token t.kind n ∧ 0 < n ∧ n ≤ m.rest.length := by
  obtain ⟨k, n, hfirst, ht, -⟩ := exists_firstToken? h
  obtain ⟨-, hlength, hne⟩ := of_firstToken? hfirst
  exact ⟨n, ht, Nat.pos_of_ne_zero hne, hlength ▸ k.lengthAt_le m.rest⟩

theorem stop_sub_le {accepted : List Kind} {m : Mark} {t : Token}
    (h : nextToken? accepted m = some t) : t.stop - m.offset ≤ m.rest.length := by
  obtain ⟨n, htoken, -, hn⟩ := exists_length h
  rwa [htoken, Mark.stop_token]

end Lengths

end ResourceTables.Native
