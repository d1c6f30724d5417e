import ResourceTables.Native.Document
import ResourceTables.Proofs.Sources.Lockstep

/-!
# Indented heredocs

All lines of an indented heredoc lose the same number of characters: as many blanks and tabs as all
lines with something in them begin with. Lines of nothing but white space do not count, though their
white space may be another than blanks and tabs; it is cut off all the same.

* `Heredoc.Shared`: the width that the lines of a heredoc lose;
* `Heredoc.content_indented`: what is left of the lines;
* `heredocParts_indented`: what an indented heredoc is read as, and when it loses nothing but blanks
  and tabs.
-/

namespace ResourceTables.Native

/-- Cutting off at most the characters at the start that satisfy `p` leaves the others of them. -/
theorem countWhile_drop {p : Char → Bool} {cs : List Char} {w : Nat} (h : w ≤ countWhile p cs) :
    countWhile p (cs.drop w) + w = countWhile p cs := by
  induction cs generalizing w with
  | nil =>
    rw [countWhile] at h
    simp [countWhile, Nat.le_zero.1 h]
  | cons c cs ih =>
    cases w with
    | zero => rfl
    | succ w =>
      rw [countWhile] at h ⊢
      split at h
      · next hc =>
        have hrest := ih (Nat.le_of_succ_le_succ h)
        rw [List.drop_succ_cons, if_pos hc]
        omega
      · next hc => cases h

/-- The first `w` characters satisfy `p` if as many at the start do, or all. -/
theorem forall_mem_take_iff {p : Char → Bool} {cs : List Char} {w : Nat} :
    (∀ c ∈ cs.take w, p c = true) ↔ w ≤ countWhile p cs ∨ cs.all p = true := by
  induction cs generalizing w with
  | nil => simp
  | cons c cs ih =>
    cases w with
    | zero => simp
    | succ w =>
      rw [List.take_succ_cons, List.forall_mem_cons, ih, countWhile, List.all_cons]
      by_cases hc : p c = true
      · simp [hc]
      · simp [hc]

/-! ## Lines -/

section Lines

variable {cs closing : List Char} {lines : List (List Char)}

/-- The complete lines of a text are its lines but the last. -/
theorem Heredoc.exists_completeLines (cs : List Char) :
    ∃ lines closing, cs = unlines lines ++ closing ∧ Heredoc.completeLines cs = unlines lines ∧
      '\n' ∉ closing ∧ ∀ line ∈ lines, '\n' ∉ line := by
  have hsplit : cs = Heredoc.completeLines cs ++ (cs.reverse.takeWhile (· != '\n')).reverse := by
    rw [Heredoc.completeLines, ← List.reverse_append, List.takeWhile_append_dropWhile,
      List.reverse_reverse]
  have hclosing : '\n' ∉ (cs.reverse.takeWhile (· != '\n')).reverse := by
    intro hmem
    have := List.mem_takeWhile_imp (List.mem_reverse.1 hmem)
    simp at this
  -- What stands in front of the last line ends in a newline, or there is nothing.
  have hcomplete : Heredoc.completeLines cs = [] ∨
      (Heredoc.completeLines cs).getLast? = some '\n' := by
    rw [Heredoc.completeLines, List.getLast?_reverse, List.reverse_eq_nil_iff]
    have hfirst := List.head?_dropWhile_not (· != '\n') cs.reverse
    cases hdrop : cs.reverse.dropWhile (· != '\n') with
    | nil => exact .inl rfl
    | cons c rest =>
      rw [hdrop] at hfirst
      exact .inr (congrArg some (by simpa using hfirst))
  obtain ⟨lines, hlines, hnewline, -⟩ := exists_unlines hcomplete
  exact ⟨lines, _, hlines ▸ hsplit, hlines, hclosing, hnewline⟩

/-- A text has the lines that it was put together from. -/
theorem splitLines_unlines_append (h : ∀ line ∈ lines, '\n' ∉ line) (hclosing : '\n' ∉ closing) :
    splitLines (unlines lines ++ closing) = lines ++ [closing] := by
  rw [splitLines_unlines h, splitLines_of_not_mem hclosing]

theorem Heredoc.joinLines_append_nil (lines : List (List Char)) :
    Heredoc.joinLines (lines ++ [[]]) = unlines lines := by
  induction lines with
  | nil => rfl
  | cons line lines ih =>
    rw [List.cons_append, Heredoc.joinLines, ih, unlines, unlines, List.flatMap_cons,
      List.append_assoc]
    · rfl
    · simp

end Lines

namespace Heredoc

variable {lines : List (List Char)} {w : Nat}

/-- The width is the least indentation of a line that is not blank, and zero if all lines are
blank. -/
structure Shared (lines : List (List Char)) (w : Nat) : Prop where
  /-- Every line that is not blank is indented as much. -/
  le : ∀ line ∈ lines, line.all Text.isBlank = false → w ≤ indentation line
  /-- One of them is not indented any more, or there is none. -/
  attained : (∃ line ∈ lines, line.all Text.isBlank = false ∧ indentation line = w) ∨
    (∀ line ∈ lines, line.all Text.isBlank = true) ∧ w = 0

theorem shared_sharedIndentation (lines : List (List Char)) :
    Shared lines (sharedIndentation lines) := by
  unfold sharedIndentation
  cases hleast : ((lines.filter fun line => !line.all Text.isBlank).map indentation).min? with
  | none =>
    have hblank : ∀ line ∈ lines, line.all Text.isBlank = true := by
      simpa using List.min?_eq_none_iff.1 hleast
    refine ⟨fun line hline hnot => ?_, .inr ⟨hblank, rfl⟩⟩
    rw [hblank line hline] at hnot
    cases hnot
  | some w =>
    obtain ⟨hmem, hle⟩ := List.min?_eq_some_iff.1 hleast
    obtain ⟨line, hline, rfl⟩ := List.mem_map.1 hmem
    obtain ⟨hline, hblank⟩ := List.mem_filter.1 hline
    refine ⟨fun other hother hnot => hle _ (List.mem_map_of_mem ?_),
      .inl ⟨line, hline, by simpa using hblank, rfl⟩⟩
    exact List.mem_filter.2 ⟨hother, by simpa using hnot⟩

/-- The empty line behind the last newline does not count. -/
theorem sharedIndentation_append_nil (lines : List (List Char)) :
    sharedIndentation (lines ++ [[]]) = sharedIndentation lines := by
  simp [sharedIndentation]

/-- The template text of an indented heredoc has the lines of the heredoc without their first
characters, as many for each. -/
theorem content_indented {token marker : List Char} {n : Nat}
    (h : heredocHeader? token = some (true, marker, n)) :
    ∃ lines closing, token.drop n = unlines lines ++ closing ∧
      '\n' ∉ closing ∧ (∀ line ∈ lines, '\n' ∉ line) ∧
      content token = unlines (lines.map (List.drop (sharedIndentation lines))) := by
  obtain ⟨lines, closing, hsplit, hcomplete, hclosing, hlines⟩ :=
    exists_completeLines (token.drop n)
  refine ⟨lines, closing, hsplit, hclosing, hlines, ?_⟩
  have hall : splitLines (unlines lines) = lines ++ [[]] := by
    simpa using splitLines_unlines_append hlines (List.not_mem_nil (a := '\n'))
  rw [content, h]
  simp only [if_true, hcomplete, dedent, hall, sharedIndentation_append_nil, List.map_append,
    List.map_cons, List.map_nil, List.drop_nil, joinLines_append_nil]

/-- Lines that are not blank lose blanks and tabs only, and keep their indentation relative to each
other. -/
theorem Shared.of_not_blank (h : Shared lines w) {line : List Char} (hline : line ∈ lines)
    (hblank : line.all Text.isBlank = false) :
    (∀ c ∈ line.take w, isGap c = true) ∧ indentation (line.drop w) + w = indentation line :=
  ⟨forall_mem_take_iff.2 (.inl (h.le line hline hblank)), countWhile_drop (h.le line hline hblank)⟩

/-- One of them, if there are any, is not indented any more. -/
theorem Shared.exists_unindented (h : Shared lines w)
    (hlines : ∃ line ∈ lines, line.all Text.isBlank = false) :
    ∃ line ∈ lines, line.all Text.isBlank = false ∧ indentation (line.drop w) = 0 := by
  rcases h.attained with ⟨line, hline, hblank, rfl⟩ | ⟨hall, -⟩
  · have hkept := (h.of_not_blank hline hblank).2
    exact ⟨line, hline, hblank, by omega⟩
  · obtain ⟨line, hline, hblank⟩ := hlines
    rw [hall line hline] at hblank
    cases hblank

/-- The lines lose nothing but blanks and tabs exactly if those of white space that begin with less
than the others hold nothing else. -/
theorem Shared.removes_gaps_iff (h : Shared lines w) :
    (∀ line ∈ lines, ∀ c ∈ line.take w, isGap c = true) ↔
      ∀ line ∈ lines, line.all Text.isBlank = true → indentation line < w →
        line.all isGap = true := by
  refine forall₂_congr fun line hline => ?_
  rw [forall_mem_take_iff]
  cases hblank : line.all Text.isBlank with
  | false => exact ⟨fun _ => nofun, fun _ => .inl (h.le line hline hblank)⟩
  | true =>
    change w ≤ indentation line ∨ _ ↔ _
    rw [← Nat.not_lt, ← imp_iff_not_or]
    simp

end Heredoc

/-- What is read of an indented heredoc are its lines without their first characters, as many for
each as the least that a line which is not blank begins with in blanks and tabs. Those lines lose
nothing else, and one of them begins with none then. Lines of other white space may lose some of
it. -/
theorem heredocParts_indented {t : Token} {marker : List Char} {n : Nat} (ht : t.kind = .heredoc)
    (h : heredocHeader? t.text.toList = some (true, marker, n)) :
    ∃ lines closing w,
      (t.text.toList.drop n = unlines lines ++ closing ∧ '\n' ∉ closing ∧
        ∀ line ∈ lines, '\n' ∉ line) ∧
      Heredoc.Shared lines w ∧
      (∀ read, heredocParts read t = (do
        let r ← read (.start t.start.pos.file (t.start.pos.line + 1)
          (unlines (lines.map (List.drop w))))
        (r.parts?).getD (.ok []))) ∧
      (∀ line ∈ lines, line.all Text.isBlank = false → (∀ c ∈ line.take w, isGap c = true) ∧
        Heredoc.indentation (line.drop w) + w = Heredoc.indentation line) ∧
      ((∃ line ∈ lines, line.all Text.isBlank = false) → ∃ line ∈ lines,
        line.all Text.isBlank = false ∧ Heredoc.indentation (line.drop w) = 0) ∧
      ((∀ line ∈ lines, ∀ c ∈ line.take w, isGap c = true) ↔
        ∀ line ∈ lines, line.all Text.isBlank = true → Heredoc.indentation line < w →
          line.all isGap = true) := by
  obtain ⟨lines, closing, hsplit, hclosing, hlines, hcontent⟩ := Heredoc.content_indented h
  have hshared := Heredoc.shared_sharedIndentation lines
  refine ⟨lines, closing, _, ⟨hsplit, hclosing, hlines⟩, hshared, fun read => ?_,
    fun line hline hblank => hshared.of_not_blank hline hblank, hshared.exists_unindented,
    hshared.removes_gaps_iff⟩
  rw [heredocParts, if_pos ht, hcontent]

/-- A line that is indented more than the line before it. -/
theorem heredocParts_indented_nested :
    let t : Token := ⟨.heredoc, String.ofList ['<', '<', '-', 'E', '\n', ' ', ' ', 'a', '\n', ' ',
      ' ', '\t', 'b', '\n', 'E'], default, 15⟩
    (t.kind = .heredoc ∧ heredocHeader? t.text.toList = some (true, ['E'], 5)) ∧
      ∃ lines closing w, t.text.toList.drop 5 = unlines lines ++ closing ∧
        Heredoc.Shared lines w ∧ ∀ line ∈ lines, line.all Text.isBlank = false →
          Heredoc.indentation (line.drop w) + w = Heredoc.indentation line := by
  intro t
  have hheader : heredocHeader? t.text.toList = some (true, ['E'], 5) := by
    rw [String.toList_ofList]
    decide
  obtain ⟨lines, closing, w, ⟨hsplit, -⟩, hshared, -, hkept, -⟩ := heredocParts_indented rfl hheader
  exact ⟨⟨rfl, hheader⟩, lines, closing, w, hsplit, hshared, fun line hline hblank =>
    (hkept line hline hblank).2⟩

/-- Two no-break spaces are a line of white space, and are cut off where the other line is indented
by two blanks. -/
theorem Heredoc.not_forall_removes_gaps :
    ¬ ∀ (token marker : List Char) (n : Nat), heredocHeader? token = some (true, marker, n) →
      ∃ lines closing w, token.drop n = unlines lines ++ closing ∧ '\n' ∉ closing ∧
        (∀ line ∈ lines, '\n' ∉ line) ∧ content token = unlines (lines.map (List.drop w)) ∧
        ∀ line ∈ lines, ∀ c ∈ line.take w, isGap c = true := by
  intro hall
  obtain ⟨lines, closing, w, hsplit, hclosing, hlines, hcontent, hgaps⟩ :=
    hall ['<', '<', '-', 'E', '\n', '\u00a0', '\u00a0', '\n', ' ', ' ', 'a', '\n', 'E'] ['E'] 5
      (by decide)
  have hsource : lines ++ [closing] = [['\u00a0', '\u00a0'], [' ', ' ', 'a']] ++ [['E']] := by
    rw [← splitLines_unlines_append hlines hclosing, ← hsplit]
    decide
  obtain ⟨rfl, -⟩ := List.append_inj_left' hsource rfl
  match w with
  | 0 => exact absurd hcontent (by decide)
  | 1 => exact absurd hcontent (by decide)
  | w + 2 => exact absurd (hgaps ['\u00a0', '\u00a0'] (by simp) '\u00a0' (by simp)) (by decide)

end ResourceTables.Native
