import Mathlib.Data.List.Basic
import Mathlib.Data.List.DropRight
import ResourceTables.Proofs.Writing.Atoms

/-!
# Heredocs as they are written

A text whose last line is complete can be written as a heredoc: its lines between a header and a
line with the marker, with `$` and `%` doubled before braces. No line of the text may close the
heredoc.

* `unlines`, `doubled_unlines`: complete lines, which doubling leaves complete;
* `trimGaps`: a line without the blanks and tabs at both ends; one that closes a heredoc is then the
  marker;
* `FitsHeredoc`, `heredoc`: a text that can be written with a marker, and how it is written;
* `heredocLength_heredoc`, `content_heredoc`: the lexer takes the heredoc and nothing behind it, and
  finds the doubled text inside of it;
* `valueText_heredoc`: the heredoc is read as an expression that stands for the text.
-/

namespace ResourceTables.Native

section Lines

variable {cs line rest : List Char}

/-! ## Lines -/

/-- Every line with a newline behind it. -/
def unlines (lines : List (List Char)) : List Char :=
  lines.flatMap (· ++ ['\n'])

theorem splitLines_append (hline : '\n' ∉ line) :
    splitLines (line ++ '\n' :: rest) = line :: splitLines rest := by
  induction line with
  | nil => rfl
  | cons c line ih =>
    rw [List.mem_cons, not_or] at hline
    rw [List.cons_append, splitLines, if_neg (Ne.symm hline.1), ih hline.2]

theorem splitLines_of_not_mem (hline : '\n' ∉ line) : splitLines line = [line] := by
  induction line with
  | nil => rfl
  | cons c line ih =>
    rw [List.mem_cons, not_or] at hline
    rw [splitLines, if_neg (Ne.symm hline.1), ih hline.2]

/-- Characters that are none, or end with a newline, are complete lines. -/
theorem exists_unlines (h : cs = [] ∨ cs.getLast? = some '\n') :
    ∃ lines, cs = unlines lines ∧ (∀ line ∈ lines, '\n' ∉ line) ∧ lines ⊆ splitLines cs := by
  -- The characters up to the first newline are a line, and what is behind it is complete again.
  induction hn : cs.length using Nat.strongRecOn generalizing cs with
  | _ n ih =>
    by_cases hempty : cs = []
    · exact ⟨[], hempty, by simp, by simp⟩
    have hlast := h.resolve_left hempty
    have hmem : '\n' ∈ cs := List.mem_of_getLast? hlast
    obtain ⟨line, rest, rfl, hline⟩ := List.eq_append_cons_of_mem hmem
    have hrest : rest = [] ∨ rest.getLast? = some '\n' := by
      cases rest with
      | nil => exact .inl rfl
      | cons c rest =>
        rw [List.getLast?_append_cons, List.getLast?_cons_cons] at hlast
        exact .inr hlast
    have hshorter : rest.length < n := by
      rw [← hn, List.length_append, List.length_cons]
      omega
    obtain ⟨lines, hlines, hnewline, hsub⟩ := ih _ hshorter hrest rfl
    refine ⟨line :: lines, ?_, ?_, ?_⟩
    · rw [unlines, List.flatMap_cons, ← unlines, ← hlines, List.append_assoc]
      rfl
    · intro l hl
      rcases List.mem_cons.1 hl with rfl | hl
      · exact hline
      · exact hnewline l hl
    · rw [splitLines_append hline]
      exact List.cons_subset_cons line hsub

/-! ## Doubling -/

theorem mem_doubled {c : Char} (h : c ∈ cs) : c ∈ doubled cs := by
  fun_induction doubled cs with
  | case1 rest ih | case2 rest ih =>
    simp only [List.mem_cons] at h ⊢
    rcases h with h | h | h
    · exact .inl h
    · exact .inr (.inr (.inl h))
    · exact .inr (.inr (.inr (ih h)))
  | case3 d rest _ _ ih =>
    rcases List.mem_cons.1 h with rfl | h
    · simp
    · simp [ih h]
  | case4 => exact h

/-- Without a brace nothing is doubled. -/
theorem doubled_of_not_mem (h : '\x7b' ∉ cs) : doubled cs = cs := by
  fun_induction doubled cs with
  | case1 rest ih | case2 rest ih => simp at h
  | case3 d rest _ _ ih =>
    rw [List.mem_cons, not_or] at h
    rw [ih h.2]
  | case4 => rfl

/-- Doubling makes no newline. -/
theorem mem_of_newline_mem_doubled (h : '\n' ∈ doubled cs) : '\n' ∈ cs := by
  fun_induction doubled cs with
  | case1 rest ih | case2 rest ih =>
    simp only [List.mem_cons, Char.reduceEq, false_or] at h ⊢
    exact ih h
  | case3 d rest _ _ ih =>
    exact List.mem_cons.2 ((List.mem_cons.1 h).imp_right ih)
  | case4 => exact h

/-- Sequences do not reach across the end of a line. -/
theorem doubled_append_newline (line rest : List Char) :
    doubled (line ++ '\n' :: rest) = doubled line ++ '\n' :: doubled rest := by
  have hnewline : doubled ('\n' :: rest) = '\n' :: doubled rest :=
    doubled.eq_3 '\n' rest (by simp) (by simp)
  fun_induction doubled line with
  | case1 more ih | case2 more ih =>
    simp only [List.cons_append] at ih ⊢
    rw [doubled, ih]
  | case3 c more hdollar hpercent ih =>
    rw [List.cons_append, doubled.eq_3, ih, List.cons_append]
    · intro t hc ht
      cases more with
      | nil => cases ht
      | cons d more => exact hdollar more hc (by rw [(List.cons.inj ht).1])
    · intro t hc ht
      cases more with
      | nil => cases ht
      | cons d more => exact hpercent more hc (by rw [(List.cons.inj ht).1])
  | case4 => exact hnewline

theorem doubled_unlines (lines : List (List Char)) :
    doubled (unlines lines) = unlines (lines.map doubled) := by
  induction lines with
  | nil => rfl
  | cons line lines ih =>
    simp only [unlines, List.flatMap_cons, List.map_cons, List.append_assoc] at ih ⊢
    rw [List.singleton_append, doubled_append_newline, ih, List.singleton_append]

end Lines

/-! ## Where a heredoc ends -/

/-- The line without the blanks and tabs at both ends. -/
def trimGaps (line : List Char) : List Char :=
  (line.dropWhile isGap).rdropWhile isGap

section Ends

variable {marker line rest : List Char} {lines : List (List Char)}

theorem isNameChar_of_mem_countWhile {cs : List Char} (hcs : countWhile isNameChar cs = cs.length) :
    ∀ c ∈ cs, isNameChar c = true := by
  induction cs with
  | nil => simp
  | cons c cs ih =>
    rw [countWhile] at hcs
    split at hcs
    · next hc => exact List.forall_mem_cons.2 ⟨hc, ih (Nat.succ.inj hcs)⟩
    · cases hcs

theorem Identifier.isNameChar_of_mem (n : Identifier) : ∀ c ∈ n.chars, isNameChar c = true := by
  obtain ⟨c, more, hcs, hc⟩ := exists_isNameStart n.ne_nil n.whole
  have hlength := n.whole
  rw [hcs, nameLength, if_pos hc] at hlength
  rw [hcs]
  refine List.forall_mem_cons.2 ⟨?_, isNameChar_of_mem_countWhile (Nat.succ.inj hlength)⟩
  simp [isNameChar, hc]

theorem Identifier.not_isGap_of_mem (n : Identifier) : ∀ c ∈ n.chars, ¬ isGap c = true := by
  intro c hc hgap
  have hname := n.isNameChar_of_mem c hc
  rw [isNameChar_of_isBlankChar (isBlankChar_of_isGap hgap)] at hname
  cases hname

theorem Identifier.newline_not_mem (n : Identifier) : '\n' ∉ n.chars := by
  intro h
  have hname := n.isNameChar_of_mem _ h
  cases hname

/-- A line that closes a heredoc is the marker, up to blanks and tabs at its ends. -/
theorem trimGaps_of_closesHeredoc (marker : Identifier)
    (h : closesHeredoc marker.chars line = true) : trimGaps line = marker.chars := by
  simp only [closesHeredoc, Bool.and_eq_true, beq_iff_eq, List.all_eq_true] at h
  obtain ⟨hmarker, hgaps⟩ := h
  have hline := (List.take_append_drop marker.chars.length (line.dropWhile isGap)).symm
  rw [hmarker] at hline
  have hkept : marker.chars.rdropWhile isGap = marker.chars :=
    List.rdropWhile_eq_self_iff.2 fun hne => marker.not_isGap_of_mem _ (List.getLast_mem hne)
  rw [trimGaps, hline, List.rdropWhile, List.reverse_append,
    List.dropWhile_append_of_pos (by simpa using hgaps), ← List.rdropWhile, hkept]

/-- Only blanks and tabs are trimmed. -/
theorem mem_trimGaps {c : Char} (h : c ∈ line) (hc : isGap c = false) : c ∈ trimGaps line := by
  have hkept : ∀ cs : List Char, c ∈ cs → c ∈ cs.dropWhile isGap := by
    intro cs hcs
    rw [← List.takeWhile_append_dropWhile (p := isGap) (l := cs), List.mem_append] at hcs
    refine hcs.resolve_left fun htaken => ?_
    rw [List.mem_takeWhile_imp htaken] at hc
    cases hc
  rw [trimGaps, List.rdropWhile, List.mem_reverse]
  exact hkept _ (List.mem_reverse.2 (hkept line h))

/-- The marker on a line of its own closes the heredoc. -/
theorem closesHeredoc_marker (marker : Identifier) :
    closesHeredoc marker.chars marker.chars = true := by
  have hkept : marker.chars.dropWhile isGap = marker.chars :=
    List.dropWhile_eq_self_iff.2 fun hpos => marker.not_isGap_of_mem _ (List.getElem_mem hpos)
  simp [closesHeredoc, hkept]

theorem splitLines_unlines (h : ∀ line ∈ lines, '\n' ∉ line) :
    splitLines (unlines lines ++ rest) = lines ++ splitLines rest := by
  induction lines with
  | nil => rfl
  | cons line lines ih =>
    rw [unlines, List.flatMap_cons, ← unlines, List.append_assoc, List.append_assoc,
      List.singleton_append, splitLines_append (h line (by simp)),
      ih fun line hline => h line (by simp [hline]), List.cons_append]

/-- The first line ends where a line ends. -/
theorem exists_splitLines (hline : '\n' ∉ line) (hrest : EndsLine rest) :
    ∃ more, splitLines (line ++ rest) = line :: more := by
  cases rest with
  | nil => exact ⟨[], by rw [List.append_nil, splitLines_of_not_mem hline]⟩
  | cons c rest =>
    rw [hrest c rfl]
    exact ⟨_, splitLines_append hline⟩

/-- The lines up to the first that closes the heredoc belong to it. -/
theorem closingLength?_append {more : List (List Char)}
    (h : ∀ line ∈ lines, closesHeredoc marker line = false)
    (hline : closesHeredoc marker line = true) :
    closingLength? marker (lines ++ line :: more) =
      some ((unlines lines).length + line.length) := by
  induction lines with
  | nil => simp [closingLength?, hline, unlines]
  | cons first lines ih =>
    rw [List.cons_append, closingLength?, h first (by simp), if_neg (by simp),
      ih fun line hline => h line (by simp [hline])]
    simp [unlines]
    omega

end Ends

/-! ## Texts as heredocs -/

/-- The text can be written as a heredoc with the marker. -/
structure FitsHeredoc (marker : Identifier) (s : String) : Prop where
  /-- The last line is complete. -/
  complete : s.toList = [] ∨ s.toList.getLast? = some '\n'
  /-- No line closes the heredoc. -/
  stays_open : ∀ line ∈ splitLines s.toList, trimGaps line ≠ marker.chars

/-- The line that begins a heredoc. -/
def heredocHeader (marker : Identifier) : List Char :=
  '<' :: '<' :: (marker.chars ++ ['\n'])

/-- The text as a heredoc. -/
def heredoc (marker : Identifier) (s : String) : List Char :=
  heredocHeader marker ++ (doubled s.toList ++ marker.chars)

section Heredocs

variable {marker : Identifier} {s : String} {rest : List Char}

/-- What is written between the header and the marker are complete lines, none of which closes the
heredoc. -/
theorem FitsHeredoc.exists_lines (h : FitsHeredoc marker s) :
    ∃ lines, doubled s.toList = unlines lines ∧ (∀ line ∈ lines, '\n' ∉ line) ∧
      ∀ line ∈ lines, closesHeredoc marker.chars line = false := by
  obtain ⟨lines, hlines, hnewline, hsub⟩ := exists_unlines h.complete
  refine ⟨lines.map doubled, by rw [hlines, doubled_unlines], ?_, ?_⟩
  · refine List.forall_mem_map.2 fun line hline hmem => ?_
    exact hnewline line hline (mem_of_newline_mem_doubled hmem)
  · refine List.forall_mem_map.2 fun line hline => Bool.eq_false_iff.2 fun hcloses => ?_
    have htrimmed := trimGaps_of_closesHeredoc marker hcloses
    -- A marker has no brace, and in a line without one nothing is doubled.
    have hbrace : '\x7b' ∉ line := by
      intro hmem
      have hname := mem_trimGaps (mem_doubled hmem) rfl
      rw [htrimmed] at hname
      exact nomatch marker.isNameChar_of_mem _ hname
    rw [doubled_of_not_mem hbrace] at htrimmed
    exact h.stays_open line (hsub hline) htrimmed

theorem heredocHeader?_append (marker : Identifier) (cs : List Char) :
    heredocHeader? (heredocHeader marker ++ cs) =
      some (false, marker.chars, (heredocHeader marker).length) := by
  have hheader : heredocHeader marker ++ cs = '<' :: '<' :: (marker.chars ++ '\n' :: cs) := by
    simp [heredocHeader]
  obtain ⟨c, more, hcs, hc⟩ := exists_isNameStart marker.ne_nil marker.whole
  -- The marker begins as a name does, so the heredoc is not an indented one.
  have hdash : ((marker.chars ++ '\n' :: cs).head? == some '-') = false := by
    rw [hcs, List.cons_append, List.head?_cons, beq_eq_false_iff_ne]
    rintro ⟨⟩
    cases hc
  have hlength : nameLength (marker.chars ++ '\n' :: cs) = marker.chars.length :=
    nameLength_append marker.whole marker.ne_nil rfl
  have hempty : marker.chars.isEmpty = false := by
    rw [hcs]
    rfl
  have hgap : countWhile isGap ('\n' :: cs) = 0 := rfl
  rw [hheader]
  simp only [heredocHeader?, hdash, Bool.false_eq_true, if_false, hlength, List.take_left,
    List.drop_left, hgap, hempty, Nat.add_zero, heredocHeader, List.length_cons,
    List.length_append, List.length_nil, Option.some.injEq, Prod.mk.injEq, true_and]
  omega

/-- The lexer takes the heredoc and nothing behind it. -/
theorem heredocLength_heredoc (h : FitsHeredoc marker s) (hrest : EndsLine rest) :
    heredocLength (heredoc marker s ++ rest) = (heredoc marker s).length := by
  obtain ⟨lines, hlines, hnewline, hopen⟩ := h.exists_lines
  obtain ⟨more, hmore⟩ := exists_splitLines marker.newline_not_mem hrest
  have hclosing : closingLength? marker.chars
      (splitLines (doubled s.toList ++ marker.chars ++ rest)) =
        some ((doubled s.toList).length + marker.chars.length) := by
    rw [hlines, List.append_assoc, splitLines_unlines hnewline, hmore,
      closingLength?_append hopen (closesHeredoc_marker marker)]
  rw [heredoc, List.append_assoc, heredocLength, heredocHeader?_append]
  simp only [List.drop_left, hclosing, List.length_append]

theorem completeLines_unlines {last : List Char} (lines : List (List Char)) (hlast : '\n' ∉ last) :
    Heredoc.completeLines (unlines lines ++ last) = unlines lines := by
  have hdropped : ∀ c ∈ last, (c != '\n') = true := by
    rintro c hc
    exact bne_iff_ne.2 fun h => hlast (h ▸ hc)
  have hkept : (unlines lines).rdropWhile (· != '\n') = unlines lines := by
    rcases lines.eq_nil_or_concat with rfl | ⟨lines, line, rfl⟩
    · rfl
    · rw [unlines, List.concat_eq_append, List.flatMap_append, List.flatMap_singleton,
        ← List.append_assoc]
      exact List.rdropWhile_concat_neg _ _ _ (by simp)
  rw [Heredoc.completeLines, List.reverse_append,
    List.dropWhile_append_of_pos (by simpa using hdropped), ← List.rdropWhile, hkept]

/-- The template inside of the heredoc is the doubled text. -/
theorem content_heredoc (h : FitsHeredoc marker s) :
    Heredoc.content (heredoc marker s) = doubled s.toList := by
  obtain ⟨lines, hlines, -, -⟩ := h.exists_lines
  simp only [Heredoc.content, heredoc, heredocHeader?_append, List.drop_left, hlines,
    completeLines_unlines lines marker.newline_not_mem, Bool.false_eq_true, if_false]

/-- The template is read and means the text, with fuel for the heredoc. -/
theorem heredocParts_heredoc (h : FitsHeredoc marker s) {m : Mark}
    (hm : m.rest = heredoc marker s ++ rest) {fuel : Nat} (hfuel : m.rest.length ≤ fuel) :
    heredocParts (fun m => readFrom fuel .template m.pos {} Reader.template m)
      (m.token .heredoc (heredoc marker s).length) = .ok (Part.addText s []) := by
  have htext : (m.token .heredoc (heredoc marker s).length).text.toList = heredoc marker s := by
    rw [Mark.text_token hm, String.toList_ofList]
  have hcontent := content_heredoc h
  -- The template is shorter than the heredoc around it, so the fuel lasts.
  have hshorter : (doubled s.toList).length < fuel := by
    rw [hm] at hfuel
    simp only [heredoc, heredocHeader, List.length_append, List.length_cons] at hfuel
    omega
  have hgives : Gives .template ⟨m.pos.file, m.pos.line + 1, 1⟩ _ {} Reader.template
      (.start m.pos.file (m.pos.line + 1) (doubled s.toList)) := .template rfl
  obtain ⟨r, hread, hparts⟩ := hgives fuel hshorter
  have hkind : (m.token .heredoc (heredoc marker s).length).kind = .heredoc := rfl
  have hstart : (m.token .heredoc (heredoc marker s).length).start = m := rfl
  have hfirst : (Mark.start m.pos.file (m.pos.line + 1) (doubled s.toList)).pos =
      ⟨m.pos.file, m.pos.line + 1, 1⟩ := rfl
  rw [heredocParts, if_pos hkind]
  simp only [htext, hcontent, hstart, hfirst, hread, bind, Except.bind, hparts, Option.getD_some]

/-- A heredoc is read as the value of an attribute. -/
theorem valueText_heredoc (h : FitsHeredoc marker s) :
    ValueText (heredoc marker s) (Constant.text s).Means := by
  intro first Q state name outer rest m hrest hm hnext
  have hne : heredoc marker s ≠ [] := by simp [heredoc, heredocHeader]
  have hfirst : firstToken? (allows operandKinds) m.rest =
      some (.heredoc, (heredoc marker s).length) := by
    rw [hm]
    refine firstToken?_eq [.callName, .textChars, .templateChars] _ rfl ?_ rfl
      (heredocLength_heredoc h hrest) (by simpa using hne)
    intro k hk hallowed
    simp only [List.mem_cons, List.not_mem_nil, or_false] at hk
    rcases hk with rfl | rfl | rfl
    · rfl
    · cases hallowed
    · cases hallowed
  have htoken : nextToken? (Reader.accepts ⟨none, .attribute name :: outer⟩) m = _ :=
    nextToken?_eq hfirst (by rintro ⟨⟩)
  have hparts := fun fuel (hfuel : m.rest.length ≤ fuel) => heredocParts_heredoc h hm hfuel
  have hstop := m.stop_token .heredoc (heredoc marker s).length
  have hkind : (m.token .heredoc (heredoc marker s).length).kind = .heredoc := rfl
  generalize m.token .heredoc (heredoc marker s).length = t at htoken hparts hstop hkind
  -- A heredoc is no bracket, so it is let through alone.
  have hstep : state.step t = ([t], ⟨state.brackets, some t⟩) := by
    simp [Newlines.step, Newlines.opens, Newlines.closes, hkind]
  have hfeed : Reader.feedAll (.ok (Part.addText s [])) ⟨none, .attribute name :: outer⟩ [t] =
      .ok ⟨some (.ofHeredoc t (.ok (Part.addText s []))), .attribute name :: outer⟩ := by
    simp [Reader.feedAll, Reader.feed, Reader.feedOpen, Frame.awaitsOperand, Reader.beginOperand,
      Reader.after, hkind]
  have hignored : t.kind.ignored = false := by
    rw [hkind]
    rfl
  have hnext' : ∀ fuel, m.rest.length ≤ fuel →
      readFrom (fuel + 1) .file first state ⟨none, .attribute name :: outer⟩ m =
        readFrom fuel .file first ⟨state.brackets, some t⟩
          ⟨some (.ofHeredoc t (.ok (Part.addText s []))), .attribute name :: outer⟩
          (m.advance (heredoc marker s).length) := by
    intro fuel hfuel
    simp only [readFrom, isEmpty_eq_false hm hne, htoken, hignored, hparts fuel hfuel, hstep, hfeed,
      hstop, Bool.false_eq_true, if_false]
  have hsettle : Reader.settle (.ofHeredoc t (.ok (Part.addText s []))) (.attribute name :: outer) =
      (_, .attribute name :: outer) := rfl
  exact .of_next hm hne hnext' fun m' hm' =>
    hnext _ _ _ _ t m' hsettle rfl (Constant.means_addText s _) (by simp [hkind]) hm'

end Heredocs

end ResourceTables.Native
