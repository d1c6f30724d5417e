import ResourceTables.Proofs.Positions.Native
import ResourceTables.Proofs.Sources.Values
import ResourceTables.Proofs.Templates.Nesting
import ResourceTables.Proofs.Templates.Indentation

/-!
# Lines of a file, and where reading it stands

A place counts the newlines in front of it, and the template of a heredoc counts on from the line
behind its header. So each piece of a line that lies ahead of a place stands on the line of the file
that the place counts to, in templates of heredocs too: an indented heredoc loses the first
characters of its lines, but no line.

Reading a file goes from token to token, and at a heredoc through its template as well, so that the
templates of heredocs inside of heredocs are read on the way. Whatever is read there has its place
in the file.

* `OnLine`: the characters stand on a line of the text;
* `Below`: the lines of one text are found in another, so many lines further down;
* `Mark.Located`: the lines ahead of a place are found where the place says;
* `Mark.Located.advance`, `Mark.Located.content`: reading on in a text, and entering a heredoc;
* `Visits`: reading the file stands there, in the file itself or in the template of a heredoc;
* `Visits.located`: the lines ahead are lines of the file, and counted as such;
* `KeywordAt`, `TemplateAt`: the keyword of a directive, and a template with its directives, as they
  are met on the way;
* `ParseError.Traced`: the fault of a directive in one of these templates.
-/

namespace ResourceTables

/-- The characters stand on the line of the text. Lines count from one, so a line has one newline
less in front of it. -/
def OnLine (text : List Char) (line : Nat) (cs : List Char) : Prop :=
  ∃ before after, text = before ++ cs ++ after ∧ line = before.count '\n' + 1

/-- What stands in front of the first newline. -/
def firstLine (cs : List Char) : List Char :=
  cs.takeWhile (· != '\n')

theorem newline_not_mem_firstLine (cs : List Char) : '\n' ∉ firstLine cs := by
  intro h
  simpa using List.mem_takeWhile_imp h

/-- Each piece of a line of the first text stands in the second one too, `k` lines further down. -/
def Below (k : Nat) (inner outer : List Char) : Prop :=
  ∀ before piece after, inner = before ++ piece ++ after → '\n' ∉ piece →
    ∃ before' after', outer = before' ++ piece ++ after' ∧
      before'.count '\n' = before.count '\n' + k

namespace Below

variable {j k : Nat} {a b c : List Char}

theorem refl (a : List Char) : Below 0 a a :=
  fun before _ after ha _ => ⟨before, after, ha, rfl⟩

theorem trans (h : Below j a b) (h' : Below k b c) : Below (j + k) a c := by
  intro before piece after ha hpiece
  obtain ⟨before₁, after₁, hb, hcount⟩ := h before piece after ha hpiece
  obtain ⟨before₂, after₂, hc, hcount'⟩ := h' before₁ piece after₁ hb hpiece
  exact ⟨before₂, after₂, hc, by rw [hcount', hcount, Nat.add_assoc]⟩

/-- A part of a text begins as many lines further down as there are newlines in front of it. -/
theorem of_append (front a back : List Char) :
    Below (front.count '\n') a (front ++ a ++ back) := by
  rintro before piece after rfl -
  exact ⟨front ++ before, after ++ back, by simp, by rw [List.count_append, Nat.add_comm]⟩

/-- A piece of a line stands on the first line, or behind the newline that ends it. -/
theorem piece_cases {line rest before piece after : List Char} (hpiece : '\n' ∉ piece)
    (h : line ++ '\n' :: rest = before ++ piece ++ after) :
    (∃ more, line = before ++ piece ++ more) ∨
      ∃ before', before = line ++ '\n' :: before' ∧ rest = before' ++ piece ++ after := by
  rcases List.append_eq_append_iff.1 h with ⟨x, hfront, hback⟩ | ⟨x, hfront, -⟩
  · cases x with
    | nil => exact .inl ⟨[], by simpa using hfront.symm⟩
    | cons c x =>
      obtain ⟨rfl, rfl⟩ := List.cons.inj hback
      -- The newline does not stand in the piece, so it stands in front of it.
      rcases List.append_eq_append_iff.1 hfront with ⟨y, -, hy⟩ | ⟨y, hbefore, hy⟩
      · exact absurd (by rw [hy]; simp) hpiece
      · cases y with
        | nil => exact absurd (by rw [← List.nil_append piece, ← hy]; simp) hpiece
        | cons c y =>
          obtain ⟨rfl, rfl⟩ := List.cons.inj hy
          exact .inr ⟨y, hbefore, rfl⟩
  · exact .inl ⟨x, hfront⟩

/-- A line that loses its first characters is found on the same line. -/
theorem cons_line {front line : List Char} (hline : '\n' ∉ front ++ line) (h : Below 0 a b) :
    Below 0 (line ++ '\n' :: a) (front ++ line ++ '\n' :: b) := by
  obtain ⟨hfront, hline⟩ : '\n' ∉ front ∧ '\n' ∉ line := by simpa using hline
  intro before piece after hinner hpiece
  rcases piece_cases hpiece hinner with ⟨more, rfl⟩ | ⟨before, rfl, rfl⟩
  · exact ⟨front ++ before, more ++ '\n' :: b, by simp,
      by rw [List.count_append, List.count_eq_zero.2 hfront, Nat.zero_add, Nat.add_zero]⟩
  · obtain ⟨before', after', rfl, hcount⟩ := h before piece after rfl hpiece
    refine ⟨front ++ line ++ '\n' :: before', after', by simp, ?_⟩
    rw [List.append_assoc, List.count_append, List.count_eq_zero.2 hfront, Nat.zero_add]
    simp only [List.count_append, List.count_cons, hcount, Nat.add_zero]

theorem unlines_drop (w : Nat) {lines : List (List Char)} (hlines : ∀ line ∈ lines, '\n' ∉ line) :
    Below 0 (Native.unlines (lines.map (List.drop w))) (Native.unlines lines) := by
  induction lines with
  | nil => exact .refl _
  | cons line lines ih =>
    obtain ⟨hline, hlines⟩ := List.forall_mem_cons.1 hlines
    rw [← List.take_append_drop w line] at hline
    have hcons := cons_line hline (ih hlines)
    rw [List.take_append_drop] at hcons
    simpa [Native.unlines] using hcons

end Below

namespace Native

/-! ## Places -/

/-- The lines ahead of the place are found in the text, on the line of the place and below. -/
def Mark.Located (text : List Char) (m : Mark) : Prop :=
  ∃ k, m.pos.line = k + 1 ∧ Below k m.rest text

namespace Mark

variable {text : List Char} {m : Mark}

theorem located_start (file : String) (text : List Char) : (Mark.start file 1 text).Located text :=
  ⟨0, rfl, .refl text⟩

theorem advance_line (n : Nat) (m : Mark) :
    (m.advance n).pos.line = m.pos.line + (m.rest.take n).count '\n' := by
  induction n generalizing m with
  | zero => simp [advance]
  | succ n ih =>
    rw [advance]
    split
    · next hrest => simp [hrest]
    · next c rest hrest =>
      rw [ih, hrest, List.take_succ_cons, List.count_cons]
      unfold Pos.next
      split
      · next hc => simp [hc]; omega
      · next hc => simp [hc]

/-- A place further on in the text is one of its places. -/
theorem Located.advance (h : m.Located text) (n : Nat) : (m.advance n).Located text := by
  obtain ⟨k, hline, hbelow⟩ := h
  refine ⟨(m.rest.take n).count '\n' + k, by rw [advance_line, hline]; omega, ?_⟩
  have hbehind := Below.of_append (m.rest.take n) (m.rest.drop n) []
  rw [List.append_nil, List.take_append_drop] at hbehind
  rw [advance_rest]
  exact hbehind.trans hbelow

/-- A piece of the line that begins at a place stands on the line of the place. -/
theorem Located.onLine (h : m.Located text) {piece : List Char} (hpiece : piece <+: m.rest)
    (hline : '\n' ∉ piece) : OnLine text m.pos.line piece := by
  obtain ⟨k, hk, hbelow⟩ := h
  obtain ⟨after, hrest⟩ := hpiece
  obtain ⟨before, after', htext, hcount⟩ := hbelow [] piece after hrest.symm hline
  rw [List.count_nil, Nat.zero_add] at hcount
  exact ⟨before, after', htext, by rw [hk, hcount]⟩

/-- So does the first line of what reaches from the place to an offset. -/
theorem Located.onLine_originTo (h : m.Located text) (stop : Nat) :
    OnLine text (m.originTo stop).pos.line (firstLine (m.originTo stop).source.toList) := by
  refine h.onLine ?_ (newline_not_mem_firstLine _)
  rw [originTo, String.toList_ofList]
  exact (List.takeWhile_prefix _).trans (List.take_prefix _ _)

end Mark

/-! ## Heredocs -/

/-- The header of a heredoc is one line. -/
theorem HeadsHeredoc.count_newline {indented : Bool} {marker header : List Char}
    (h : HeadsHeredoc indented marker header) : header.count '\n' = 1 := by
  obtain ⟨hwhole, hne, gap, eol, hgap, heol, rfl⟩ := h
  have hmarker : '\n' ∉ marker := fun hmem => by
    cases Identifier.isNameChar_of_mem ⟨marker, hne, hwhole⟩ _ hmem
  have hblanks : '\n' ∉ gap := fun hmem => by
    cases hgap _ hmem
  rcases heol with rfl | rfl <;> cases indented <;>
    simp [List.count_append, List.count_eq_zero.2 hmarker, List.count_eq_zero.2 hblanks]

/-- The template of a heredoc begins on the line behind its header. -/
theorem below_content {token marker : List Char} {indented : Bool} {n : Nat}
    (h : heredocHeader? token = some (indented, marker, n)) :
    Below 1 (Heredoc.content token) token := by
  obtain ⟨header, rest, htoken, hlength, hheads⟩ := exists_header h
  have hdrop : token.drop n = rest := by
    rw [htoken, ← hlength, List.drop_left]
  have hbehind : Below 1 rest token := by
    have hrest := Below.of_append header rest []
    rwa [hheads.count_newline, List.append_nil, ← htoken] at hrest
  -- Behind the header no line is added or taken away.
  suffices hlines : Below 0 (Heredoc.content token) rest from hlines.trans hbehind
  cases indented with
  | false =>
    obtain ⟨lines, closing, hsplit, hcomplete, -⟩ := Heredoc.exists_completeLines rest
    have hlines := Below.of_append [] (unlines lines) closing
    rw [List.nil_append, ← hsplit] at hlines
    simpa [Heredoc.content, h, hdrop, hcomplete] using hlines
  | true =>
    obtain ⟨lines, closing, hsplit, -, hnewlines, hcontent⟩ := Heredoc.content_indented h
    have hlines := Below.of_append [] (unlines lines) closing
    rw [List.nil_append, ← hsplit, hdrop] at hlines
    rw [hcontent]
    exact (Below.unlines_drop _ hnewlines).trans hlines

/-! ## Tokens -/

section Tokens

variable {text : List Char} {accepted : List Kind} {m : Mark} {t : Token}

/-- A token is what lies ahead. -/
theorem isPrefix_text (ht : nextToken? accepted m = some t) : t.text.toList <+: m.rest := by
  obtain ⟨n, htoken, -⟩ := exists_length ht
  rw [htoken, Mark.token, String.toList_ofList]
  exact List.take_prefix n m.rest

/-- A token on one line stands on the line of its place. -/
theorem Mark.Located.onLine_text (h : m.Located text) (ht : nextToken? accepted m = some t)
    (hline : '\n' ∉ t.text.toList) : OnLine text m.pos.line t.text.toList :=
  h.onLine (isPrefix_text ht) hline

/-- A name stands on one line. -/
theorem newline_not_mem_text (ht : nextToken? accepted m = some t) (hk : t.kind = .name) :
    '\n' ∉ t.text.toList := by
  obtain ⟨n, hn⟩ := exists_identifier ht hk
  rw [hn, Identifier.text, String.toList_ofList]
  intro hmem
  cases n.isNameChar_of_mem _ hmem

/-- What is taken for a keyword is cut off as such, or is a name that is spelled like it. -/
theorem Kind.eq_of_refine {k : Kind} {w : DirectiveWord} {cs : List Char}
    (h : k.refine accepted cs = .word w) : k = .word w ∨ Kind.ofWord? cs = some (.word w) := by
  unfold Kind.refine at h
  split at h
  · next found hfound =>
    split at h
    · exact .inr (h ▸ hfound)
    · cases h
  · exact .inl h

/-- The keyword of a directive is spelled as it is. -/
theorem text_of_word {w : DirectiveWord} (ht : nextToken? accepted m = some t)
    (hk : t.kind = .word w) : t.text = w.text := by
  obtain ⟨⟨k, n⟩, hfirst, rfl⟩ := Option.map_eq_some_iff.1 ht
  obtain ⟨-, hlength, hne⟩ := of_firstToken? hfirst
  suffices hspelling : m.rest.take n = (Kind.word w).spelling by
    dsimp only
    rw [hspelling]
    exact String.ofList_toList
  rcases Kind.eq_of_refine hk with rfl | hword
  · have hspelled : (Kind.word w).spelling ≠ [] := by
      cases w <;> decide
    rw [Kind.lengthAt_spelling hspelled] at hlength
    split at hlength
    · next hprefix =>
      rw [← hlength]
      exact (List.prefix_iff_eq_take.1 (List.isPrefixOf_iff_prefix.1 hprefix)).symm
    · exact absurd hlength.symm hne
  · have hspelled := List.find?_some hword
    exact (beq_iff_eq.1 hspelled).symm

theorem newline_not_mem_word (w : DirectiveWord) : '\n' ∉ w.text.toList := by
  cases w <;> decide

/-- The template of a heredoc begins at a place of the text. -/
theorem Mark.Located.content (h : m.Located text) (ht : nextToken? accepted m = some t)
    (hk : t.kind = .heredoc) :
    (Mark.start m.pos.file (m.pos.line + 1) (Heredoc.content t.text.toList)).Located text := by
  obtain ⟨k, hline, hbelow⟩ := h
  obtain ⟨htoken, hne, -⟩ := length_of_nextToken? ht (by rw [hk]; rfl)
  rw [hk] at htoken hne
  obtain ⟨indented, marker, header, rest, n, hrest, hheads, -, hlength⟩ := exists_heredoc hne
  have htext : t.text.toList = header ++ rest.take n := by
    rw [htoken, Mark.token, String.toList_ofList]
    show m.rest.take (heredocLength m.rest) = _
    rw [hlength, hrest, List.take_length_add_append]
  have hheader : heredocHeader? t.text.toList = some (indented, marker, header.length) := by
    rw [htext, hheads.heredocHeader?]
  have htaken : Below 0 t.text.toList m.rest := by
    obtain ⟨behind, hbehind⟩ := isPrefix_text ht
    have hfront := Below.of_append [] t.text.toList behind
    rwa [List.nil_append, hbehind] at hfront
  -- One line down to the template, none to what was ahead of the heredoc, and `k` to the text.
  refine ⟨1 + 0 + k, by rw [Mark.start, hline]; dsimp only; omega, ?_⟩
  exact ((below_content hheader).trans htaken).trans hbelow

end Tokens

end Native

/-! ## Where reading a file stands -/

namespace Native

/-- Reading the file stands there. It has taken the tokens in front, or has come to a heredoc and
begun its template. -/
inductive Visits (file text : String) : Form → Reading → Prop
  | start : Visits file text .file ⟨{}, Reader.file, .start file 1 text.toList⟩
  | drop {form s r m t} (h : Visits file text form ⟨s, r, m⟩) (ht : nextToken? r.accepts m = some t)
      (hk : t.kind.ignored = true) :
    Visits file text form ⟨s, r, m.advance (t.stop - m.offset)⟩
  | take {form s r r₁ m t fuel} (h : Visits file text form ⟨s, r, m⟩)
      (ht : nextToken? r.accepts m = some t) (hk : t.kind.ignored = false)
      (hfuel : t.stop - m.offset ≤ fuel)
      (hfeed : r.feedAll (heredocParts (fun m => readFrom fuel .template m.pos {} Reader.template m)
        t) (s.step t).1 = .ok r₁) :
    Visits file text form ⟨(s.step t).2, r₁, m.advance (t.stop - m.offset)⟩
  | enter {form s r m t} (h : Visits file text form ⟨s, r, m⟩)
      (ht : nextToken? r.accepts m = some t) (hk : t.kind = .heredoc) :
    Visits file text .template
      ⟨{}, Reader.template, .start m.pos.file (m.pos.line + 1) (Heredoc.content t.text.toList)⟩

section Visits

variable {file text : String} {form : Form} {s : Newlines} {r : Reader} {m : Mark}

/-- Wherever reading stands, the lines ahead are found in the file where the place says. -/
theorem Visits.located {a : Reading} (h : Visits file text form a) :
    a.mark.Located text.toList := by
  induction h with
  | start => exact Mark.located_start file text.toList
  | drop _ _ _ ih => exact ih.advance _
  | take _ _ _ _ _ ih => exact ih.advance _
  | enter _ ht hk ih => exact ih.content ht hk

theorem Visits.file_eq {a : Reading} (h : Visits file text form a) : a.mark.pos.file = file := by
  induction h with
  | start => rfl
  | drop _ _ _ ih => exact (Mark.advance_file _ _).trans ih
  | take _ _ _ _ _ ih => exact (Mark.advance_file _ _).trans ih
  | enter _ _ _ ih => exact ih

/-- Reading the file comes to the keyword of a directive there. -/
def KeywordAt (file text : String) (pos : Pos) (w : DirectiveWord) : Prop :=
  ∃ form s before outer m t, Visits file text form ⟨s, ⟨none, .directive before :: outer⟩, m⟩ ∧
    nextToken? (Frame.directive before).accepts m = some t ∧ t.kind = .word w ∧ m.pos = pos

/-- The keyword stands on the line of its place. -/
theorem KeywordAt.onLine {pos : Pos} {w : DirectiveWord} (h : KeywordAt file text pos w) :
    OnLine text.toList pos.line w.text.toList := by
  obtain ⟨form, s, before, outer, m, t, hvisits, ht, hk, rfl⟩ := h
  have htext := text_of_word ht hk
  rw [← htext]
  exact hvisits.located.onLine_text ht (htext ▸ newline_not_mem_word w)

theorem KeywordAt.file_eq {pos : Pos} {w : DirectiveWord} (h : KeywordAt file text pos w) :
    pos.file = file := by
  obtain ⟨form, s, before, outer, m, t, hvisits, -, -, rfl⟩ := h
  exact hvisits.file_eq

/-- Reading the file comes to the end of a template with these directives: the quote that ends a
quoted text, or the end of a heredoc. -/
inductive TemplateAt (file text : String) : List (Pos × Directive) → Prop
  | quoted {form s start items outer m t read}
      (h : Visits file text form ⟨s, ⟨none, .quoted start items :: outer⟩, m⟩)
      (ht : nextToken? (Frame.quoted start items).accepts m = some t) (hk : t.kind = .quote)
      (hread : items.reverse.mapM id = .ok read) : TemplateAt file text (TemplateItem.placed read)
  | heredoc {s items m read}
      (h : Visits file text .template ⟨s, ⟨none, [.template items]⟩, m⟩) (hm : m.rest = [])
      (hread : items.reverse.mapM id = .ok read) : TemplateAt file text (TemplateItem.placed read)

end Visits

end Native

/-! ## Faults of directives -/

/-- Whether the cause of the error is a directive. -/
def ParseCause.isDirective : ParseCause → Bool
  | .unterminatedCond | .unterminatedLoop | .directive _ => true
  | _ => false

/-- One of the directives of a template in the file is at fault, and the error has the line of its
keyword. -/
def ParseError.Traced (file text : String) (e : ParseError) : Prop :=
  ∃ before pos d after, Native.TemplateAt file text (before ++ (pos, d) :: after) ∧
    Native.AtFault (before.map Prod.snd) d (after.map Prod.snd) e.cause ∧
    Native.KeywordAt file text pos d.word ∧ e.file = pos.file ∧ e.line = some pos.line

/-- If the error is about a directive it is traced to one. -/
def ReadError.Traced (file text : String) (e : ReadError) : Prop :=
  ∀ fault, e = .malformed fault → fault.cause.isDirective = true → fault.Traced file text

namespace ReadError

variable {file text : String}

@[simp]
theorem traced_beyondLimits : beyondLimits.Traced file text := by
  simp [Traced]

theorem traced_of_not {fault : ParseError} (h : fault.cause.isDirective = false) :
    (malformed fault).Traced file text := by
  rintro _ ⟨⟩ hcause
  rw [h] at hcause
  cases hcause

end ReadError

end ResourceTables
