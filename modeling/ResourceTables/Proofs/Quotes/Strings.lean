import ResourceTables.Proofs.Encodings.NativeTokens
import ResourceTables.Proofs.Quotes.Lines
import ResourceTables.Proofs.Quotes.Readers

/-!
# The characters between two quotes

What the next token tells about the characters that it is cut off from, and what has been read since
a quote opened, while the template has neither interpolations nor directives: the lines behind the
quote. The newlines between them are passed over, as they are within brackets, so that nothing of
them is left when another quote ends the text.

* `exists_firstToken?`: a token is the first that fits, and a name may be taken for a word;
* `exists_advance`: the place behind a newline or a quote;
* `exists_identifier`: the text of a name token is a name;
* `nextToken?_quoted`: between quotes the lexer takes literal characters as long as there are any,
  and drops none;
* `PartOf`: characters of the file, or of the template of a heredoc in it;
* `QuotedIn`: a quoted text and what its lines say;
* `Follows`: the lines that have been read since a quote opened, and the items they have become;
* `isQuoted_ofQuoted`: the text that another quote ends says what these lines say.
-/

namespace ResourceTables.Native

/-! ## Tokens -/

section Tokens

variable {accepted : List Kind} {m : Mark} {t : Token} {cs : List Char} {k : Kind} {n : Nat}

/-- The first token is of a kind that is allowed, and is not empty. -/
theorem of_firstToken? {allowed : Kind → Bool} (h : firstToken? allowed cs = some (k, n)) :
    allowed k = true ∧ k.lengthAt cs = n ∧ n ≠ 0 := by
  obtain ⟨k', -, hk⟩ := List.exists_of_findSome?_eq_some h
  split at hk
  · next hallowed =>
    split at hk
    · cases hk
    · next hne =>
      cases hk
      exact ⟨hallowed, rfl, hne⟩
  · cases hk

/-- A token is the first that fits. Its kind is the one it is cut off with, unless it is a word. -/
theorem exists_firstToken? (h : nextToken? accepted m = some t) :
    ∃ k n, firstToken? (allows accepted) m.rest = some (k, n) ∧ t = m.token t.kind n ∧
      (t.kind.isWord = false → t.kind = k) := by
  obtain ⟨⟨k, n⟩, hfirst, rfl⟩ := Option.map_eq_some_iff.1 h
  refine ⟨k, n, hfirst, rfl, fun hword => ?_⟩
  dsimp only at hword ⊢
  unfold Kind.refine at hword ⊢
  split
  · next found hfound =>
    rw [hfound] at hword
    split
    · next hcontains =>
      dsimp only at hword
      rw [if_pos hcontains, Kind.isWord_of_ofWord? hfound] at hword
      cases hword
    · rfl
  · rfl

/-- A token that is cut off with its own kind has the length of that kind. -/
theorem length_of_nextToken? (h : nextToken? accepted m = some t) (hword : t.kind.isWord = false) :
    t = m.token t.kind (t.kind.lengthAt m.rest) ∧ t.kind.lengthAt m.rest ≠ 0 ∧
      allows accepted t.kind = true := by
  obtain ⟨k, n, hfirst, ht, hk⟩ := exists_firstToken? h
  obtain ⟨hallowed, hlength, hn⟩ := of_firstToken? hfirst
  rw [← hk hword] at hallowed hlength
  rw [hlength]
  exact ⟨ht, hn, hallowed⟩

/-- A newline and a quote are one character each. -/
theorem exists_cons_of_lengthAt {c : Char} (hk : k = .newline ∧ c = '\n' ∨ k = .quote ∧ c = '"')
    (h : k.lengthAt cs ≠ 0) : ∃ rest, cs = c :: rest ∧ k.lengthAt cs = 1 := by
  have hspelling : k.lengthAt cs = if [c].isPrefixOf cs then 1 else 0 := by
    rcases hk with ⟨rfl, rfl⟩ | ⟨rfl, rfl⟩ <;> rfl
  rw [hspelling] at h ⊢
  split at h
  · next hprefix =>
    obtain ⟨rest, rfl⟩ := List.isPrefixOf_iff_prefix.1 hprefix
    exact ⟨rest, rfl, if_pos hprefix⟩
  · exact absurd rfl h

theorem Mark.advance_offset {n : Nat} (h : n ≤ m.rest.length) :
    (m.advance n).offset = m.offset + n := by
  induction n generalizing m with
  | zero => rfl
  | succ n ih =>
    unfold Mark.advance
    split
    · next hnil =>
      rw [hnil] at h
      cases h
    · next c rest hcons =>
      rw [hcons] at h
      rw [ih (Nat.le_of_succ_le_succ h), Nat.add_assoc, Nat.add_comm 1]

/-- The place behind a newline or a quote. -/
theorem exists_advance {c : Char} (ht : nextToken? accepted m = some t)
    (hk : t.kind = .newline ∧ c = '\n' ∨ t.kind = .quote ∧ c = '"') :
    t.stop = m.offset + 1 ∧ (m.advance (t.stop - m.offset)).offset = m.offset + 1 ∧
      m.rest = c :: (m.advance (t.stop - m.offset)).rest := by
  have hword : t.kind.isWord = false := by
    rcases hk with ⟨hk, -⟩ | ⟨hk, -⟩ <;> rw [hk] <;> rfl
  obtain ⟨htoken, hne, -⟩ := length_of_nextToken? ht hword
  obtain ⟨rest, hrest, hone⟩ := exists_cons_of_lengthAt hk hne
  have hstop : t.stop = m.offset + 1 := by
    rw [htoken, hone]
    rfl
  rw [hstop, Nat.add_sub_cancel_left]
  refine ⟨rfl, Mark.advance_offset (by rw [hrest]; simp), ?_⟩
  rw [Mark.advance_rest, hrest]
  rfl

theorem countWhile_take (p : Char → Bool) (cs : List Char) :
    countWhile p (cs.take (countWhile p cs)) = (cs.take (countWhile p cs)).length := by
  induction cs with
  | nil => rfl
  | cons c cs ih =>
    by_cases hc : p c = true
    · simp [countWhile, hc, ih]
    · simp [countWhile, hc]

theorem nameLength_take (cs : List Char) :
    nameLength (cs.take (nameLength cs)) = (cs.take (nameLength cs)).length := by
  cases cs with
  | nil => rfl
  | cons c cs =>
    by_cases hc : isNameStart c = true
    · simp [nameLength, hc, countWhile_take]
    · simp [nameLength, hc]

/-- A name token is a name. -/
theorem exists_identifier (ht : nextToken? accepted m = some t) (hk : t.kind = .name) :
    ∃ n : Identifier, t.text = n.text := by
  obtain ⟨htoken, hne, -⟩ := length_of_nextToken? ht (by rw [hk]; rfl)
  rw [hk] at htoken hne
  have hlength : nameLength m.rest ≠ 0 := hne
  refine ⟨⟨m.rest.take (nameLength m.rest), fun hnil => ?_, nameLength_take m.rest⟩, ?_⟩
  · cases hrest : m.rest with
    | nil =>
      rw [hrest] at hlength
      exact hlength rfl
    | cons c rest =>
      obtain ⟨k, hk⟩ := Nat.exists_eq_succ_of_ne_zero hlength
      rw [hk, hrest] at hnil
      cases hnil
  · rw [htoken]
    rfl

theorem isWord_of_ignored (hk : k.ignored = true) : k.isWord = false := by
  cases k with
  | blank | lineComment | blockComment => rfl
  | _ => cases hk

/-- Blanks and comments begin with characters that are literal between quotes. -/
theorem textLength_ne_zero_of_ignored (hk : k.ignored = true) (h : k.lengthAt cs ≠ 0) :
    textLength cs ≠ 0 := by
  -- The first characters of what is ignored, none of which ends literal characters.
  obtain ⟨c, rest, rfl, hc⟩ :
      ∃ c rest, cs = c :: rest ∧ c ∈ [' ', '\t', '\r', '\x0c', '#', '/'] := by
    cases k with
    | blank =>
      cases cs with
      | nil => exact absurd rfl h
      | cons c rest =>
        refine ⟨c, rest, rfl, ?_⟩
        by_contra hc
        simp only [List.mem_cons, List.not_mem_nil, or_false, not_or] at hc
        exact h (by simp [Kind.lengthAt, countWhile, isGap, hc])
    | lineComment =>
      simp only [Kind.lengthAt] at h
      split at h
      · exact ⟨'#', _, rfl, by simp⟩
      · exact ⟨'/', _, rfl, by simp⟩
      · exact absurd rfl h
    | blockComment =>
      simp only [Kind.lengthAt] at h
      split at h
      · exact ⟨'/', _, rfl, by simp⟩
      · exact absurd rfl h
    | _ => cases hk
  simp only [List.mem_cons, List.not_mem_nil, or_false] at hc
  rcases hc with rfl | rfl | rfl | rfl | rfl | rfl <;> simp [textLength]

/-- Between quotes the next token is the longest run of literal characters, or, if there are none,
one that is not dropped. -/
theorem nextToken?_quoted
    (h : nextToken? [.openDirective, .openInterp, .quote, .textChars] m = some t) :
    (t.kind = .textChars ∧ t = m.token .textChars (textLength m.rest)) ∨
      textLength m.rest = 0 ∧ t.kind.ignored = false ∧ t.kind ≠ .textChars ∧
        t.kind ≠ .templateChars := by
  by_cases hzero : textLength m.rest = 0
  · refine .inr ⟨hzero, Bool.eq_false_iff.2 fun hk => ?_, fun hk => ?_, fun hk => ?_⟩
    · obtain ⟨-, hne, -⟩ := length_of_nextToken? h (isWord_of_ignored hk)
      exact textLength_ne_zero_of_ignored hk hne hzero
    · obtain ⟨-, hne, -⟩ := length_of_nextToken? h (by rw [hk]; rfl)
      rw [hk] at hne
      exact hne hzero
    · obtain ⟨-, -, hallowed⟩ := length_of_nextToken? h (by rw [hk]; rfl)
      rw [hk] at hallowed
      cases hallowed
  · have hfirst : firstToken? (allows [.openDirective, .openInterp, .quote, .textChars]) m.rest =
        some (.textChars, textLength m.rest) := by
      -- Only the name of a call is tried before, and it is not accepted between quotes.
      refine firstToken?_eq [.callName] _ rfl ?_ rfl rfl hzero
      intro k hk hallowed
      obtain rfl := List.mem_singleton.1 hk
      cases hallowed
    rw [nextToken?_eq hfirst (by rintro ⟨⟩)] at h
    obtain rfl := Option.some.inj h
    exact .inl ⟨rfl, rfl⟩

end Tokens

/-! ## Strings -/

open Heredoc (joinLines)

/-- The characters are part of the text, or of the template of a heredoc in it. -/
inductive PartOf (text : List Char) : List Char → Prop
  | text : PartOf text text
  | within {cs part} (h : PartOf text cs) (hpart : part <:+: cs) : PartOf text part
  | heredoc {token} (h : PartOf text token) : PartOf text (Heredoc.content token)

/-- The characters between two quotes of the text, and what they say: their lines mean it, one after
the other. -/
structure SaysLines (text raw : List Char) (literal : String) : Prop where
  /-- The characters stand between quotes. -/
  quoted : PartOf text ('"' :: (raw ++ ['"']))
  /-- What each line means, and what they mean together. -/
  lines : ∃ decoded, Decodes (splitLines raw) decoded ∧
    decodeQuoted raw = .ok (joinLines decoded) ∧ literal.toList = decoded.flatten
  /-- Nothing is lost if and only if there is one line only. -/
  iff_newline : decodeQuoted raw = .ok literal.toList ↔ '\n' ∉ raw

/-- If the template has no interpolation and no directive, its literal text is what the lines
between its quotes mean. -/
def QuotedIn (text : List Char) (o : Origin) (parts : List Part) : Prop :=
  ∀ literal, Part.literal? parts = some literal →
    ∃ raw, o.source.toList = '"' :: (raw ++ ['"']) ∧ SaysLines text raw literal

/-! ## From line to line -/

/-- Since the quote at `start` nothing but literal characters have been read: the lines `before`
and, of the line that is being read, the characters `last`. -/
structure Follows (text : List Char) (start : Mark) (items : List (Draft TemplateItem)) (m : Mark)
    (before : List (List Char)) (last : List Char) : Prop where
  /-- The quote is part of the text. -/
  part_of : PartOf text start.rest
  /-- The lines stand behind the quote. -/
  rest : start.rest = '"' :: (joinLines (before ++ [last]) ++ m.rest)
  /-- Their characters have been counted. -/
  offset : m.offset = start.offset + (joinLines (before ++ [last])).length + 1
  /-- All of them but the newlines are literal. -/
  literals : ∀ line ∈ before ++ [last], Literals line
  /-- The last line is empty, or there are no more literal characters on it. -/
  ended : last = [] ∨ textLength m.rest = 0
  /-- Each line that is not empty has become an item. -/
  items : items.reverse = (Part.texts ((before ++ [last]).filter (!·.isEmpty))).map .ok

/-- An item that is no literal text has been read. -/
def Broken (items : List (Draft TemplateItem)) : Prop :=
  ∃ d ∈ items, ∀ s, d ≠ .ok (.text s)

section Quotes

variable {text : List Char} {start m m' : Mark} {items : List (Draft TemplateItem)}
  {before : List (List Char)} {last : List Char} {stop : Nat}

/-- A quote opens. -/
theorem follows_quote (hm : PartOf text m.rest) (hrest : m.rest = '"' :: m'.rest)
    (hoffset : m'.offset = m.offset + 1) : Follows text m [] m' [] [] where
  part_of := hm
  rest := hrest
  offset := hoffset
  literals := by simp [literals_nil]
  ended := .inl rfl
  items := rfl

/-- A newline between quotes is passed over, and begins a line. -/
theorem Follows.newline (h : Follows text start items m before last)
    (hrest : m.rest = '\n' :: m'.rest) (hoffset : m'.offset = m.offset + 1) :
    Follows text start items m' (before ++ [last]) [] where
  part_of := h.part_of
  -- The last line is complete now, and an empty one begins.
  rest := by
    rw [h.rest, hrest, joinLines_append_singleton, joinLines_append_singleton]
    simp [unlines]
  offset := by
    rw [hoffset, h.offset, joinLines_append_singleton, joinLines_append_singleton]
    simp [unlines]
    omega
  literals := by
    intro line hline
    rcases List.mem_append.1 hline with hline | hline
    · exact h.literals line hline
    · rw [List.mem_singleton.1 hline]
      exact literals_nil
  ended := .inl rfl
  items := by
    rw [h.items, List.filter_append (before ++ [last])]
    simp

/-- Literal characters are the rest of their line. -/
theorem Follows.literal (h : Follows text start items m before last)
    (hne : textLength m.rest ≠ 0) (hrest : m'.rest = m.rest.drop (textLength m.rest))
    (hoffset : m'.offset = m.offset + textLength m.rest) :
    Follows text start
      (.ok (.text (String.ofList (m.rest.take (textLength m.rest)))) :: items) m' before
      (m.rest.take (textLength m.rest)) := by
  -- The lexer takes all literal characters at once, so none of this line have been read before.
  have hlast : last = [] := h.ended.resolve_right hne
  have hliterals := literals_take m.rest
  have hlength : (m.rest.take (textLength m.rest)).length = textLength m.rest :=
    List.length_take_of_le (textLength_le m.rest)
  obtain ⟨hpart, hstart, hstop, hall, -, hitems⟩ := h
  rw [hlast, joinLines_append_singleton, List.append_nil] at hstart hstop
  rw [hlast] at hall hitems
  refine ⟨hpart, ?_, ?_, ?_, .inr ?_, ?_⟩
  · rw [hstart, hrest, joinLines_append_singleton, List.append_assoc, List.take_append_drop]
  · rw [hoffset, hstop, joinLines_append_singleton, List.length_append, hlength]
    omega
  · intro line hline
    rcases List.mem_append.1 hline with hline | hline
    · exact hall line (by simp [hline])
    · rw [List.mem_singleton.1 hline]
      exact hliterals
  · rw [hrest, textLength_drop]
  · have hpiece : m.rest.take (textLength m.rest) ≠ [] := by
      rw [← List.length_pos_iff, hlength]
      omega
    rw [List.reverse_cons, hitems]
    simp [Part.texts, hpiece]

/-- The literal characters are decoded piece by piece. -/
theorem ensures_decodeItems {pos : Pos} (pieces : List (List Char)) :
    Ensures (fun items => ∃ decoded, Decodes pieces decoded ∧ items = Part.texts decoded)
      ((Part.texts pieces).mapM (Operand.decodeItem pos)) := by
  induction pieces with
  | nil => exact .ok ⟨[], .nil, rfl⟩
  | cons piece pieces ih =>
    rw [Part.texts, List.map_cons, ← Part.texts, List.mapM_cons]
    have hpiece : Ensures (fun item => ∃ text, decodeQuoted piece = .ok text ∧
        item = .text (String.ofList text))
        (Operand.decodeItem pos (.text (String.ofList piece))) := by
      unfold Operand.decodeItem
      dsimp only
      rw [String.toList_ofList]
      split
      · next text htext => exact .ok ⟨text, htext, rfl⟩
      · exact .error
      · exact .error
    refine .bind hpiece fun item hitem => .bind ih fun items hitems => ?_
    obtain ⟨text, htext, rfl⟩ := hitem
    obtain ⟨decoded, hdecoded, rfl⟩ := hitems
    exact .ok ⟨text :: decoded, .cons htext hdecoded, rfl⟩

/-- Empty lines mean nothing. -/
theorem Decodes.of_filter {lines decoded : List (List Char)}
    (h : Decodes (lines.filter (!·.isEmpty)) decoded) :
    ∃ decoded', Decodes lines decoded' ∧ decoded'.flatten = decoded.flatten := by
  induction lines generalizing decoded with
  | nil => exact ⟨decoded, h, rfl⟩
  | cons line lines ih =>
    by_cases hempty : line = []
    · subst hempty
      rw [List.filter_cons_of_neg (by simp)] at h
      obtain ⟨decoded', hdecoded, hflatten⟩ := ih h
      exact ⟨[] :: decoded', .cons rfl hdecoded, by rw [List.flatten_cons, hflatten]; rfl⟩
    · rw [List.filter_cons_of_pos (by simpa using hempty)] at h
      cases h with
      | @cons _ text _ decoded htext hmore =>
        obtain ⟨decoded', hdecoded, hflatten⟩ := ih hmore
        exact ⟨text :: decoded', .cons htext hdecoded, by rw [List.flatten_cons, hflatten]; rfl⟩

theorem mapM_id_map_ok (as : List α) : (as.map .ok : List (Draft α)).mapM id = .ok as := by
  induction as with
  | nil => rfl
  | cons a as ih =>
    rw [List.map_cons, List.mapM_cons, ih]
    rfl

theorem decodeItem_of_not_text {pos : Pos} {i : TemplateItem} (h : ∀ s, i ≠ .text s) :
    Operand.decodeItem pos i = .ok i := by
  cases i with
  | text s => exact absurd rfl (h s)
  | _ => rfl

theorem ensures_decodeItem {P : Origin → List Part → Prop} {pos : Pos} {i : TemplateItem}
    (h : i.EachQuoted P) : Ensures (TemplateItem.EachQuoted P) (Operand.decodeItem pos i) := by
  unfold Operand.decodeItem
  split
  · split
    · exact .ok True.intro
    · exact .error
    · exact .error
  · exact .ok h

/-- What the items of a quoted text are put together to. -/
def quotedParts (pos : Pos) (items : List (Draft TemplateItem)) : Draft (List Part) := do
  Part.ofItems (← (← items.mapM id).mapM (Operand.decodeItem pos))

theorem expr_ofQuoted_eq : (Operand.ofQuoted start stop items).expr =
    (quotedParts start.pos items).map (.template (start.originTo stop)) := by
  unfold Operand.ofQuoted quotedParts
  cases items.mapM id with
  | error e => rfl
  | ok read =>
    simp only [bind, Except.bind]
    cases read.mapM (Operand.decodeItem start.pos) with
    | error e => rfl
    | ok decoded =>
      dsimp only
      cases Part.ofItems decoded <;> rfl

theorem quotedParts_map_ok (pos : Pos) (read : List TemplateItem) :
    quotedParts pos (read.map .ok) = read.mapM (Operand.decodeItem pos) >>= Part.ofItems := by
  rw [quotedParts, mapM_id_map_ok]
  rfl

/-- What has been read since the quote is what its lines say, once another quote ends it. -/
theorem Follows.quotedIn (h : Follows text start items m before last) {rest : List Char}
    (hrest : m.rest = '"' :: rest) :
    Ensures (QuotedIn text (start.originTo (m.offset + 1)))
      (quotedParts start.pos items.reverse) := by
  rw [h.items, quotedParts_map_ok]
  refine .bind (ensures_decodeItems _) fun decodedItems hdecoded => ?_
  obtain ⟨pieces, hpieces, rfl⟩ := hdecoded
  obtain ⟨decoded, hdecoded, hflatten⟩ := hpieces.of_filter
  -- No item was made of an empty line, which means nothing.
  rw [Part.ofItems_texts, ← hflatten]
  refine .ok fun literal hliteral => ⟨joinLines (before ++ [last]), ?_, ?_⟩
  · have hstop : m.offset + 1 - start.offset =
        ('"' :: (joinLines (before ++ [last]) ++ ['"'])).length := by
      rw [h.offset]
      simp
      omega
    have hwhole : start.rest = '"' :: (joinLines (before ++ [last]) ++ ['"']) ++ rest := by
      rw [h.rest, hrest]
      simp
    rw [Mark.originTo, String.toList_ofList, hstop, hwhole, List.take_left' rfl]
  · obtain rfl : String.ofList decoded.flatten = literal := by
      rw [Part.literal?_addText] at hliteral
      exact Option.some.inj hliteral
    have hsplit : splitLines (joinLines (before ++ [last])) = before ++ [last] :=
      splitLines_joinLines (fun line hline => (h.literals line hline).newline_not_mem) (by simp)
    refine ⟨h.part_of.within ⟨[], rest, ?_⟩, ⟨decoded, ?_, ?_, ?_⟩, ?_⟩
    · rw [h.rest, hrest]
      simp
    · rwa [hsplit]
    · exact decodeQuoted_joinLines hdecoded h.literals
    · rw [String.toList_ofList]
    · rw [String.toList_ofList]
      exact decodeQuoted_joinLines_iff hdecoded h.literals (by simp)

/-- A template with an interpolation or a directive is no literal text. -/
theorem Broken.quotedIn {o : Origin} {pos : Pos} (h : Broken items) :
    Ensures (QuotedIn text o) (quotedParts pos items.reverse) := by
  obtain ⟨d, hd, hnot⟩ := h
  refine .bind (.mem_mapM (List.mem_reverse.2 hd)) fun read hread => ?_
  obtain ⟨i, hi, rfl⟩ := hread
  have hitem : ∀ s, i ≠ .text s := fun s hs => hnot s (congrArg Except.ok hs)
  refine .bind (.mem_mapM hi) fun decoded hdecoded => ?_
  obtain ⟨j, hj, hij⟩ := hdecoded
  rw [decodeItem_of_not_text hitem] at hij
  obtain rfl := Except.ok.inj hij
  intro parts hparts literal hliteral
  rw [Part.literal?_eq_none (Part.ensures_hasSequence ⟨i, hj, hitem⟩ parts hparts)] at hliteral
  cases hliteral

theorem isQuoted_ofQuoted {rest : List Char}
    (hitems : ∀ d ∈ items, Ensures (TemplateItem.EachQuoted (QuotedIn text)) d)
    (h : Broken items ∨ ∃ before last, Follows text start items m before last)
    (hrest : m.rest = '"' :: rest) :
    (Operand.ofQuoted start (m.offset + 1) items.reverse).IsQuoted (QuotedIn text) := by
  have heach : Ensures (fun parts => ∀ p ∈ parts, p.EachQuoted (QuotedIn text))
      (quotedParts start.pos items.reverse) := by
    refine .bind (.mapM fun d hd => hitems d (List.mem_reverse.1 hd)) fun read hread => ?_
    exact .bind (.mapM fun i hi => ensures_decodeItem (hread i hi)) fun decoded hdecoded =>
      Part.ensures_ofItems hdecoded
  -- Broken items are refused, so the text is asked for only where all of them follow one another.
  have hquoted : Ensures (QuotedIn text (start.originTo (m.offset + 1)))
      (quotedParts start.pos items.reverse) := by
    rcases h with hbroken | ⟨before, last, hfollows⟩
    · exact hbroken.quotedIn
    · exact hfollows.quotedIn hrest
  rw [Operand.IsQuoted, expr_ofQuoted_eq]
  have hboth : Ensures (fun parts => QuotedIn text (start.originTo (m.offset + 1)) parts ∧
      ∀ p ∈ parts, p.EachQuoted (QuotedIn text)) (quotedParts start.pos items.reverse) :=
    fun parts hparts => ⟨hquoted parts hparts, heach parts hparts⟩
  exact .map hboth fun parts h => ⟨_, parts, rfl, h.1, h.2⟩

end Quotes

end ResourceTables.Native
