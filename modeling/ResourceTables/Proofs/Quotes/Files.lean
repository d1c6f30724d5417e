import ResourceTables.Proofs.Quotes.Strings

/-!
# The quoted texts of a file

In a file that is read, a quoted text without interpolations and directives is what its lines mean,
one after the other. So it is what the characters between its quotes mean if and only if no newline
is among them: within brackets newlines are dropped, and the lexer does so between quotes too.

* `Reader.Stands`: what a reader knows at a place in the file;
* `eachQuoted_of_parse`: each quoted text of a file that is read, at any depth.
-/

namespace ResourceTables.Native

/-! ## Reading on -/

/-- Each quoted text that the reader holds is what its lines say. If the reader stands between
quotes, nothing but literal characters have been read since they opened, or the template has an item
that is none. -/
structure Reader.Stands (text : List Char) (r : Reader) (m : Mark) : Prop where
  /-- The quoted texts that the reader holds. -/
  each : r.EachQuoted (QuotedIn text)
  /-- The place is in the text. -/
  part_of : PartOf text m.rest
  /-- The quotes that it stands between. -/
  between : ∀ start items outer, r = ⟨none, .quoted start items :: outer⟩ →
    Broken items ∨ ∃ before last, Follows text start items m before last

section Reading

variable {text : List Char} {r : Reader} {m : Mark} {s : Newlines} {t : Token}

theorem PartOf.advance (h : PartOf text m.rest) (n : Nat) : PartOf text (m.advance n).rest := by
  rw [Mark.advance_rest]
  exact h.within (List.drop_suffix n m.rest).isInfix

namespace Reader

/-- A token that is dropped does not stand between quotes. -/
theorem Stands.skip (h : r.Stands text m) (ht : nextToken? r.accepts m = some t)
    (hk : t.kind.ignored = true) (n : Nat) : r.Stands text (m.advance n) where
  each := h.each
  part_of := h.part_of.advance n
  between := by
    rintro start items outer rfl
    rcases nextToken?_quoted ht with ⟨hkind, -⟩ | ⟨-, hnot, -⟩
    · rw [hkind] at hk
      cases hk
    · rw [hnot] at hk
      cases hk

/-- A newline that ends no item is passed over. -/
theorem Stands.newline (h : r.Stands text m) (ht : nextToken? r.accepts m = some t)
    (hk : t.kind = .newline) : r.Stands text (m.advance (t.stop - m.offset)) where
  each := h.each
  part_of := h.part_of.advance _
  between := by
    rintro start items outer hr
    obtain ⟨-, hoffset, hrest⟩ := exists_advance ht (.inl ⟨hk, rfl⟩)
    refine (h.between start items outer hr).imp_right ?_
    rintro ⟨before, last, hfollows⟩
    exact ⟨_, _, hfollows.newline hrest hoffset⟩

/-- Behind quotes that open, and behind literal characters, the reader stands between quotes. -/
theorem Stands.enters (h : r.Stands text m) {r₁ : Reader} {start : Mark}
    {items : List (Draft TemplateItem)} (ht : nextToken? r.accepts m = some t)
    (hsame : r₁.Between → r₁ = r) (henters : Enters r₁ t start items) :
    Broken items ∨
      ∃ before last, Follows text start items (m.advance (t.stop - m.offset)) before last := by
  cases henters with
  | quote hk hstart =>
    obtain ⟨-, hoffset, hrest⟩ := exists_advance ht (.inr ⟨hk, rfl⟩)
    rw [hstart, start_of_nextToken? ht]
    exact .inr ⟨_, _, follows_quote h.part_of hrest hoffset⟩
  | @text items outer hk hr₁ =>
    obtain rfl := hsame ⟨_, _, _, hr₁⟩
    rcases h.between _ _ _ hr₁ with ⟨d, hd, hnot⟩ | ⟨before, last, hfollows⟩
    · exact .inl ⟨d, by simp [hd], hnot⟩
    -- The characters are what the lexer takes between quotes, all that are literal.
    · subst hr₁
      rcases nextToken?_quoted ht with ⟨hk, htoken⟩ | ⟨-, -, hnot, hnot'⟩
      · obtain ⟨-, hne, -⟩ := length_of_nextToken? ht (by rw [hk]; rfl)
        rw [hk] at hne
        have hstop : t.stop - m.offset = textLength m.rest := by
          rw [htoken, Mark.stop_token]
        have htext : t.text = String.ofList (m.rest.take (textLength m.rest)) := by
          rw [htoken]
          rfl
        rw [hstop, htext]
        exact .inr ⟨_, _, hfollows.literal hne (Mark.advance_rest _ _)
          (Mark.advance_offset (textLength_le _))⟩
      · rcases hk with hk | hk
        · exact absurd hk hnot
        · exact absurd hk hnot'
  | @sequence item items hk hitem => exact .inl ⟨item, by simp, hitem⟩

/-- A heredoc is no quoted text, and holds those of its template. -/
theorem eachQuoted_ofHeredoc {P : Origin → List Part → Prop} {parts : Draft (List Part)}
    (ht : nextToken? r.accepts m = some t) (hk : t.kind = .heredoc)
    (hparts : Ensures (fun parts => ∀ p ∈ parts, p.EachQuoted P) parts) :
    (Operand.ofHeredoc t parts).EachQuoted P := by
  obtain ⟨htoken, hne, -⟩ := length_of_nextToken? ht (by rw [hk]; rfl)
  rw [hk] at htoken hne
  refine .map hparts fun parts hparts => .template (fun hquoted => ?_) hparts
  -- What is quoted begins with a quote, and a heredoc does not.
  have hhead : (m.rest.take (Kind.heredoc.lengthAt m.rest)).head? = some '"' := by
    rw [htoken] at hquoted
    simpa [Origin.isQuoted, Mark.originTo, Mark.token] using hquoted
  cases hrest : m.rest with
  | nil =>
    rw [hrest, List.take_nil] at hhead
    cases hhead
  | cons c rest =>
    obtain ⟨n, hn⟩ := Nat.exists_eq_succ_of_ne_zero hne
    rw [hn, hrest] at hhead
    obtain rfl := Option.some.inj hhead
    have hnone : heredocLength ('"' :: rest) = 0 := heredocLength_of_ne (by decide)
    rw [hrest] at hne
    exact absurd hnone hne

/-- What a token brings in that is read here. -/
theorem Stands.brings (h : r.Stands text m) {r₁ : Reader} {heredoc : Draft (List Part)}
    (ht : nextToken? r.accepts m = some t) (hr₁ : r₁.EachQuoted (QuotedIn text))
    (hsame : r₁.Between → r₁ = r)
    (hheredoc : Ensures (fun parts => ∀ p ∈ parts, p.EachQuoted (QuotedIn text)) heredoc) :
    Brings (QuotedIn text) r₁ t heredoc where
  name := exists_identifier ht
  heredoc := fun hk => eachQuoted_ofHeredoc ht hk hheredoc
  quote := by
    rintro hk start items outer rfl
    obtain ⟨hstop, -, hrest⟩ := exists_advance ht (.inr ⟨hk, rfl⟩)
    rw [hstop]
    exact isQuoted_ofQuoted hr₁.frames.1 (h.between _ _ _ (hsame ⟨_, _, _, rfl⟩).symm) hrest

/-- A token is part of the text. -/
theorem Stands.part_of_text (h : r.Stands text m) (ht : nextToken? r.accepts m = some t) :
    PartOf text t.text.toList := by
  obtain ⟨k, n, -, htoken, -⟩ := exists_firstToken? ht
  rw [htoken, Mark.token, String.toList_ofList]
  exact h.part_of.within (List.take_prefix n m.rest).isInfix

/-- The reader stands in the text behind a token and the newlines that the layout adds around it. -/
theorem Stands.ensures_feedAll (h : r.Stands text m) {heredoc : Draft (List Part)}
    (ht : nextToken? r.accepts m = some t)
    (hheredoc : Ensures (fun parts => ∀ p ∈ parts, p.EachQuoted (QuotedIn text)) heredoc) :
    Ensures (Stands text · (m.advance (t.stop - m.offset)))
      (r.feedAll heredoc (s.step t).1) := by
  rcases Newlines.step_eq s t with ⟨hk, hnone⟩ | ⟨before, after, hstep, hbefore, hafter⟩
  · rw [hnone]
    exact .ok (h.newline ht hk)
  · rw [hstep, feedAll_append]
    -- The newlines before the token end an item, or leave the reader as it is between quotes.
    refine .bind (ensures_feedAll_newlines heredoc h.each hbefore) fun r₁ hr₁ => ?_
    obtain ⟨hr₁, hsame⟩ := hr₁
    rw [feedAll]
    cases hfeed : r₁.feed heredoc t with
    | none => exact .error
    | some r₂ =>
      have hr₂ := keeps_feed hr₁ (h.brings ht hr₁ hsame hheredoc) r₂ hfeed
      refine (ensures_feedAll_newlines heredoc hr₂ hafter).mono fun r' hr' => ?_
      obtain ⟨hr', hsame'⟩ := hr'
      refine ⟨hr', h.part_of.advance _, fun start items outer hbetween => ?_⟩
      obtain rfl := hsame' ⟨_, _, _, hbetween⟩
      rw [hbetween] at hfeed
      exact h.enters ht hsame (enters_of_feed hfeed)

theorem stands_file (hm : PartOf text m.rest) : Reader.file.Stands text m where
  each := ⟨by simp [Reader.file, Frame.EachQuoted, DraftsQuoted, inHeader], by rintro _ ⟨⟩,
    by rintro _ ⟨⟩⟩
  part_of := hm
  between := by rintro _ _ _ ⟨⟩

theorem stands_template (hm : PartOf text m.rest) : Reader.template.Stands text m where
  each := ⟨by simp [Reader.template, Frame.EachQuoted, inHeader], by rintro _ ⟨⟩, by rintro _ ⟨⟩⟩
  part_of := hm
  between := by rintro _ _ _ ⟨⟩

/-- Decoding the literal characters of a template leaves its quoted texts as they are. -/
theorem ensures_parts? {P : Origin → List Part → Prop} (hr : r.EachQuoted P) :
    Ensures (fun parts => ∀ p ∈ parts, p.EachQuoted P) ((r.parts?).getD (.ok [])) := by
  unfold parts?
  split
  · next items =>
    refine .bind (.mapM fun d hd => hr.frames.1 d (List.mem_reverse.1 hd)) fun read hread => ?_
    refine Part.ensures_ofItems fun i hi => ?_
    obtain ⟨j, hj, rfl⟩ := List.mem_map.1 hi
    have hitem := hread j hj
    cases j with
    | text s => exact True.intro
    | _ => exact hitem
  · exact .ok (by simp)

theorem ensures_items? {P : Origin → List Part → Prop} (hr : r.EachQuoted P) :
    Ensures (fun items => ∀ item ∈ items, item.EachQuoted P) ((r.items?).getD (.ok [])) := by
  unfold items?
  split
  · exact .mapM fun d hd => hr.frames.1 d (List.mem_reverse.1 hd)
  · exact .ok (by simp)

end Reader

/-! ## Files -/

theorem ensures_eachQuoted_finish {form : Form} {first : Pos} (hr : r.EachQuoted (QuotedIn text)) :
    Ensures (Reader.EachQuoted (QuotedIn text)) (finish form first s r) := by
  unfold finish
  refine .bind ((r.ensures_feedAll_newlines _ hr ?_).mono fun _ h => h.1) fun r' hr' => ?_
  · cases form with
    | template => simp
    | file => exact fun u => Newlines.kind_of_mem_finish
  · dsimp only
    split
    · exact .ok hr'
    · exact .error

/-- What is read from the text holds its quoted texts. The induction is on the fuel, which reading
on uses as well as the templates of heredocs. -/
theorem ensures_eachQuoted_readFrom {fuel : Nat} {form : Form} {first : Pos}
    (h : r.Stands text m) :
    Ensures (Reader.EachQuoted (QuotedIn text)) (readFrom fuel form first s r m) := by
  induction fuel generalizing form first s r m with
  | zero => exact .error
  | succ fuel ih =>
    rw [readFrom]
    split
    · exact ensures_eachQuoted_finish h.each
    · split
      · exact .error
      · next t ht =>
        dsimp only
        split
        · next hk => exact ih (h.skip ht hk _)
        · -- The template of a heredoc is a part of the text too.
          have hheredoc : Ensures (fun parts => ∀ p ∈ parts, p.EachQuoted (QuotedIn text))
              (heredocParts (fun m => readFrom fuel .template m.pos {} Reader.template m) t) := by
            unfold heredocParts
            split
            · refine .bind (ih (Reader.stands_template ?_)) fun r' hr' => Reader.ensures_parts? hr'
              exact .heredoc (h.part_of_text ht)
            · exact .ok (by simp)
          split
          · next r' hr' => exact ih (h.ensures_feedAll ht hheredoc r' hr')
          · exact .error

/-- In a file that is read, each quoted text at any depth is what its lines say: what the characters
between its quotes mean, if no newline is among them, and something else otherwise. -/
theorem eachQuoted_of_parse {file text : String} {items : List Item}
    (h : parse file text = .ok (.native items)) :
    ∀ item ∈ items, item.EachQuoted (QuotedIn text.toList) := by
  have hitems : Ensures (fun items => ∀ item ∈ items, item.EachQuoted (QuotedIn text.toList))
      (parseItems file text) :=
    .bind (ensures_eachQuoted_readFrom (Reader.stands_file .text)) fun r hr =>
      Reader.ensures_items? hr
  rw [parse] at h
  cases hread : parseItems file text with
  | error e =>
    rw [hread] at h
    cases h
  | ok found =>
    rw [hread] at h
    cases h
    exact hitems _ hread

/-- What is read of an attribute with a newline between the quotes of its value. -/
def acrossLines : List Item :=
  [.attribute ⟨"x", .tuple ⟨⟨"t.tf", 1, 5⟩, "[\"a\nb\"]"⟩
    [.template ⟨⟨"t.tf", 1, 6⟩, "\"a\nb\""⟩ [.text "ab"]], ⟨"t.tf", 1, 1⟩⟩]

theorem eachQuoted_of_parse_acrossLines :
    parse "t.tf" "x = [\"a\nb\"]" = .ok (.native acrossLines) ∧
      ∀ item ∈ acrossLines, item.EachQuoted (QuotedIn "x = [\"a\nb\"]".toList) :=
  have hparse : parse "t.tf" "x = [\"a\nb\"]" = .ok (.native acrossLines) := by rfl
  ⟨hparse, eachQuoted_of_parse hparse⟩

/-- Not every quoted text without interpolations and directives is what the characters between its
quotes mean. -/
theorem not_forall_literal_eq :
    ¬ ∀ file text items, parse file text = .ok (.native items) →
      ∀ item ∈ items, item.EachQuoted fun o parts => ∀ literal, Part.literal? parts = some literal →
        ∃ raw, o.source.toList = '"' :: (raw ++ ['"']) ∧
          decodeQuoted raw = .ok literal.toList ∧ '\n' ∉ raw := by
  intro h
  have hparse : parse "t.tf" "x = [\"a\nb\"]" = .ok (.native acrossLines) := by rfl
  cases h _ _ _ hparse _ (List.mem_singleton.2 rfl) with
  | «attribute» htuple =>
    cases htuple with
    | tuple htemplates =>
      cases htemplates _ (List.mem_singleton.2 rfl) with
      | template hquoted =>
        obtain ⟨raw, hsource, -, hnewline⟩ := hquoted rfl "ab" rfl
        have hraw : ['a', '\n', 'b'] = raw :=
          List.append_cancel_right (List.cons.inj hsource).2
        exact hnewline (hraw ▸ by decide)

end Reading

end ResourceTables.Native
