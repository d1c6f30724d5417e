import ResourceTables.Proofs.Positions.Readers

/-!
# The places in a file

Each attribute, each block and each expression of a file, at any depth and in the templates of
heredocs too, stands on the line that its place counts. If a template is refused because of a
directive, the error has the line of that directive's keyword.

* `Visits.delivers_feedAll`: one token more, where reading the file stands;
* `delivers_ends_readFrom`: reading on from there;
* `delivers_parseItems_stands`: reading a whole file;
* `parse_stands`: what is read of it, and which directive is at fault if it is refused because of
  one.
-/

namespace ResourceTables.Native

variable {file text : String}

/-! ## Templates -/

/-- Decoding the characters between quotes leaves the directives where they are. -/
theorem ensures_placed_decodeItem (pos : Pos) (read : List TemplateItem) :
    Ensures (fun decoded => TemplateItem.placed decoded = TemplateItem.placed read)
      (read.mapM (Operand.decodeItem pos)) := by
  induction read with
  | nil => exact .ok rfl
  | cons i read ih =>
    have hitem : Ensures (fun j => TemplateItem.placed? j = TemplateItem.placed? i)
        (Operand.decodeItem pos i) := by
      unfold Operand.decodeItem
      split
      · split
        · exact .ok rfl
        · exact .error
        · exact .error
      · exact .ok rfl
    rw [List.mapM_cons]
    refine .bind hitem fun j hj => .bind ih fun decoded hdecoded => .ok ?_
    rw [TemplateItem.placed, List.filterMap_cons, hj, ← TemplateItem.placed, hdecoded]
    exact (List.filterMap_cons ..).symm

theorem stands_decodeItem {pos : Pos} {i : TemplateItem} (h : i.Stands file text) :
    Delivers (TemplateItem.Stands file text) (ReadError.Traced file text)
      (Operand.decodeItem pos i) := by
  unfold Operand.decodeItem
  split
  · split
    · exact .ok True.intro
    · exact .error (ReadError.traced_of_not rfl)
    · exact .error ReadError.traced_beyondLimits
  · exact .ok h

theorem placed_decodeTemplateItem (read : List TemplateItem) :
    TemplateItem.placed (read.map Reader.decodeTemplateItem) = TemplateItem.placed read := by
  rw [TemplateItem.placed, List.filterMap_map, TemplateItem.placed]
  congr 1
  funext i
  cases i <;> rfl

/-- The keywords of the directives among the items are met at their places. -/
theorem keywordAt_of_mem_placed {items : List TemplateItem} (h : ∀ i ∈ items, i.Stands file text)
    {pos : Pos} {d : Directive} (hd : (pos, d) ∈ TemplateItem.placed items) :
    KeywordAt file text pos d.word := by
  obtain ⟨i, hi, hplaced⟩ := List.mem_filterMap.1 hd
  cases i with
  | text s => cases hplaced
  | interp trim e => cases hplaced
  | directive trim pos d =>
    cases hplaced
    exact (h _ hi).keyword

/-- The items of a template that is met in the file make parts in their places, or the fault can be
traced to one of the directives. -/
theorem delivers_ofItems_placed {items : List TemplateItem} (h : ∀ i ∈ items, i.Stands file text)
    (ht : TemplateAt file text (TemplateItem.placed items)) :
    PartsDraft file text (Part.ofItems items) := by
  refine .intro (Part.ensures_each_ofItems h) fun e he => ?_
  obtain ⟨before, pos, d, after, cause, hplaced, hfault, rfl⟩ :=
    Part.failsWith_blames_ofItems items e he
  rintro _ ⟨⟩ -
  have hkeyword := keywordAt_of_mem_placed h (hplaced ▸ by simp : (pos, d) ∈ _)
  exact ⟨before, pos, d, after, hplaced ▸ ht, hfault, hkeyword, rfl, rfl⟩

/-- A quoted text that ends in the file stands in its place. -/
theorem stands_ofQuoted {start : Mark} {stop : Nat} {items : List (Draft TemplateItem)}
    (hstart : start.Located text.toList) (h : TemplateStands file text items)
    (ht : ∀ read, items.mapM id = .ok read → TemplateAt file text (TemplateItem.placed read)) :
    (Operand.ofQuoted start stop items).Stands file text := by
  refine ⟨hstart, .bind (Delivers.mapM h).result fun read hread => ?_⟩
  obtain ⟨⟨-, hstands⟩, hread⟩ := hread
  refine .bind (Delivers.mapM fun i hi => stands_decodeItem (hstands i hi)).result
    fun decoded hdecoded => ?_
  obtain ⟨⟨-, hdecoded⟩, hdecode⟩ := hdecoded
  -- Decoding escapes leaves the directives where they were.
  have hplaced := ensures_placed_decodeItem start.pos read decoded hdecode
  refine .bind (delivers_ofItems_placed hdecoded (hplaced ▸ ht read hread)) fun parts hparts => ?_
  exact .ok (.template (hstart.stands rfl True.intro) hparts)

section Reading

variable {form : Form} {s : Newlines} {r : Reader} {m : Mark} {t : Token}
  {heredoc : Draft (List Part)}

/-- What is read of a template that has been read to its end. -/
theorem Visits.delivers_parts? (hv : Visits file text .template ⟨s, r, m⟩) (hm : m.rest = [])
    (hr : r.Placed file text) : PartsDraft file text ((r.parts?).getD (.ok [])) := by
  unfold Reader.parts?
  split
  · next items =>
    have hitems : TemplateStands file text items.reverse := fun d hd =>
      (framesStand_cons.1 hr.frames).1 d (List.mem_reverse.1 hd)
    refine .bind (Delivers.mapM hitems).result fun read hread => ?_
    obtain ⟨⟨-, hstands⟩, hread⟩ := hread
    refine delivers_ofItems_placed (fun i hi => ?_) ?_
    · obtain ⟨j, hj, rfl⟩ := List.mem_map.1 hi
      have hitem := hstands j hj
      cases j with
      | text s => exact True.intro
      | _ => exact hitem
    · rw [placed_decodeTemplateItem]
      exact .heredoc hv hm hread
  · exact .ok (by simp)

/-! ## Tokens -/

/-- A token that cannot stand where it does is no fault of a directive. -/
theorem traced_unexpected (t : Token) : t.unexpected.Traced file text := by
  unfold Token.unexpected
  exact ReadError.traced_of_not (by dsimp only; split <;> rfl)

/-- A newline brings in nothing but its place. -/
theorem Reader.Carries.newline (hstart : t.start.Located text.toList) (hk : t.kind = .newline)
    (hheredoc : PartsDraft file text heredoc) : Reader.Carries file text r t heredoc where
  start := hstart
  name := by simp [hk]
  onLine := by simp [hk]
  keyword := by simp [hk]
  heredoc := hheredoc
  quote := by simp [hk]

theorem Reader.delivers_feedAll_newlines {ts : List Token} (hr : r.Placed file text)
    (hts : ∀ u ∈ ts, u.kind = .newline) (hstart : ∀ u ∈ ts, u.start.Located text.toList)
    (hheredoc : PartsDraft file text heredoc) :
    Delivers (Reader.Placed file text) (ReadError.Traced file text) (r.feedAll heredoc ts) := by
  induction ts generalizing r with
  | nil => exact .ok hr
  | cons u ts ih =>
    obtain ⟨hu, hts⟩ := List.forall_mem_cons.1 hts
    obtain ⟨hstart, hstarts⟩ := List.forall_mem_cons.1 hstart
    rw [Reader.feedAll]
    cases hfeed : r.feed heredoc u with
    | none => exact .error (traced_unexpected u)
    | some r' => exact ih (places_feed hr (.newline hstart hu hheredoc) r' hfeed) hts hstarts

/-- Only a newline and a closing bracket are let through with other tokens, or not at all. -/
theorem Newlines.step_eq_singleton (s : Newlines) (hk : t.kind ≠ .newline)
    (hcloses : Newlines.closes t.kind = false) : (s.step t).1 = [t] := by
  have hemits := s.emits_step t
  generalize (s.step t).1 = through, (s.step t).2 = s' at hemits ⊢
  cases hemits with
  | drop hk' | keep hk' => exact absurd hk' hk
  | opening | closing | other => rfl
  | emptying hcloses' | ending hcloses' =>
    rw [hcloses] at hcloses'
    cases hcloses'

/-- The token that was let through last begins at a place of the file. -/
theorem Visits.last {a : Reading} (hv : Visits file text form a) :
    a.newlines.LastHas fun l => l.start.Located text.toList := by
  induction hv with
  | start => exact fun l hl => nomatch hl
  | drop _ _ _ ih => exact ih
  | take hv ht _ _ _ ih =>
    refine (Newlines.step_has (fun _ hu => hu) ih ?_).2
    rw [start_of_nextToken? ht]
    exact hv.located
  | enter => exact fun l hl => nomatch hl

/-- What the token carries that is read where reading the file stands. -/
theorem Visits.carries (hv : Visits file text form ⟨s, r, m⟩) (ht : nextToken? r.accepts m = some t)
    {r₁ : Reader} (hr₁ : r₁.Placed file text)
    (hsame : t.kind ≠ .newline → Newlines.closes t.kind = false → r₁ = r)
    (hheredoc : PartsDraft file text heredoc) : Reader.Carries file text r₁ t heredoc := by
  have hstart := start_of_nextToken? ht
  refine ⟨?_, exists_identifier ht, fun hk => ?_, fun w before outer hk hr => ?_, hheredoc,
    fun hk start items outer hr => ?_⟩
  · rw [hstart]
    exact hv.located
  · rw [hstart]
    exact hv.located.onLine_text ht (newline_not_mem_text ht hk)
  · obtain rfl := (hsame (by simp [hk]) (by rw [hk]; rfl)).symm.trans hr
    -- Nothing is let through in front of a keyword, so the reader is still where reading stands.
    rw [hstart]
    exact ⟨_, _, _, _, _, _, hv, ht, hk, rfl⟩
  · obtain ⟨hstands, hitems⟩ : Frame.Stands file text (.quoted start items) := by
      subst hr
      exact (framesStand_cons.1 hr₁.frames).1
    obtain rfl := (hsame (by simp [hk]) (by rw [hk]; rfl)).symm.trans hr
    refine stands_ofQuoted hstands (fun d hd => hitems d (List.mem_reverse.1 hd)) ?_
    exact fun read hread => .quoted hv ht hk hread

/-- What the reader holds stands in its place behind a token and the newlines that the layout adds
around it. -/
theorem Visits.delivers_feedAll (hv : Visits file text form ⟨s, r, m⟩)
    (ht : nextToken? r.accepts m = some t) (hr : r.Placed file text)
    (hheredoc : PartsDraft file text heredoc) :
    Delivers (Reader.Placed file text) (ReadError.Traced file text)
      (r.feedAll heredoc (s.step t).1) := by
  have hlocated : t.start.Located text.toList := by
    rw [start_of_nextToken? ht]
    exact hv.located
  have hstarts := (Newlines.step_has (fun _ hu => hu) hv.last hlocated).1
  have hsingle := Newlines.step_eq_singleton s (t := t)
  rcases Newlines.step_eq s t with ⟨-, hnone⟩ | ⟨before, after, hstep, hbefore, hafter⟩
  · rw [hnone]
    exact .ok hr
  · rw [hstep] at hstarts hsingle ⊢
    rw [Reader.feedAll_append]
    refine .bind (Delivers.result (Reader.delivers_feedAll_newlines hr hbefore
      (fun u hu => hstarts u (by simp [hu])) hheredoc)) fun r₁ hr₁ => ?_
    obtain ⟨hr₁, hread⟩ := hr₁
    -- Where newlines are added in front, the token is a closing bracket.
    have hsame : t.kind ≠ .newline → Newlines.closes t.kind = false → r₁ = r := by
      intro hk hcloses
      have hone := hsingle hk hcloses
      have hnil : before = [] := by
        have hlength := congrArg List.length hone
        rw [List.length_append, List.length_cons, List.length_singleton] at hlength
        exact List.length_eq_zero_iff.1 (by omega)
      rw [hnil] at hread
      cases hread
      rfl
    rw [Reader.feedAll]
    cases hfeed : r₁.feed heredoc t with
    | none => exact .error (traced_unexpected t)
    | some r₂ =>
      have hr₂ := Reader.places_feed hr₁ (hv.carries ht hr₁ hsame hheredoc) r₂ hfeed
      exact Reader.delivers_feedAll_newlines hr₂ hafter (fun u hu => hstarts u (by simp [hu]))
        hheredoc

/-! ## Files -/

theorem traced_endOfFile (first : Pos) (s : Newlines) : (endOfFile first s).Traced file text :=
  ReadError.traced_of_not rfl

theorem isDirective_strayCause (inTemplate : Bool) (m : Mark) :
    (strayCause inTemplate m).isDirective = false := by
  unfold strayCause
  split <;> rfl

/-- What is read in the end stands in its place, and a template is read to its end. -/
structure Ends (file text : String) (form : Form) (r : Reader) : Prop where
  /-- What the reader holds stands in its place. -/
  placed : r.Placed file text
  /-- Reading the file comes to the end of a template. -/
  template : form = .template →
    ∃ s m, Visits file text .template ⟨s, r, m⟩ ∧ m.rest = []

theorem Visits.delivers_finish (hv : Visits file text form ⟨s, r, m⟩) (hr : r.Placed file text)
    (hm : m.rest = []) (first : Pos) :
    Delivers (Ends file text form) (ReadError.Traced file text) (finish form first s r) := by
  -- With a newline called for or without one, the reader is asked whether it is complete.
  have hend : ∀ r' s', r'.Placed file text → (form = .template → r' = r) →
      Delivers (Ends file text form) (ReadError.Traced file text)
        (if r'.isComplete form then .ok r' else .error (endOfFile first s')) := by
    intro r' s' hr' hsame
    split
    · refine .ok ⟨hr', fun hform => ?_⟩
      obtain rfl := hsame hform
      subst hform
      exact ⟨s, m, hv, hm⟩
    · exact .error (traced_endOfFile first s')
  unfold finish
  cases form with
  | template => exact hend r _ hr fun _ => rfl
  | file =>
    refine .bind (Reader.delivers_feedAll_newlines hr (fun u hu => Newlines.kind_of_mem_finish hu)
      (Newlines.finish_has (fun _ hu => hu) hv.last) (.ok (by simp))) fun r' hr' => ?_
    exact hend r' _ hr' nofun

theorem placed_template : Reader.template.Placed file text :=
  ⟨by simp [Reader.template, Frame.Stands, TemplateStands], by rintro _ ⟨⟩⟩

theorem placed_file : Reader.file.Placed file text :=
  ⟨by simp [Reader.file, Frame.Stands, DraftsStand], by rintro _ ⟨⟩⟩

/-- The template of a heredoc is read where the heredoc is met. -/
theorem delivers_heredocParts {fuel : Nat} {accepted : List Kind}
    (ht : nextToken? accepted m = some t)
    (hread : t.kind = .heredoc → Delivers (Ends file text .template) (ReadError.Traced file text)
      (readFrom fuel .template ⟨m.pos.file, m.pos.line + 1, 1⟩ {} Reader.template
        (.start m.pos.file (m.pos.line + 1) (Heredoc.content t.text.toList)))) :
    PartsDraft file text
      (heredocParts (fun m => readFrom fuel .template m.pos {} Reader.template m) t) := by
  unfold heredocParts
  split
  · next hk =>
    rw [start_of_nextToken? ht]
    refine .bind (hread hk) fun r' hr' => ?_
    -- The template is read to its end, which is where its directives are put together.
    obtain ⟨s', m', hv', hm'⟩ := hr'.template rfl
    exact hv'.delivers_parts? hm' hr'.placed
  · exact .ok (by simp)

/-- Reading on keeps everything in its place. The induction is on the fuel, which reading on uses as
well as the templates of heredocs. -/
theorem delivers_ends_readFrom {fuel : Nat} {first : Pos} (hv : Visits file text form ⟨s, r, m⟩)
    (hr : r.Placed file text) (hfuel : m.rest.length < fuel) :
    Delivers (Ends file text form) (ReadError.Traced file text)
      (readFrom fuel form first s r m) := by
  induction fuel generalizing form first s r m with
  | zero => cases hfuel
  | succ fuel ih =>
    rw [readFrom]
    split
    · next hempty => exact hv.delivers_finish hr (List.isEmpty_iff.1 hempty) first
    · split
      · exact .error (ReadError.traced_of_not (isDirective_strayCause _ m))
      · next t ht =>
        have hnext := (Copies.length_rest_advance_lt ht).trans_le (Nat.le_of_lt_succ hfuel)
        dsimp only
        split
        · next hk => exact ih (hv.drop ht hk) hr hnext
        · next hk =>
          rw [Bool.not_eq_true] at hk
          have htoken : t.stop - m.offset ≤ fuel :=
            (stop_sub_le ht).trans (Nat.le_of_lt_succ hfuel)
          -- The characters of the heredoc bound those of its template.
          have hheredoc := delivers_heredocParts ht fun hk =>
            ih (hv.enter ht hk) placed_template
              ((length_content_lt_of_nextToken? ht).trans_le htoken)
          have hfeed := hv.delivers_feedAll ht hr hheredoc
          split
          · next r' hr' =>
            rw [hr'] at hfeed
            exact ih (hv.take ht hk htoken hr') hfeed hnext
          · next e he =>
            rw [he] at hfeed
            exact hfeed

end Reading

/-- The items of a file stand in their places, or what is wrong with the file can be traced. -/
theorem delivers_parseItems_stands (file text : String) :
    Delivers (fun items => ∀ item ∈ items, item.Stands text.toList) (ReadError.Traced file text)
      (parseItems file text) := by
  refine .bind (delivers_ends_readFrom .start placed_file (Nat.lt_succ_self _)) fun r hr => ?_
  unfold Reader.items?
  split
  · next items =>
    refine Delivers.mono (Delivers.mapM fun d hd => ?_) fun _ h => h.2
    exact (framesStand_cons.1 hr.placed.frames).1 d (List.mem_reverse.1 hd)
  · exact .ok (by simp)

/-- So the items of a body that is read stand in their places. -/
theorem ensures_parse_stands (file text : String) :
    Ensures (fun body => ∃ items, body = .native items ∧
      ∀ item ∈ items, item.Stands text.toList) (parse file text) :=
  .map (delivers_parseItems_stands file text).ensures fun items h => ⟨items, rfl, h⟩

/-- In a file that is read each attribute, each block and each expression, at any depth and in the
templates of heredocs too, stands on the line that its place counts. If a file is refused because of
a directive, then of a template in the file one directive is at fault, and the error has the line of
its keyword. -/
theorem parse_stands (file text : String) :
    (∀ items, parse file text = .ok (.native items) → ∀ item ∈ items, item.Stands text.toList) ∧
      ∀ e, parse file text = .error (.malformed e) → e.cause.isDirective = true →
        ∃ before pos d after, TemplateAt file text (before ++ (pos, d) :: after) ∧
          AtFault (before.map Prod.snd) d (after.map Prod.snd) e.cause ∧
          KeywordAt file text pos d.word ∧ OnLine text.toList pos.line d.word.text.toList ∧
          e.file = file ∧ e.line = some pos.line := by
  constructor
  · intro items hitems
    obtain ⟨found, hfound, hstands⟩ := ensures_parse_stands file text _ hitems
    cases hfound
    exact hstands
  · intro e he hcause
    -- Only the items can be refused.
    have herror : parseItems file text = .error (.malformed e) := by
      rw [parse] at he
      cases hfound : parseItems file text with
      | ok found =>
        rw [hfound] at he
        cases he
      | error e' =>
        rw [hfound] at he
        cases he
        rfl
    obtain ⟨before, pos, d, after, htemplate, hfault, hkeyword, hfile, hline⟩ :=
      (delivers_parseItems_stands file text).failsWith _ herror e rfl hcause
    exact ⟨before, pos, d, after, htemplate, hfault, hkeyword, hkeyword.onLine,
      hfile.trans hkeyword.file_eq, hline⟩

/-- What is read of a heredoc inside of another one. -/
def nestedHeredocs : List Item :=
  [.attribute ⟨"x", .template ⟨⟨"t.tf", 1, 5⟩, "<<A\n$\x7b<<-B\n  a\n  $\x7by\x7d\n  B\n\x7d\nA"⟩
    [.interp (.template ⟨⟨"t.tf", 2, 3⟩, "<<-B\n  a\n  $\x7by\x7d\n  B"⟩
      [.text "a\n", .interp (.variable ⟨⟨"t.tf", 4, 3⟩, "y"⟩ "y"), .text "\n"]), .text "\n"],
    ⟨"t.tf", 1, 1⟩⟩]

/-- The same with an `if` that is not closed, on the fourth line of the file. -/
theorem parse_stands_nestedHeredocs :
    (parse "t.tf" "x = <<A\n$\x7b<<-B\n  a\n  $\x7by\x7d\n  B\n\x7d\nA\n" =
        .ok (.native nestedHeredocs) ∧
      ∀ item ∈ nestedHeredocs, item.Stands
        "x = <<A\n$\x7b<<-B\n  a\n  $\x7by\x7d\n  B\n\x7d\nA\n".toList) ∧
      parse "t.tf" "x = <<A\n$\x7b<<-B\n  a\n  %\x7bif y\x7d\n  B\n\x7d\nA\n" =
        .error (.malformed ⟨"t.tf", some 4, .unterminatedCond⟩) ∧
      ∃ pos d, KeywordAt "t.tf" "x = <<A\n$\x7b<<-B\n  a\n  %\x7bif y\x7d\n  B\n\x7d\nA\n" pos
        (Directive.word d) ∧ some 4 = some pos.line := by
  have hread : parse "t.tf" "x = <<A\n$\x7b<<-B\n  a\n  $\x7by\x7d\n  B\n\x7d\nA\n" =
      .ok (.native nestedHeredocs) := by rfl
  have hrefused : parse "t.tf" "x = <<A\n$\x7b<<-B\n  a\n  %\x7bif y\x7d\n  B\n\x7d\nA\n" =
      .error (.malformed ⟨"t.tf", some 4, .unterminatedCond⟩) := by rfl
  obtain ⟨before, pos, d, after, -, -, hkeyword, -, -, hline⟩ :=
    (parse_stands _ _).2 _ hrefused rfl
  exact ⟨⟨hread, (parse_stands _ _).1 _ hread⟩, hrefused, pos, d, hkeyword, hline⟩

end ResourceTables.Native
