import ResourceTables.Proofs.Sources.Brackets
import ResourceTables.Proofs.Sources.Values

/-!
# The source text of an attribute

What is kept as the source text of an attribute means what was written. In a file that is read, each
attribute at any depth of blocks is read again from its name, an equals sign and the source text of
its value on a line of their own, and has the same value.

* `Item.Each`: a property of each attribute of an item;
* `Rereads`: the attribute is read again;
* `Stage`: where reading can stand in a file, one rule for each kind of place;
* `Stage.of_newline`, `Stage.take`, `Stage.step`: what a token leads to;
* `each_rereads_of_parse`: each attribute of a file that is read.
-/

namespace ResourceTables

/-- Each attribute of the item, at any depth of blocks, has the property. -/
inductive Item.Each (P : Attribute → Prop) : Item → Prop
  | «attribute» {a} (h : P a) : Each P (.attribute a)
  | block {type labels pos items} (h : ∀ item ∈ items, Each P item) :
      Each P (.block type labels pos items)

namespace Native

/-- The attribute's name, an equals sign and the source text of its value are read in any file as an
attribute with the same name and the same value, apart from places. -/
def Rereads (a : Attribute) : Prop :=
  ∀ file, ∃ e, parse file (a.name ++ " = " ++ a.expr.source ++ "\n") =
    .ok (.native [.attribute ⟨a.name, e, ⟨file, 1, 1⟩⟩]) ∧ e.unplaced = a.expr.unplaced

/-! ## Bodies -/

/-- The constructs are the bodies of `n` blocks, one within the other, and that of the file. Each
attribute in them has the property. -/
inductive Bodies (P : Attribute → Prop) : Nat → List Frame → Prop
  | file {items} (h : ∀ d ∈ items, Ensures (Item.Each P) d) : Bodies P 0 [.file items]
  | block {n type labels items outer} (h : ∀ d ∈ items, Ensures (Item.Each P) d)
      (houter : Bodies P n outer) : Bodies P (n + 1) (.block type labels items :: outer)

open Reader

section Bodies

variable {P : Attribute → Prop} {n : Nat} {frames : List Frame} {t : Token} {r r' : Reader}
  {parts : Draft (List Part)} {type : Token} {labels : List Label} {items : List (Draft Item)}

theorem Bodies.addItem {d : Draft Item} (h : Bodies P n frames) (hd : Ensures (Item.Each P) d)
    (hadd : Reader.addItem d frames = some r') : ∃ outer, r' = ⟨none, outer⟩ ∧ Bodies P n outer := by
  cases h with
  | file hitems =>
    cases hadd
    exact ⟨_, rfl, .file (List.forall_mem_cons.2 ⟨hd, hitems⟩)⟩
  | block hitems houter =>
    cases hadd
    exact ⟨_, rfl, .block (List.forall_mem_cons.2 ⟨hd, hitems⟩) houter⟩

theorem each_blockItem (h : ∀ d ∈ items, Ensures (Item.Each P) d) :
    Ensures (Item.Each P) (blockItem type labels items) := by
  refine .bind .trivial fun found _ => ?_
  refine .bind (.mapM h) fun inner hinner => ?_
  exact .bind .trivial fun texts _ => .ok (.block hinner)

/-- In a body nothing is taken but a newline, a name and the brace that closes a block. -/
theorem Bodies.of_feed (h : Bodies P n frames)
    (hfeed : Reader.feed ⟨none, frames⟩ parts t = some r') :
    t.kind = .newline ∧ r' = ⟨none, frames⟩ ∨
      t.kind = .name ∧ r' = ⟨none, .header t [] :: frames⟩ ∨
        t.kind = .closeBrace ∧ ∃ k outer, n = k + 1 ∧ r' = ⟨none, outer⟩ ∧ Bodies P k outer := by
  have hopen : feedOpen frames t parts = some r' := hfeed
  cases h with
  | file hitems =>
    unfold feedOpen at hopen
    dsimp only at hopen
    split at hopen <;> simp_all [inside, Frame.awaitsOperand]
  | block hitems houter =>
    -- The brace that closes a block makes it an item of the body around it.
    by_cases hbrace : t.kind = .closeBrace
    · simp only [feedOpen, hbrace] at hopen
      obtain ⟨outer, rfl, hbodies⟩ := houter.addItem
        (each_blockItem fun d hd => hitems d (List.mem_reverse.1 hd)) hopen
      exact .inr (.inr ⟨hbrace, _, outer, rfl, rfl, hbodies⟩)
    · unfold feedOpen at hopen
      dsimp only at hopen
      split at hopen <;> simp_all [inside, Frame.awaitsOperand]

/-- A newline leaves a body as it is. -/
theorem Bodies.of_newline (h : Bodies P n frames) (ht : t.kind = .newline)
    (hfeed : Reader.feed ⟨none, frames⟩ parts t = some r') : r' = ⟨none, frames⟩ := by
  rcases h.of_feed hfeed with ⟨-, hr⟩ | ⟨hk, -⟩ | ⟨hk, -⟩
  · exact hr
  · rw [ht] at hk
    cases hk
  · rw [ht] at hk
    cases hk

/-- A brace and a newline behind it close the body of a block. -/
theorem Bodies.of_close (h : Bodies P n frames) (ht : t.kind.closing = 1)
    (hfeed : Reader.feedAll parts ⟨none, frames⟩ [t, t.newlineAt] = .ok r') :
    ∃ k outer, n = k + 1 ∧ r' = ⟨none, outer⟩ ∧ Bodies P k outer := by
  obtain ⟨r₁, hclose, hrest⟩ := of_feedAll_cons hfeed
  obtain ⟨r₂, hnewline, hnil⟩ := of_feedAll_cons hrest
  cases hnil
  rcases h.of_feed hclose with ⟨hk, -⟩ | ⟨hk, -⟩ | ⟨-, k, outer, hn, rfl, hbodies⟩
  · rw [hk] at ht
    cases ht
  · rw [hk] at ht
    cases ht
  · exact ⟨k, outer, hn, hbodies.of_newline rfl hnewline, hbodies⟩

theorem Bodies.ensures_items? (h : Bodies P n frames) :
    Ensures (fun items => ∀ item ∈ items, item.Each P)
      ((Reader.items? ⟨none, frames⟩).getD (.ok [])) := by
  cases h with
  | file hitems => exact .mapM fun d hd => hitems d (List.mem_reverse.1 hd)
  | block hitems houter => cases houter <;> exact .ok (by simp)

/-! ## Headers and values -/

/-- Behind a name that begins an item stands what makes it an attribute or a block. -/
theorem of_feed_header {outer : List Frame}
    (hfeed : feedOpen (.header type labels :: outer) t parts = some r') :
    t.kind = .equal ∧ r' = ⟨none, .attribute type :: outer⟩ ∨
      t.kind = .name ∧ r' = ⟨none, .header type (.plain t.text :: labels) :: outer⟩ ∨
        t.kind = .quote ∧ r' = ⟨none, .quoted t.start [] :: .header type labels :: outer⟩ ∨
          t.kind = .openBrace ∧ r' = ⟨none, .block type labels [] :: outer⟩ := by
  unfold feedOpen at hfeed
  dsimp only at hfeed
  split at hfeed <;> simp_all [inside, Frame.awaitsOperand]

theorem not_closing_of_feed_header {outer : List Frame}
    (hfeed : feedOpen (.header type labels :: outer) t parts = some r') :
    t.kind ≠ .newline ∧ t.kind.closing = 0 := by
  rcases of_feed_header hfeed with ⟨hk, -⟩ | ⟨hk, -⟩ | ⟨hk, -⟩ | ⟨hk, -⟩ <;> rw [hk] <;>
    exact ⟨nofun, rfl⟩

/-- Behind an equals sign stands the first token of a value. -/
theorem of_feed_awaited {name : Token} {outer : List Frame}
    (hfeed : Reader.feed ⟨none, .attribute name :: outer⟩ parts t = some r') :
    t.kind ≠ .newline ∧ t.kind.closing = 0 ∧ r'.Led t.start (.attribute name :: outer) t 0 := by
  have hbegin : beginOperand (.attribute name :: outer) t parts = some r' := hfeed
  refine ⟨fun hk => ?_, ?_, leads_beginOperand (.inl ⟨rfl, rfl, rfl⟩) r' hbegin⟩
  · rw [beginOperand_newline hk] at hbegin
    cases hbegin
  · unfold beginOperand at hbegin
    cases hk : t.kind <;> simp_all [Kind.closing]

end Bodies

/-! ## Reading a file -/

/-- Where reading stands in a file, within `n` blocks. -/
inductive Stage : Newlines → Reader → Mark → Prop
  /-- Between the items of a body. -/
  | body {n s frames m} (h : Bodies Rereads n frames) (hs : s.brackets = List.replicate n .block) :
      Stage s ⟨none, frames⟩ m
  /-- Behind a name, or a label of a block. -/
  | header {n s r l type labels outer m} (h : Bodies Rereads n outer)
      (hs : s.brackets = List.replicate n .block) (hlast : s.last = some l)
      (hl : l.kind = .name ∨ l.kind = .quote) (htype : ∃ id : Identifier, type.text = id.text)
      (hfeed : ∀ parts t, r.feed parts t = feedOpen (.header type labels :: outer) t parts) :
      Stage s r m
  /-- Between the quotes of a label. -/
  | label {n s r start type labels outer m} (h : Bodies Rereads n outer)
      (htype : ∃ id : Identifier, type.text = id.text)
      (hamid : Amid start (.header type labels :: outer) n s r)
      (hne : r.frames ≠ .header type labels :: outer) : Stage s r m
  /-- Behind the equals sign of an attribute. -/
  | awaited {n s name outer m} (h : Bodies Rereads n outer)
      (hs : s.brackets = List.replicate n .block) (hlast : s.last.map Token.kind = some .equal)
      (hname : ∃ id : Identifier, name.text = id.text) :
      Stage s ⟨none, .attribute name :: outer⟩ m
  /-- Within the value of an attribute, which was read from `start` up to the place `m₁`. -/
  | value {n s₀ s r start name outer m₁ m} (h : Bodies Rereads n outer)
      (hname : ∃ id : Identifier, name.text = id.text) (hbegins : Reading.Begins n s₀ start)
      (hamid : Amid start (.attribute name :: outer) n s r)
      (hread : Reading.Steps n ⟨s₀, ⟨none, .attribute name :: outer⟩, start⟩ ⟨s, r, m₁⟩)
      (hpassed : Reading.Steps n ⟨s, r, m₁⟩ ⟨s, r, m⟩)
      (hstop : ∀ x, r.operand = some x → x.stop = m₁.offset) : Stage s r m

namespace Stage

variable {s s' : Newlines} {r r' : Reader} {m : Mark} {t : Token} {parts : Draft (List Part)}
  {fuel : Nat} {brackets : List Bracket}

/-- The value of an attribute is no template on its own. -/
theorem ne_template {start : Mark} {n : Nat} {name : Token} {outer : List Frame}
    (h : Amid start (.attribute name :: outer) n s r) (items : List (Draft TemplateItem))
    (more : List Frame) : r.frames ≠ .template items :: more := by
  obtain ⟨l, before, -, -, hled⟩ := h.last
  intro hframes
  rcases hled.extent with ⟨heq, -⟩ | habove
  · rw [hframes] at heq
    cases heq
  · rw [hframes] at habove
    cases habove.1

/-- A token that is dropped leaves the stage as it is. -/
theorem drop (h : Stage s r m) (ht : nextToken? r.accepts m = some t) (hdrop : s.Drops t) :
    Stage s r (m.advance (t.stop - m.offset)) := by
  cases h with
  | body h hs => exact .body h hs
  | header h hs hlast hl htype hfeed => exact .header h hs hlast hl htype hfeed
  | label h htype hamid hne => exact .label h htype hamid hne
  | awaited h hs hlast hname => exact .awaited h hs hlast hname
  | value h hname hbegins hamid hread hpassed hstop =>
    exact .value h hname hbegins hamid hread
      (hpassed.tail (.drop (ne_template hamid) ht hdrop)) hstop

/-- A newline that is taken ends an attribute, which is read again from its source text, or it
stands between the items of a body. -/
theorem of_newline (h : Stage s r m) (ht : t.kind = .newline) (hfeed : r.feed parts t = some r') :
    ∃ n frames, r' = ⟨none, frames⟩ ∧ Bodies Rereads n frames ∧
      s.brackets = List.replicate n .block := by
  cases h with
  | body h hs => exact ⟨_, _, h.of_newline ht hfeed, h, hs⟩
  | header h hs hlast hl htype hheader =>
    rw [hheader] at hfeed
    exact absurd ht (not_closing_of_feed_header hfeed).1
  | label h htype hamid hne =>
    obtain ⟨_, _, _, _, -, -, hbase, -⟩ :=
      hamid.of_newline (fun hframes => absurd hframes hne) ht hfeed
    cases hbase
  | awaited h hs hlast hname => exact absurd ht (of_feed_awaited hfeed).1
  | @value n s₀ _ _ start name outer m₁ _ h hname hbegins hamid hread hpassed hstop =>
    obtain ⟨x, y, _, _, hx, hsettle, ⟨⟩, hwithin, hbrackets, hadd⟩ :=
      hamid.of_newline (fun _ => rfl) ht hfeed
    have hstart : y.start = start := by
      rcases hwithin.extent with ⟨-, hstart, -⟩ | habove
      · exact hstart
      · exact absurd habove.length_lt (Nat.lt_irrefl _)
    obtain ⟨l, -, hlast, hl, -⟩ := hamid.last
    obtain ⟨operand, frames⟩ := r
    obtain rfl : operand = some x := hx
    -- The value ends with the last token that was taken, whatever was dropped behind it.
    have heach : Ensures (Item.Each Rereads)
        (y.expr.map fun e => .attribute ⟨name.text, e, name.start.pos⟩) := by
      obtain ⟨id, hid⟩ := hname
      refine .map (P := fun e => y.expr = .ok e) (fun e he => he) fun e he => ?_
      refine .attribute fun file => ?_
      rw [hid]
      exact rereads_of_steps id hbegins hread hbrackets hlast hl hsettle he hstart
        (hwithin.stop_eq.trans (hstop x rfl)) hwithin.spans file
    obtain ⟨frames', hr', hbodies⟩ := h.addItem heach hadd
    exact ⟨n, frames', hr', hbodies, hbrackets⟩

/-- A block is closed between the items of its body only. -/
theorem of_emptying (h : Stage s r m) (ht : t.kind.opening = 0 ∧ t.kind.closing = 1)
    {outer : List Bracket} (hs : s.brackets = .block :: outer)
    (hfeed : r.feedAll parts [t, t.newlineAt] = .ok r') :
    ∃ n frames, r' = ⟨none, frames⟩ ∧ Bodies Rereads n frames ∧ outer = List.replicate n .block := by
  -- In the middle of a header or an attribute the brace and the newline cannot both be taken.
  cases h with
  | body h hblocks =>
    obtain ⟨n, frames, rfl, rfl, hbodies⟩ := h.of_close ht.2 hfeed
    exact ⟨n, frames, rfl, hbodies, (List.cons.inj (hs.symm.trans hblocks)).2⟩
  | header h hblocks hlast hl htype hheader =>
    obtain ⟨r₁, hclose, -⟩ := of_feedAll_cons hfeed
    rw [hheader] at hclose
    have hzero := (not_closing_of_feed_header hclose).2
    omega
  | label h htype hamid hne =>
    exact (hamid.not_emptying (fun hframes => absurd hframes hne) ht hs hfeed).elim
  | awaited h hblocks hlast hname =>
    obtain ⟨r₁, hclose, -⟩ := of_feedAll_cons hfeed
    have hzero := (of_feed_awaited hclose).2.1
    omega
  | value h hname hbegins hamid hread hpassed hstop =>
    exact (hamid.not_emptying (fun _ => rfl) ht hs hfeed).elim

/-- A token that is neither a newline nor closes a block is let through alone and leads on. -/
theorem take (h : Stage s r m) (ht : nextToken? r.accepts m = some t)
    (hfuel : t.stop - m.offset ≤ fuel)
    (hignored : t.kind.ignored = false) (hk : t.kind ≠ .newline) (htake : s.Takes t brackets)
    (hstep : s.step t = ([t], ⟨brackets, some t⟩))
    (hfeed : r.feed (heredocParts (fun m => readFrom fuel .template m.pos {} Reader.template m) t)
      t = some r') : Stage ⟨brackets, some t⟩ r' (m.advance (t.stop - m.offset)) := by
  cases h with
  | body h hs =>
    rcases h.of_feed hfeed with ⟨hnewline, -⟩ | ⟨hname, rfl⟩ | ⟨hbrace, k, outer, rfl, -, -⟩
    · exact absurd hnewline hk
    · have hsame := htake.eq_of_plain (hname ▸ rfl) (hname ▸ rfl)
      exact .header h (hsame.trans hs) rfl (.inl hname) (exists_identifier ht hname) fun _ _ => rfl
    -- The brace of a block is never let through without a newline behind it.
    · rw [List.replicate_succ] at hs
      cases htake with
      | opening ht => rw [hbrace] at ht; cases ht.1
      | closing ht hs' hb => exact absurd (List.cons.inj (hs'.symm.trans hs)).1 hb
      | plain ht hs' =>
        rw [hs' (hbrace ▸ rfl)] at hs
        cases hs
  | header h hs hlast hl htype hheader =>
    rw [hheader] at hfeed
    rcases of_feed_header hfeed with ⟨hequal, rfl⟩ | ⟨hname, rfl⟩ | ⟨hquote, rfl⟩ | ⟨hbrace, rfl⟩
    · have hsame := htake.eq_of_plain (hequal ▸ rfl) (hequal ▸ rfl)
      exact .awaited h (hsame.trans hs) (congrArg some hequal) htype
    · have hsame := htake.eq_of_plain (hname ▸ rfl) (hname ▸ rfl)
      exact .header h (hsame.trans hs) rfl (.inl hname) htype fun _ _ => rfl
    · have hsame := htake.eq_of_plain (hquote ▸ rfl) (hquote ▸ rfl)
      exact .label h htype (amid_quoted hquote (hsame.trans hs)) (List.cons_ne_self _ _)
    · refine .body (.block (by simp) h) ?_
      rw [htake.eq_of_header hlast hl hbrace, hs, List.replicate_succ]
  | @label n _ _ start type labels outer _ h htype hamid hne =>
    obtain ⟨hamid', -⟩ := hamid.take (fun hframes => absurd hframes hne) htake hk hfeed
    by_cases hframes : r'.frames = .header type labels :: outer
    -- The quotes are closed, and the header goes on behind them.
    · obtain ⟨hs', l, x, hlast, hquote, hx⟩ := hamid'.of_frames_eq rfl rfl hframes
      obtain ⟨operand, frames⟩ := r'
      obtain rfl : operand = some x := hx
      obtain rfl : frames = _ := hframes
      exact .header h hs' hlast (.inr hquote) htype fun _ _ => rfl
    · exact .label h htype hamid' hframes
  | @awaited n _ _ _ _ h hs hlast hname =>
    obtain ⟨-, hclosing, hled⟩ := of_feed_awaited hfeed
    rw [start_of_nextToken? ht] at hled
    -- The steps of the value begin here, with the place of its first token.
    have hbegins : Reading.Begins n s m := ⟨hs, hlast, t, ht, hignored⟩
    have hstart : Reading.Step n _ _ := .take (by rintro _ _ ⟨⟩) ht hfuel hignored hk hstep
      (fun hcloses => by rw [Newlines.closes_eq_true_iff] at hcloses; omega) hfeed
    exact .value h hname hbegins (amid_of_equal hled hk hs hlast htake hclosing)
      (.single hstart) .refl fun x hx => (hled.operand x hx).1.trans (offset_next ht).symm
  | @value n _ _ _ _ _ _ _ _ h hname hbegins hamid hread hpassed hstop =>
    obtain ⟨hamid', hcloses⟩ := hamid.take (fun _ => rfl) htake hk hfeed
    obtain ⟨l, before, hlast, -, hled⟩ := hamid'.last
    obtain rfl : t = l := Option.some.inj hlast
    -- What was dropped since the last token now belongs to the value.
    have hnext : Reading.Step n _ _ := .take (ne_template hamid) ht hfuel hignored hk hstep
      (fun hclose => hcloses (Newlines.closes_eq_true_iff.1 hclose)) hfeed
    exact .value h hname hbegins hamid' ((hread.trans hpassed).tail hnext) .refl
      fun x hx => (hled.operand x hx).1.trans (offset_next ht).symm

/-- A token leads from one stage to another. -/
theorem step {through : List Token} (h : Stage s r m) (ht : nextToken? r.accepts m = some t)
    (hfuel : t.stop - m.offset ≤ fuel) (hignored : t.kind.ignored = false)
    (hstep : s.step t = (through, s'))
    (hfeed : r.feedAll (heredocParts (fun m => readFrom fuel .template m.pos {} Reader.template m) t)
      through = .ok r') : Stage s' r' (m.advance (t.stop - m.offset)) := by
  have hpass := Newlines.passes_step s t
  rw [hstep] at hpass
  cases hpass with
  | drop hk hends =>
    cases hfeed
    exact h.drop ht (.inr ⟨hk, hends⟩)
  | newline hk =>
    obtain ⟨r₁, hnewline, hnil⟩ := of_feedAll_cons hfeed
    cases hnil
    obtain ⟨n, frames, rfl, hbodies, hs⟩ := h.of_newline hk hnewline
    exact .body hbodies hs
  | take hk htake =>
    obtain ⟨r₁, hone, hnil⟩ := of_feedAll_cons hfeed
    cases hnil
    exact h.take ht hfuel hignored hk htake hstep hone
  | ending hk hs =>
    -- The newline in front of the brace ends the last item of the block.
    obtain ⟨r₁, hnewline, hrest⟩ := of_feedAll_cons hfeed
    obtain ⟨n, frames, rfl, hbodies, hblocks⟩ := h.of_newline rfl hnewline
    obtain ⟨k, outer, rfl, rfl, houter⟩ := hbodies.of_close hk.2 hrest
    exact .body houter (List.cons.inj (hs.symm.trans hblocks)).2
  | emptying hk hs =>
    obtain ⟨n, frames, rfl, hbodies, hblocks⟩ := h.of_emptying hk hs hfeed
    exact .body hbodies hblocks

/-- Nothing or a newline comes last between the items of a body only. -/
theorem exists_bodies (h : Stage s r m) (hlast : ∀ l, s.last = some l → l.kind = .newline) :
    ∃ n frames, r = ⟨none, frames⟩ ∧ Bodies Rereads n frames := by
  cases h with
  | body h hs => exact ⟨_, _, rfl, h⟩
  | header h hs hl hkind htype hheader =>
    rw [hlast _ hl] at hkind
    rcases hkind with hkind | hkind <;> cases hkind
  | label h htype hamid hne =>
    obtain ⟨l, -, hl, hnot, -⟩ := hamid.last
    exact absurd (hlast l hl) hnot
  | awaited h hs hequal hname =>
    obtain ⟨l, hl, hkind⟩ := Option.map_eq_some_iff.1 hequal
    cases (hlast l hl).symm.trans hkind
  | value h hname hbegins hamid hread hpassed hstop =>
    obtain ⟨l, -, hl, hnot, -⟩ := hamid.last
    exact absurd (hlast l hl) hnot

/-- At the end of the file the last attribute is complete. -/
theorem ensures_finish {first : Pos} (h : Stage s r m) :
    Ensures (fun r' => ∃ n frames, r' = ⟨none, frames⟩ ∧ Bodies Rereads n frames)
      (finish .file first s r) := by
  unfold finish
  refine .bind (P := fun r' => ∃ n frames, r' = ⟨none, frames⟩ ∧ Bodies Rereads n frames) ?_ ?_
  · intro r' hfeed
    dsimp only at hfeed
    unfold Newlines.finish at hfeed
    split at hfeed
    · next l hl =>
      -- A newline is added unless one came last.
      split at hfeed
      · next hk =>
        cases hfeed
        refine h.exists_bodies fun l' hl' => ?_
        obtain rfl := Option.some.inj (hl.symm.trans hl')
        exact hk
      · obtain ⟨r₁, hnewline, hnil⟩ := of_feedAll_cons hfeed
        cases hnil
        obtain ⟨n, frames, rfl, hbodies, -⟩ := h.of_newline rfl hnewline
        exact ⟨n, frames, rfl, hbodies⟩
    · next hnone =>
      cases hfeed
      refine h.exists_bodies fun l hl => ?_
      cases hnone.symm.trans hl
  · intro r' hr'
    dsimp only
    split
    · exact .ok hr'
    · exact .error

/-- Reading on with enough fuel from any stage ends between the items of a body, and each attribute
that has been read is read again. The induction is on the fuel. -/
theorem ensures_readFrom {first : Pos} (h : Stage s r m) (hfuel : m.rest.length < fuel) :
    Ensures (fun r' => ∃ n frames, r' = ⟨none, frames⟩ ∧ Bodies Rereads n frames)
      (readFrom fuel .file first s r m) := by
  induction fuel generalizing s r m with
  | zero => exact .error
  | succ fuel ih =>
    rw [readFrom]
    split
    · exact h.ensures_finish
    · split
      · exact .error
      · next t ht =>
        dsimp only
        -- Each token takes characters, so the fuel lasts.
        have hless := (Copies.length_rest_advance_lt ht).trans_le (Nat.le_of_lt_succ hfuel)
        split
        · next hk => exact ih (h.drop ht (.inl hk)) hless
        · next hk =>
          have hroom := (stop_sub_le ht).trans (Nat.le_of_lt_succ hfuel)
          split
          · next r' hfeed => exact ih (h.step ht hroom (Bool.eq_false_iff.2 hk) rfl hfeed) hless
          · exact .error

end Stage

/-- In a file that is read, each attribute at any depth of blocks is read again: its name, an equals
sign and the source text of its value on a line of their own are read, in a file of any name, as one
attribute with that name and that value, apart from places. -/
theorem each_rereads_of_parse {file text : String} {items : List Item}
    (h : parse file text = .ok (.native items)) : ∀ item ∈ items, item.Each Rereads := by
  have hstage : Stage {} Reader.file (Mark.start file 1 text.toList) :=
    .body (.file (by simp)) rfl
  have hitems : Ensures (fun items => ∀ item ∈ items, item.Each Rereads) (parseItems file text) := by
    refine .bind (hstage.ensures_readFrom (Nat.lt_succ_self _)) fun r hr => ?_
    obtain ⟨n, frames, rfl, hbodies⟩ := hr
    exact hbodies.ensures_items?
  rw [parse] at h
  cases hread : parseItems file text with
  | error e =>
    rw [hread] at h
    cases h
  | ok found =>
    rw [hread] at h
    cases h
    exact hitems _ hread

/-- What is read of a block with a call over several lines, a comment and a heredoc among them. -/
def acrossBrackets : Item :=
  .block "b" [] ⟨"t.tf", 1, 1⟩
    [.attribute ⟨"x",
      .call ⟨⟨"t.tf", 2, 7⟩, "f(a.*, # c\n<<E\n$\x7by\x7d\nE\n  )"⟩ "f"
        [.splat ⟨⟨"t.tf", 2, 9⟩, "a.*"⟩ (.variable ⟨⟨"t.tf", 2, 9⟩, "a"⟩ "a") [] false,
          .template ⟨⟨"t.tf", 3, 1⟩, "<<E\n$\x7by\x7d\nE"⟩
            [.interp (.variable ⟨⟨"t.tf", 4, 3⟩, "y"⟩ "y"), .text "\n"]] false,
      ⟨"t.tf", 2, 3⟩⟩]

theorem each_rereads_of_parse_acrossBrackets :
    parse "t.tf" "b \x7b\n  x = f(a.*, # c\n<<E\n$\x7by\x7d\nE\n  )\n\x7d" =
        .ok (.native [acrossBrackets]) ∧ ∀ item ∈ [acrossBrackets], item.Each Rereads := by
  have hparse : parse "t.tf" "b \x7b\n  x = f(a.*, # c\n<<E\n$\x7by\x7d\nE\n  )\n\x7d" =
      .ok (.native [acrossBrackets]) := by rfl
  exact ⟨hparse, each_rereads_of_parse hparse⟩

end Native

end ResourceTables
