import ResourceTables.Proofs.Sources.Extents

/-!
# The brackets of an expression

Within an expression as many brackets are open as its constructs have opened, besides those of the
blocks around it. A brace behind a name or a quote counts as that of a block wherever it stands, but
the outermost bracket of an expression is never one of these, so no newline is let through before
the expression is complete.

* `Newlines.Passes`: what becomes of a token, one rule for each thing that can happen to it;
* `Reader.Amid`: what is known within an expression;
* `Reader.Amid.take`: a token that is taken keeps this;
* `Reader.Amid.of_newline`: a newline comes behind a complete value of an attribute.
-/

namespace ResourceTables.Native

/-! ## What becomes of a token -/

namespace Newlines

/-- The brackets that are open behind a token that is let through alone. -/
inductive Takes (s : Newlines) (t : Token) : List Bracket → Prop
  /-- A bracket is opened. -/
  | opening {b} (ht : t.kind.opening = 1 ∧ t.kind.closing = 0) (hopens : s.opens t.kind = some b) :
      Takes s t (b :: s.brackets)
  /-- A bracket is closed that is none of a block. -/
  | closing {b outer} (ht : t.kind.opening = 0 ∧ t.kind.closing = 1)
      (hs : s.brackets = b :: outer) (hb : b ≠ .block) : Takes s t outer
  /-- The token is no bracket, or it closes none. -/
  | plain (ht : t.kind.opening = 0) (hs : t.kind.closing = 1 → s.brackets = []) :
      Takes s t s.brackets

/-- What is let through for a token, and what decides about newlines behind it. -/
inductive Passes (s : Newlines) (t : Token) : List Token → Newlines → Prop
  /-- A newline that ends nothing is dropped. -/
  | drop (ht : t.kind = .newline) (hends : s.endsItem = false) : Passes s t [] s
  /-- A newline ends an item. -/
  | newline (ht : t.kind = .newline) : Passes s t [t] ⟨s.brackets, some t⟩
  /-- A token is let through alone. -/
  | take {brackets} (hk : t.kind ≠ .newline) (h : s.Takes t brackets) :
      Passes s t [t] ⟨brackets, some t⟩
  /-- A block is closed behind an item that no newline has ended. -/
  | ending {outer l} (ht : t.kind.opening = 0 ∧ t.kind.closing = 1)
      (hs : s.brackets = .block :: outer) :
      Passes s t [Token.newlineAt l, t, t.newlineAt] ⟨outer, some t.newlineAt⟩
  /-- A block is closed behind a newline or its opening brace. -/
  | emptying {outer} (ht : t.kind.opening = 0 ∧ t.kind.closing = 1)
      (hs : s.brackets = .block :: outer) :
      Passes s t [t, t.newlineAt] ⟨outer, some t.newlineAt⟩

variable {s : Newlines} {k : Kind} {b : Bracket}

theorem opening_of_opens (h : s.opens k = some b) : k.opening = 1 ∧ k.closing = 0 := by
  cases k <;> first | exact ⟨rfl, rfl⟩ | cases h

theorem opening_of_opens_eq_none (h : s.opens k = none) : k.opening = 0 := by
  cases k <;> first | rfl | cases h

/-- The brace of a block stands behind a name or a quote. -/
theorem of_opens_block (h : s.opens k = some .block) :
    k = .openBrace ∧ (s.lastIs .name || s.lastIs .quote) = true := by
  cases k with
  | openBrace =>
    refine ⟨rfl, ?_⟩
    by_contra hnot
    simp [opens, hnot] at h
  | _ => cases h

theorem closes_eq_true_iff : closes k = true ↔ k.closing = 1 := by
  cases k <;> simp [closes, Kind.closing]

/-- A token that is no bracket leaves the brackets as they are. -/
theorem Takes.eq_of_plain {t : Token} {brackets : List Bracket} (h : s.Takes t brackets)
    (hopening : t.kind.opening = 0) (hclosing : t.kind.closing = 0) : brackets = s.brackets := by
  cases h with
  | opening ht => omega
  | closing ht => omega
  | plain => rfl

/-- A brace behind a name or a quote opens a block. -/
theorem Takes.eq_of_header {t l : Token} {brackets : List Bracket} (h : s.Takes t brackets)
    (hlast : s.last = some l) (hl : l.kind = .name ∨ l.kind = .quote)
    (ht : t.kind = .openBrace) : brackets = .block :: s.brackets := by
  cases h with
  | opening _ hopens =>
    rw [ht] at hopens
    rcases hl with hl | hl <;> simp [opens, lastIs, hlast, hl] at hopens <;> rw [← hopens]
  | closing hk =>
    rw [ht] at hk
    cases hk.2
  | plain hk =>
    rw [ht] at hk
    cases hk

theorem passes_step (s : Newlines) (t : Token) : s.Passes t (s.step t).1 (s.step t).2 := by
  have hemits := s.emits_step t
  generalize (s.step t).1 = through, (s.step t).2 = s' at hemits ⊢
  cases hemits with
  | drop hk hends => exact .drop hk hends
  | keep hk => exact .newline hk
  | opening hk hopens => exact .take hk (.opening (opening_of_opens hopens) hopens)
  | closing hcloses hblock =>
    have hopening := opening_of_opens_eq_none (s := s) (opens_eq_none_of_closes hcloses)
    obtain ⟨brackets, last⟩ := s
    cases brackets with
    | nil => exact .take (ne_newline_of_closes hcloses) (.plain hopening fun _ => rfl)
    | cons b outer =>
      exact .take (ne_newline_of_closes hcloses) (.closing
        ⟨hopening, closes_eq_true_iff.1 hcloses⟩ rfl fun hb => hblock (congrArg some hb))
  | emptying hcloses hs =>
    have hopening := opening_of_opens_eq_none (s := s) (opens_eq_none_of_closes hcloses)
    exact .emptying ⟨hopening, closes_eq_true_iff.1 hcloses⟩ hs
  | ending hcloses hs =>
    have hopening := opening_of_opens_eq_none (s := s) (opens_eq_none_of_closes hcloses)
    exact .ending ⟨hopening, closes_eq_true_iff.1 hcloses⟩ hs
  | other hk hopens hcloses =>
    refine .take hk (.plain (opening_of_opens_eq_none hopens) fun hclosing => ?_)
    rw [closes_eq_true_iff.2 hclosing] at hcloses
    cases hcloses

end Newlines

/-! ## Within an expression -/

theorem Above.length_lt {start : Mark} {base frames : List Frame} (h : Above start base frames) :
    base.length < frames.length := by
  induction frames with
  | nil => cases h
  | cons f outer ih =>
    obtain ⟨-, ⟨rfl, -⟩ | habove⟩ := h
    · exact Nat.lt_succ_self _
    · exact Nat.lt_succ_of_lt (ih habove)

namespace Reader

section Steps

variable {start : Mark} {base frames : List Frame} {n before : Nat} {s : Newlines}
  {brackets outer : List Bracket} {r r' : Reader} {t l : Token} {x : Operand}
  {parts : Draft (List Part)}

/-- Where the constructs of the expression are complete, so is its operand. -/
theorem Led.of_frames_eq (h : r.Led start base t before) (hframes : r.frames = base) :
    (∃ x, r.operand = some x ∧ x.start = start) ∧ (inAttribute base = true ∨ t.kind = .quote) := by
  rcases h.extent with ⟨-, hwhole⟩ | habove
  · exact hwhole
  · rw [hframes] at habove
    exact absurd habove.length_lt (Nat.lt_irrefl _)

/-- A body is no part of an expression. -/
theorem Led.inBody (h : r.Led start base t before) (hnone : r.operand = none) :
    inBody r.frames = false := by
  obtain ⟨operand, frames⟩ := r
  rcases h.extent with ⟨-, ⟨x, hx, -⟩, -⟩ | habove
  · cases hnone.symm.trans hx
  · cases frames with
    | nil => cases habove
    | cons f outer =>
      have hinner := habove.1
      cases f <;> first | rfl | cases hinner

theorem closeOperand_openBrace (ht : t.kind = .openBrace) (hdepth : depth frames = 0) :
    closeOperand x frames t parts = none := by
  unfold closeOperand
  split
  · rfl
  · split
    all_goals simp_all [depth, Frame.isInner, Frame.isBracket]

/-- No object begins behind a name or a quote where an expression has no bracket open. -/
theorem Led.of_openBrace (h : r.Led start base l before)
    (hopen : r.frames = base → inAttribute base = true) (hdepth : depth r.frames = 0)
    (ht : t.kind = .openBrace) (hfeed : r.feed parts t = some r') :
    l.kind ≠ .name ∧ l.kind ≠ .quote := by
  obtain ⟨operand, frames⟩ := r
  cases operand with
  -- Behind an operand a brace begins a key, and the object around it has a bracket open.
  | some x =>
    have hwithin := h.within rfl hopen
    have hafter : feedAfter x frames t parts = some r' := hfeed
    unfold feedAfter at hafter
    split at hafter
    · rcases hwithin.extent with ⟨rfl, -, hbase⟩ | habove
      · cases hbase
      · cases habove.1
    · have hnone : closeOperand (settle x frames).1 (settle x frames).2 t parts = none :=
        closeOperand_openBrace ht ((within_settle hwithin).2.trans hdepth)
      simp [ht, operatorOf?, hnone] at hafter
  -- Otherwise the innermost construct waits for an operand and has no bracket.
  | none =>
    refine h.prefix_of rfl ?_
    rcases h.extent with ⟨-, ⟨x, ⟨⟩, -⟩, -⟩ | habove
    cases frames with
    | nil => cases habove
    | cons f outer =>
      have hinner := habove.1
      have hafter : feedOpen (f :: outer) t parts = some r' := hfeed
      cases f
      all_goals
        simp_all [feedOpen, feedTemplate, depth, Frame.isInner, Frame.isBracket, Frame.isPrefix,
          Frame.awaitsOperand, inPrefix]

/-- Reading stands within an expression that begins at `start` and stands on `base`, with the
brackets of `n` blocks around it. -/
structure Amid (start : Mark) (base : List Frame) (n : Nat) (s : Newlines) (r : Reader) :
    Prop where
  /-- The token that was let through last belongs to the expression. -/
  last : ∃ l before, s.last = some l ∧ l.kind ≠ .newline ∧ r.Led start base l before
  /-- The brackets that the expression has opened come first. -/
  brackets : ∃ inner, s.brackets = inner ++ List.replicate n .block ∧
    inner.length = depth r.frames ∧ inner.getLast? ≠ some .block

/-- A token that is taken alone keeps what is known within an expression, and it closes no bracket
around it. -/
theorem Amid.take (h : Amid start base n s r)
    (hopen : r.frames = base → inAttribute base = true) (htake : s.Takes t brackets)
    (hk : t.kind ≠ .newline) (hfeed : r.feed parts t = some r') :
    Amid start base n ⟨brackets, some t⟩ r' ∧ (t.kind.closing = 1 → n < s.brackets.length) := by
  obtain ⟨⟨l, before, hlast, hl, hled⟩, inner, hbrackets, hlength, hfirst⟩ := h
  have hled' := leads_feed hk hled hopen r' hfeed
  have hdepth := hled'.depth_eq
  have hcount : s.brackets.length = inner.length + n := by
    rw [hbrackets, List.length_append, List.length_replicate]
  cases htake with
  | @opening b ht hopens =>
    refine ⟨⟨⟨t, _, rfl, hk, hled'⟩, b :: inner, congrArg _ hbrackets, ?_, ?_⟩, by omega⟩
    · rw [List.length_cons]
      omega
    · cases inner with
      | cons b' more => rwa [List.getLast?_cons_cons]
      | nil =>
        -- The outermost bracket does not stand behind a name or a quote.
        rintro ⟨⟩
        obtain ⟨hbrace, hbehind⟩ := Newlines.of_opens_block hopens
        obtain ⟨hname, hquote⟩ := hled.of_openBrace hopen hlength.symm hbrace hfeed
        simp [Newlines.lastIs, hlast, hname, hquote] at hbehind
  | @closing b outer ht hs hb =>
    rcases inner with _ | ⟨b', more⟩
    · rw [List.length_nil] at hlength
      omega
    · obtain ⟨rfl, rfl⟩ := List.cons.inj (hs.symm.trans hbrackets)
      rw [List.length_cons] at hlength hcount
      refine ⟨⟨⟨t, _, rfl, hk, hled'⟩, more, rfl, by omega, ?_⟩, by omega⟩
      cases more with
      | nil => simp
      | cons b' more => rwa [List.getLast?_cons_cons] at hfirst
  | plain hopening hs =>
    have hclosing : t.kind.closing ≠ 1 := by
      intro hclosing
      rw [hs hclosing, List.length_nil] at hcount
      omega
    have hzero : t.kind.closing = 0 := by
      cases hkind : t.kind <;> simp_all [Kind.closing]
    exact ⟨⟨⟨t, _, rfl, hk, hled'⟩, inner, hbrackets, by omega, hfirst⟩,
      fun hclosing => absurd hclosing (by omega)⟩

/-- A quote opens the label of a block. -/
theorem amid_quoted {type : Token} {labels : List Label} {outer : List Frame}
    (ht : t.kind = .quote) (hbrackets : brackets = List.replicate n .block) :
    Amid t.start (.header type labels :: outer) n ⟨brackets, some t⟩
      ⟨none, .quoted t.start [] :: .header type labels :: outer⟩ where
  last := by
    refine ⟨t, 0, rfl, by rw [ht]; rintro ⟨⟩, leads_inside.2 ⟨?_, ?_, ?_⟩ _ rfl⟩
    · rw [ht]
      rfl
    · exact ⟨rfl, .inl ⟨rfl, rfl, .inr rfl⟩⟩
    · rintro ⟨⟩
  brackets := ⟨[], hbrackets, rfl, by simp⟩

/-- Behind an equals sign a value begins. -/
theorem amid_of_equal {name : Token} {outer : List Frame}
    (hled : r'.Led start (.attribute name :: outer) t 0) (hk : t.kind ≠ .newline)
    (hs : s.brackets = List.replicate n .block) (hlast : s.last.map Token.kind = some .equal)
    (htake : s.Takes t brackets) (hclosing : t.kind.closing = 0) :
    Amid start (.attribute name :: outer) n ⟨brackets, some t⟩ r' where
  last := ⟨t, 0, rfl, hk, hled⟩
  brackets := by
    have hdepth := hled.depth_eq
    cases htake with
    | @opening b ht hopens =>
      refine ⟨[b], congrArg _ hs, by rw [List.length_singleton]; omega, ?_⟩
      rintro ⟨⟩
      obtain ⟨-, hbehind⟩ := Newlines.of_opens_block hopens
      obtain ⟨l, hl, hequal⟩ := Option.map_eq_some_iff.1 hlast
      simp [Newlines.lastIs, hl, hequal] at hbehind
    | closing ht => omega
    | plain ht => exact ⟨[], hs, by rw [List.length_nil]; omega, by simp⟩

/-- Where a label is complete, no brackets are open but those around it, and its quote came last. -/
theorem Amid.of_frames_eq (h : Amid start base n s r) (hbase : inAttribute base = false)
    (hdepth : depth base = 0) (hframes : r.frames = base) :
    s.brackets = List.replicate n .block ∧
      ∃ l x, s.last = some l ∧ l.kind = .quote ∧ r.operand = some x := by
  obtain ⟨⟨l, before, hlast, -, hled⟩, inner, hbrackets, hlength, -⟩ := h
  obtain ⟨⟨x, hx, -⟩, hquote⟩ := hled.of_frames_eq hframes
  rw [hframes, hdepth] at hlength
  rw [List.length_eq_zero_iff.1 hlength] at hbrackets
  refine ⟨hbrackets, l, x, hlast, hquote.resolve_left ?_, hx⟩
  rw [hbase]
  exact Bool.false_ne_true

/-- A newline that is taken within an expression comes behind the complete value of an attribute. -/
theorem Amid.of_newline (h : Amid start base n s r)
    (hopen : r.frames = base → inAttribute base = true) (ht : t.kind = .newline)
    (hfeed : r.feed parts t = some r') :
    ∃ x y name outer, r.operand = some x ∧ settle x r.frames = (y, .attribute name :: outer) ∧
      base = .attribute name :: outer ∧ Within start base x.stop y base ∧
        s.brackets = List.replicate n .block ∧
          addItem (y.expr.map fun e => .attribute ⟨name.text, e, name.start.pos⟩) outer =
            some r' := by
  obtain ⟨⟨l, before, hlast, hl, hled⟩, inner, hbrackets, hlength, hfirst⟩ := h
  rcases of_feed_newline ht hfeed with ⟨hnone, hbody, -⟩ | ⟨x, y, name, outer, hx, hsettle, hadd⟩
  · rw [hled.inBody hnone] at hbody
    cases hbody
  · obtain ⟨hwithin, hdepth⟩ := within_settle (hled.within hx hopen)
    rw [hsettle] at hwithin hdepth
    -- Nothing is open above the attribute, or the newline would not have ended its value.
    have hbase : base = .attribute name :: outer := by
      rcases hwithin.extent with ⟨hbase, -⟩ | habove
      · exact hbase.symm
      · cases habove.1
    have hzero : inner = [] := by
      rw [← List.length_eq_zero_iff, hlength, ← hdepth]
      rfl
    rw [hzero] at hbrackets
    exact ⟨x, y, name, outer, hx, hsettle, hbase, hbase ▸ hwithin, hbrackets, hadd⟩

/-- No block is closed within an expression. -/
theorem Amid.not_emptying (h : Amid start base n s r)
    (hopen : r.frames = base → inAttribute base = true)
    (ht : t.kind.opening = 0 ∧ t.kind.closing = 1) (hs : s.brackets = .block :: outer)
    (hfeed : r.feedAll parts [t, t.newlineAt] = .ok r') : False := by
  obtain ⟨⟨l, before, -, -, hled⟩, inner, hbrackets, hlength, hfirst⟩ := h
  obtain ⟨r₁, hclose, hrest⟩ := of_feedAll_cons hfeed
  obtain ⟨r₂, hnewline, -⟩ := of_feedAll_cons hrest
  have hk : t.kind ≠ .newline := fun hk => by rw [hk] at ht; cases ht.2
  have hled' := leads_feed hk hled hopen r₁ hclose
  have hquote : t.kind ≠ .quote := fun hk => by rw [hk] at ht; cases ht.2
  have hdepth := hled'.depth_eq
  -- The newline that is let through behind the bracket would end the attribute.
  rcases of_feed_newline rfl hnewline with ⟨hnone, hbody, -⟩ | ⟨x, y, name, outer, hx, hsettle, -⟩
  · rw [hled'.inBody hnone] at hbody
    cases hbody
  · obtain ⟨-, hsettled⟩ := within_settle
      (hled'.within hx fun hframes => (hled'.of_frames_eq hframes).2.resolve_right hquote)
    rw [hsettle] at hsettled
    have hzero : depth r₁.frames = 0 := hsettled.symm
    obtain ⟨b, rfl⟩ : ∃ b, inner = [b] := by
      rw [← List.length_eq_one_iff]
      omega
    obtain ⟨rfl, -⟩ := List.cons.inj (hs.symm.trans hbrackets)
    exact hfirst rfl

end Steps

end Reader

end ResourceTables.Native
