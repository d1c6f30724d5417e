import ResourceTables.Proofs.Quotes.Readers
import ResourceTables.Proofs.Limits.Trees

/-!
# Readers within the limits

What a reader holds is bounded, and a fault that it keeps has words. Each token lengthens a list by
one item at most, so the lists that a reader holds are no longer than the number of tokens.

* `Reader.Bounded`: the reader has taken so many tokens and holds nothing beyond the limits;
* `Reader.Admits`: what is asked of the next token;
* `Reader.bounds_feed`: one token more.
-/

namespace ResourceTables.Native

/-- What the label says is bounded. -/
def Label.Bounded : Label → Prop
  | .plain _ => True
  | .quoted x => x.Bounded

/-- What the open construct holds is bounded, and its lists have at most `k` items. -/
def Frame.Bounded (k : Nat) : Frame → Prop
  | .file items => ∀ d ∈ items, Delivers Item.Bounded ReadError.Worded d
  | .header _ labels => ∀ l ∈ labels, l.Bounded
  | .block _ labels items =>
    (∀ l ∈ labels, l.Bounded) ∧ ∀ d ∈ items, Delivers Item.Bounded ReadError.Worded d
  | .binary x _ | .test x | .access x | .subscript x | .fullSplat x | .interpEnd _ x => x.Bounded
  | .branch x y => x.Bounded ∧ y.Bounded
  | .tuple _ xs => xs.length ≤ k ∧ ∀ x ∈ xs, x.Bounded
  | .call _ xs | .spread _ xs => ∀ x ∈ xs, x.Bounded
  | .key _ pairs => pairs.length ≤ k ∧ PairsBounded pairs
  | .value _ pairs x => pairs.length ≤ k ∧ PairsBounded pairs ∧ x.Bounded
  | .elements head | .keys head => head.collection.Bounded
  | .elementsIf head x | .values head x => head.collection.Bounded ∧ x.Bounded
  | .grouped head x y | .valuesIf head x y _ => head.collection.Bounded ∧ x.Bounded ∧ y.Bounded
  | .quoted _ items => ∀ d ∈ items, Delivers TemplateItem.Readable ReadError.Worded d
  | .template items => ∀ d ∈ items, Delivers TemplateItem.Bounded ReadError.Worded d
  | .directiveEnd _ _ d _ => Delivers Directive.Bounded ReadError.Worded d
  | _ => True

theorem Frame.Bounded.mono {k j : Nat} {f : Frame} (h : f.Bounded k) (hk : k ≤ j) :
    f.Bounded j := by
  cases f with
  | tuple start xs => exact ⟨h.1.trans hk, h.2⟩
  | key start pairs => exact ⟨h.1.trans hk, h.2⟩
  | value start pairs x => exact ⟨h.1.trans hk, h.2⟩
  | _ => exact h

/-- What the open constructs hold is bounded. -/
def FramesBounded (k : Nat) (frames : List Frame) : Prop :=
  ∀ f ∈ frames, f.Bounded k

@[simp]
theorem framesBounded_cons {k : Nat} {f : Frame} {outer : List Frame} :
    FramesBounded k (f :: outer) ↔ f.Bounded k ∧ FramesBounded k outer :=
  List.forall_mem_cons

theorem FramesBounded.mono {k j : Nat} {frames : List Frame} (h : FramesBounded k frames)
    (hk : k ≤ j) : FramesBounded j frames :=
  fun f hf => (h f hf).mono hk

/-- The reader holds nothing beyond the limits, and its lists have at most `k` items. -/
structure Reader.Bounded (k : Nat) (r : Reader) : Prop where
  /-- So it is with the open constructs. -/
  frames : FramesBounded k r.frames
  /-- And with the operand. -/
  operand : ∀ x, r.operand = some x → x.Bounded

namespace Reader

/-- If there is a reader, it holds nothing beyond the limits. -/
def Bounds (k : Nat) (r : Option Reader) : Prop :=
  ∀ r', r = some r' → r'.Bounded k

/-- What a token brings in is within the limits. -/
structure Admits (r : Reader) (t : Token) (heredoc : Draft (List Part)) : Prop where
  /-- A number is in range. -/
  number : t.kind = .number ∨ t.kind = .digits → (Decimal.ofLiteral false t.text.toList).InRange
  /-- Between quotes all escapes are in range. -/
  escapes : ∀ start items outer, r = ⟨none, .quoted start items :: outer⟩ →
    t.kind = .textChars ∨ t.kind = .templateChars → EscapesInRange t.text.toList
  /-- The template of a heredoc is bounded. -/
  heredoc : Delivers (fun parts => ∀ p ∈ parts, p.Bounded) ReadError.Worded heredoc

section Steps

variable {k : Nat} {frames outer : List Frame} {t : Token} {heredoc : Draft (List Part)}
  {x : Operand}

@[simp]
theorem bounds_none : Bounds k none := by
  simp [Bounds]

@[simp]
theorem bounds_after : Bounds k (after x frames) ↔ FramesBounded k frames ∧ x.Bounded := by
  constructor
  · intro h
    exact ⟨(h _ rfl).frames, (h _ rfl).operand x rfl⟩
  · rintro ⟨hframes, hx⟩ _ ⟨⟩
    exact ⟨hframes, by rintro _ ⟨⟩; exact hx⟩

@[simp]
theorem bounds_inside : Bounds k (inside frames) ↔ FramesBounded k frames := by
  constructor
  · exact fun h => (h _ rfl).frames
  · rintro hframes _ ⟨⟩
    exact ⟨hframes, by rintro _ ⟨⟩⟩

theorem bounds_addItem {d : Draft Item} (hd : Delivers Item.Bounded ReadError.Worded d)
    (h : FramesBounded k frames) : Bounds k (addItem d frames) := by
  unfold addItem
  split <;> simp_all [Frame.Bounded]

theorem bounds_addTemplateItem {d : Draft TemplateItem}
    (hd : Delivers TemplateItem.Bounded ReadError.Worded d)
    (hquoted : ∀ start items outer, frames = .quoted start items :: outer →
      Delivers TemplateItem.Readable ReadError.Worded d)
    (h : FramesBounded k frames) : Bounds k (addTemplateItem d frames) := by
  unfold addTemplateItem
  split
  · next start items outer =>
    have hitem := hquoted start items outer rfl
    simp_all [Frame.Bounded]
  · simp_all [Frame.Bounded]
  · exact bounds_none

theorem delivers_labelText {found : String ⊕ Expr} :
    Delivers (fun _ => True) ReadError.Worded (labelText found) := by
  unfold labelText
  split
  · exact .ok True.intro
  · split
    · split
      · exact .ok True.intro
      · exact .error ReadError.worded_malformed
    · exact .error ReadError.worded_malformed

theorem delivers_blockItem {type : Token} {labels : List Label} {items : List (Draft Item)}
    (hlabels : ∀ l ∈ labels, l.Bounded)
    (hitems : ∀ d ∈ items, Delivers Item.Bounded ReadError.Worded d) :
    Delivers Item.Bounded ReadError.Worded (blockItem type labels items) := by
  have hdraft : ∀ l ∈ labels, Delivers (fun _ => True) ReadError.Worded (labelDraft l) := by
    intro l hl
    have hlabel := hlabels l hl
    cases l with
    | plain s => exact .ok True.intro
    | quoted x => exact .map hlabel fun _ _ => True.intro
  refine .bind (.mapM hdraft) fun found _ => .bind (.mapM hitems) fun inner hinner => ?_
  exact .bind (.mapM fun _ _ => delivers_labelText) fun texts _ => .ok (.block hinner.2)

/-- An interpolation is no literal text. -/
theorem delivers_interpItem {trim : Trim} (hx : x.Bounded) :
    Delivers TemplateItem.Bounded ReadError.Worded (interpItem trim x) ∧
      Delivers TemplateItem.Readable ReadError.Worded (interpItem trim x) :=
  ⟨.map hx fun _ he => he, .map hx fun _ he => he⟩

/-- Neither is a directive. -/
theorem delivers_directiveItem {trim : Trim} {pos : Pos} {d : Draft Directive}
    (hd : Delivers Directive.Bounded ReadError.Worded d) :
    Delivers TemplateItem.Bounded ReadError.Worded (directiveItem trim pos d) ∧
      Delivers TemplateItem.Readable ReadError.Worded (directiveItem trim pos d) :=
  ⟨.map hd fun _ h => h, .map hd fun _ h => h⟩

theorem bounds_interp {trim : Trim} (hx : x.Bounded) (h : FramesBounded k frames) :
    Bounds k (addTemplateItem (interpItem trim x) frames) :=
  bounds_addTemplateItem (delivers_interpItem hx).1 (fun _ _ _ _ => (delivers_interpItem hx).2) h

theorem bounds_directive {trim : Trim} {pos : Pos} {d : Draft Directive}
    (hd : Delivers Directive.Bounded ReadError.Worded d) (h : FramesBounded k frames) :
    Bounds k (addTemplateItem (directiveItem trim pos d) frames) :=
  bounds_addTemplateItem (delivers_directiveItem hd).1
    (fun _ _ _ _ => (delivers_directiveItem hd).2) h

theorem bounds_beginOperand {r : Reader} (ht : Admits r t heredoc) (h : FramesBounded k frames) :
    Bounds k (beginOperand frames t heredoc) := by
  unfold beginOperand
  split
  · exact bounds_after.2 ⟨h, Operand.bounded_ofName⟩
  · next hkind => exact bounds_after.2 ⟨h, Operand.delivers_numberExpr (ht.number (.inl hkind))⟩
  · exact bounds_after.2 ⟨h, Operand.bounded_ofHeredoc ht.heredoc⟩
  all_goals simp_all [Frame.Bounded]

theorem bounds_feedDirective {before : Bool} (h : FramesBounded k outer) :
    Bounds k (feedDirective before outer t) := by
  unfold feedDirective
  split <;> try split
  all_goals simp_all [Frame.Bounded, Delivers, Directive.Bounded]

theorem bounds_feedTemplate (ht : Admits ⟨none, frames⟩ t heredoc) (h : FramesBounded k frames) :
    Bounds k (feedTemplate frames t) := by
  have hchars : t.kind = .textChars ∨ t.kind = .templateChars →
      Bounds k (addTemplateItem (.ok (.text t.text)) frames) := fun hkind =>
    bounds_addTemplateItem (.ok True.intro) (fun start items outer hframes =>
      .ok (ht.escapes start items outer (by rw [hframes]) hkind)) h
  unfold feedTemplate
  split
  · next hkind => exact hchars (.inl hkind)
  · next hkind => exact hchars (.inr hkind)
  all_goals simp_all [Frame.Bounded]

theorem bounds_feedOpen (ht : Admits ⟨none, frames⟩ t heredoc) (hk : k + 1 ≤ itemLimit)
    (h : FramesBounded k frames) : Bounds (k + 1) (feedOpen frames t heredoc) := by
  have hlater := h.mono (Nat.le_succ k)
  unfold feedOpen
  split
  · exact bounds_none
  · next frame outer =>
    obtain ⟨hframe, -⟩ := framesBounded_cons.1 h
    obtain ⟨hframe', houters⟩ := framesBounded_cons.1 hlater
    split
    rotate_right
    -- Any other token is the first one of an operand, or cannot stand there.
    · split
      · exact bounds_beginOperand ht hlater
      · exact bounds_none
    -- Most tokens lead on to a construct that holds what the one before held.
    all_goals try
      simp_all [Frame.Bounded, Label.Bounded, bounds_feedDirective, Operand.Bounded.getAttr,
        Operand.Bounded.splat, Operand.Bounded.call, Operand.Bounded.forObject,
        Operand.bounded_ofQuoted, bounds_interp, bounds_directive]
      done
    · refine bounds_addItem (delivers_blockItem ?_ ?_) houters
      · exact fun l hl => hframe.1 l (List.mem_reverse.1 hl)
      · exact fun d hd => hframe.2 d (List.mem_reverse.1 hd)
    · next hkind =>
      exact bounds_after.2 ⟨houters, .index hframe (Operand.delivers_numberExpr
        (ht.number (.inr hkind)))⟩
    · refine bounds_after.2 ⟨houters, .tuple ?_ fun x hx => hframe.2 x (List.mem_reverse.1 hx)⟩
      rw [List.length_reverse]
      exact hframe'.1.trans hk
    · refine bounds_after.2 ⟨houters, .object ?_ hframe.2.reverse⟩
      rw [List.length_reverse]
      exact hframe'.1.trans hk
    · exact bounds_feedTemplate ht hlater
    · exact bounds_feedTemplate ht hlater

/-! Putting operators together takes constructs away and keeps the others as they are. -/

theorem bounded_reduce (level : Nat) (hx : x.Bounded) (h : FramesBounded k frames) :
    (reduce level x frames).1.Bounded ∧ FramesBounded k (reduce level x frames).2 := by
  fun_induction reduce level x frames with
  | case1 x start op outer ih => exact ih hx.unary (framesBounded_cons.1 h).2
  | case2 x left op outer hlevel ih =>
    obtain ⟨hleft, houter⟩ := framesBounded_cons.1 h
    exact ih (.binary hleft hx) houter
  | case3 x left op outer hlevel => exact ⟨hx, h⟩
  | case4 x frames => exact ⟨hx, h⟩

theorem bounded_settle (hx : x.Bounded) (h : FramesBounded k frames) :
    (settle x frames).1.Bounded ∧ FramesBounded k (settle x frames).2 := by
  fun_induction settle x frames with
  | case1 x start op outer ih => exact ih hx.unary (framesBounded_cons.1 h).2
  | case2 x left op outer ih =>
    obtain ⟨hleft, houter⟩ := framesBounded_cons.1 h
    exact ih (.binary hleft hx) houter
  | case3 x cond yes outer ih =>
    obtain ⟨hbranch, houter⟩ := framesBounded_cons.1 h
    exact ih (.conditional hbranch.1 hbranch.2 hx) houter
  | case4 x frames => exact ⟨hx, h⟩

theorem bounds_feedDirectiveEnd {before : Bool} {pos : Pos} {d : Draft Directive}
    (hd : Delivers Directive.Bounded ReadError.Worded d) (h : FramesBounded k outer) :
    Bounds k (closeOperand.feedDirectiveEnd t before pos d outer) := by
  unfold closeOperand.feedDirectiveEnd
  split
  · simp_all [Frame.Bounded]
  · exact bounds_directive hd h
  · exact bounds_none

theorem bounds_closeOperand {r : Reader} (ht : Admits r t heredoc) (hk : k + 1 ≤ itemLimit)
    (hx : x.Bounded) (h : FramesBounded k frames) :
    Bounds (k + 1) (closeOperand x frames t heredoc) := by
  have hlater := h.mono (Nat.le_succ k)
  unfold closeOperand
  split
  · exact bounds_none
  · next frame outer =>
    obtain ⟨hframe, -⟩ := framesBounded_cons.1 h
    obtain ⟨hframe', houters⟩ := framesBounded_cons.1 hlater
    split
    rotate_right
    -- Any other token cannot stand there.
    · exact bounds_none
    -- Most tokens lead on to a construct that holds the operand, or end one that held others.
    all_goals try
      simp_all [Frame.Bounded, or_imp, Operand.Bounded.parens, Operand.Bounded.call,
        Operand.Bounded.forTuple, Operand.Bounded.forObject, bounds_interp]
      done
    · exact bounds_addItem (.map hx fun e he => .attribute he) houters
    · exact bounds_after.2 ⟨houters, .index hframe hx⟩
    · next start items =>
      refine bounds_after.2 ⟨houters, .tuple ?_ fun y hy => ?_⟩
      · rw [List.length_reverse]
        exact (Nat.succ_le_succ hframe.1).trans hk
      · exact List.forall_mem_cons.2 ⟨hx, hframe.2⟩ y (List.mem_reverse.1 hy)
    · refine bounds_after.2 ⟨houters, .object ?_ (PairsBounded.reverse ?_)⟩
      · rw [List.length_reverse]
        exact (Nat.succ_le_succ hframe.1).trans hk
      · exact pairsBounded_cons.2 ⟨⟨hframe.2.2, hx⟩, hframe.2.1⟩
    · have hpairs := pairsBounded_cons.2 ⟨⟨hframe.2.2, hx⟩, hframe.2.1⟩
      exact bounds_beginOperand ht
        (framesBounded_cons.2 ⟨⟨Nat.succ_le_succ hframe.1, hpairs⟩, houters⟩)
    · exact bounds_feedDirectiveEnd (.map hx fun e he => he) houters
    · exact bounds_feedDirectiveEnd (.map hx fun e he => he) houters

theorem bounds_feedAfter (ht : Admits ⟨some x, frames⟩ t heredoc) (hk : k + 1 ≤ itemLimit)
    (hx : x.Bounded) (h : FramesBounded k frames) :
    Bounds (k + 1) (feedAfter x frames t heredoc) := by
  unfold feedAfter
  split
  · next type labels outer =>
    obtain ⟨hframe, houters⟩ := framesBounded_cons.1 h
    refine bounds_feedOpen ⟨ht.number, (fun _ _ _ hquoted => nomatch hquoted), ht.heredoc⟩ hk ?_
    exact framesBounded_cons.2 ⟨List.forall_mem_cons.2 ⟨hx, hframe⟩, houters⟩
  · have hlater := h.mono (Nat.le_succ k)
    split
    · exact bounds_inside.2 (framesBounded_cons.2 ⟨hx, hlater⟩)
    · exact bounds_inside.2 (framesBounded_cons.2 ⟨hx, hlater⟩)
    · exact bounds_inside.2 (framesBounded_cons.2 (bounded_reduce 0 hx hlater))
    · split
      · next op _ =>
        exact bounds_inside.2 (framesBounded_cons.2 (bounded_reduce op.level hx hlater))
      · obtain ⟨hsettled, hrest⟩ := bounded_settle hx h
        exact bounds_closeOperand ht hk hsettled hrest

/-- A token within the limits leads to a reader within the limits, whose lists may be longer by
one. -/
theorem bounds_feed {r : Reader} (hr : r.Bounded k) (ht : Admits r t heredoc)
    (hk : k + 1 ≤ itemLimit) : Bounds (k + 1) (r.feed heredoc t) := by
  obtain ⟨operand, frames⟩ := r
  cases operand with
  | none => exact bounds_feedOpen ht hk hr.frames
  | some x => exact bounds_feedAfter ht hk (hr.operand x rfl) hr.frames

end Steps

end Reader

end ResourceTables.Native
