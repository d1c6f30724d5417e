import Mathlib.Logic.Relation
import ResourceTables.Proofs.Sources.Ahead
import ResourceTables.Proofs.Sources.Lockstep

/-!
# Reading a value once more

What is read from the first token of a value to its last is read again where the value stands alone
in front of the end of a line: each token is told by what the reader accepts and by the characters up
to the end of the value.

* `readFrom_drop`, `readFrom_take`: one step of reading;
* `Reading.Step`: one step inside of an expression;
* `Reading.Steps.ahead`: behind a token that ends no operand the next one ends within the expression;
* `gives_of_steps`: the same steps are made in the other copy of the text;
* `rereads_of_steps`: the value is read again as the value of an attribute.
-/

namespace ResourceTables.Native

/-! ## One step -/

/-- The token is dropped. -/
def Newlines.Drops (s : Newlines) (t : Token) : Prop :=
  t.kind.ignored = true ∨ t.kind = .newline ∧ s.endsItem = false

section Reading

variable {form : Form} {first : Pos} {fuel : Nat} {s : Newlines} {r r₁ : Reader} {m : Mark}
  {t : Token} {accepted : List Kind}

theorem isEmpty_of_nextToken? (ht : nextToken? accepted m = some t) : m.rest.isEmpty = false := by
  obtain ⟨n, -, hpos, hn⟩ := exists_length ht
  rw [List.isEmpty_eq_false_iff, ← List.length_pos_iff]
  omega

theorem readFrom_drop (ht : nextToken? r.accepts m = some t) (hdrop : s.Drops t) :
    readFrom (fuel + 1) form first s r m =
      readFrom fuel form first s r (m.advance (t.stop - m.offset)) := by
  rw [readFrom, isEmpty_of_nextToken? ht, ht]
  rcases hdrop with hk | ⟨hk, hends⟩
  · simp only [hk, if_true, Bool.false_eq_true, if_false]
  · have hstep : s.step t = ([], s) := by simp [Newlines.step, hk, hends]
    simp only [hk, hstep, Kind.ignored, Reader.feedAll, Bool.false_eq_true, if_false]

theorem readFrom_take (ht : nextToken? r.accepts m = some t) (hk : t.kind.ignored = false)
    (hfeed : r.feedAll (heredocParts (fun m => readFrom fuel .template m.pos {} Reader.template m) t)
      (s.step t).1 = .ok r₁) :
    readFrom (fuel + 1) form first s r m =
      readFrom fuel form first (s.step t).2 r₁ (m.advance (t.stop - m.offset)) := by
  rw [readFrom, isEmpty_of_nextToken? ht, ht]
  simp only [hk, hfeed, Bool.false_eq_true, if_false]

/-- Behind a token stands what its characters leave. -/
theorem exists_rest (ht : nextToken? accepted m = some t) :
    ∃ v, v ≠ [] ∧ m.rest = v ++ (m.advance (t.stop - m.offset)).rest ∧
      t.stop = m.offset + v.length ∧ (m.advance (t.stop - m.offset)).offset = t.stop := by
  obtain ⟨n, htoken, hpos, hn⟩ := exists_length ht
  have hstop : t.stop = m.offset + n := by rw [htoken]; rfl
  have htaken : (m.rest.take n).length = n := List.length_take_of_le hn
  rw [hstop, Nat.add_sub_cancel_left, Mark.advance_offset hn, Mark.advance_rest]
  refine ⟨m.rest.take n, ?_, (List.take_append_drop n m.rest).symm, by rw [htaken], rfl⟩
  rw [← List.length_pos_iff, htaken]
  exact hpos

theorem offset_next (ht : nextToken? accepted m = some t) :
    (m.advance (t.stop - m.offset)).offset = t.stop := by
  obtain ⟨-, -, -, -, hoffset⟩ := exists_rest ht
  exact hoffset

end Reading

/-! ## The steps of an expression -/

/-- Where reading stands. -/
structure Reading where
  /-- What decides about the next newline. -/
  newlines : Newlines
  /-- What has been read. -/
  reader : Reader
  /-- What is left to be read. -/
  mark : Mark

namespace Reading

/-- One step inside of an expression around which `n` brackets are open: a token is dropped, or the
reader takes it and no newline with it. -/
inductive Step (n : Nat) : Reading → Reading → Prop
  | drop {s r m t} (hr : ∀ items outer, r.frames ≠ .template items :: outer)
      (ht : nextToken? r.accepts m = some t) (hdrop : s.Drops t) :
      Step n ⟨s, r, m⟩ ⟨s, r, m.advance (t.stop - m.offset)⟩
  | take {s s' r r₁ m t fuel} (hr : ∀ items outer, r.frames ≠ .template items :: outer)
      (ht : nextToken? r.accepts m = some t) (hfuel : t.stop - m.offset ≤ fuel)
      (hk : t.kind.ignored = false) (hnewline : t.kind ≠ .newline) (hstep : s.step t = ([t], s'))
      (hcloses : Newlines.closes t.kind = true → n < s.brackets.length)
      (hfeed : r.feed (heredocParts (fun m => readFrom fuel .template m.pos {} Reader.template m) t)
        t = some r₁) :
      Step n ⟨s, r, m⟩ ⟨s', r₁, m.advance (t.stop - m.offset)⟩

/-- Any number of steps inside of an expression. -/
def Steps (n : Nat) : Reading → Reading → Prop :=
  Relation.ReflTransGen (Step n)

variable {n : Nat} {a b : Reading}

theorem Step.exists_rest (h : Step n a b) :
    ∃ v, v ≠ [] ∧ a.mark.rest = v ++ b.mark.rest ∧ b.mark.offset = a.mark.offset + v.length := by
  obtain ⟨t, ht, hmark⟩ : ∃ t, nextToken? a.reader.accepts a.mark = some t ∧
      b.mark = a.mark.advance (t.stop - a.mark.offset) := by
    cases h with
    | drop hr ht hdrop => exact ⟨_, ht, rfl⟩
    | take hr ht hfuel hk hnewline hstep hcloses hfeed => exact ⟨_, ht, rfl⟩
  obtain ⟨v, hne, hrest, hstop, hoffset⟩ := Native.exists_rest ht
  rw [hmark]
  exact ⟨v, hne, hrest, hoffset.trans hstop⟩

theorem Steps.exists_rest (h : Steps n a b) :
    ∃ v, a.mark.rest = v ++ b.mark.rest ∧ b.mark.offset = a.mark.offset + v.length := by
  induction h using Relation.ReflTransGen.head_induction_on with
  | refl => exact ⟨[], rfl, rfl⟩
  | head hstep _ ih =>
    obtain ⟨v, -, hv, hoffset⟩ := hstep.exists_rest
    obtain ⟨w, hw, hoffset'⟩ := ih
    refine ⟨v ++ w, by rw [hv, hw, List.append_assoc], ?_⟩
    rw [hoffset', hoffset, List.length_append, Nat.add_assoc]

theorem Steps.offset_le (h : Steps n a b) : a.mark.offset ≤ b.mark.offset := by
  obtain ⟨v, -, hoffset⟩ := h.exists_rest
  omega

/-- A step takes at least one character. -/
theorem Step.offset_lt (h : Step n a b) : a.mark.offset < b.mark.offset := by
  obtain ⟨v, hne, -, hoffset⟩ := h.exists_rest
  have hpos := List.length_pos_iff.2 hne
  omega

/-- Where no operand is complete the next token ends within the expression. -/
theorem Steps.ahead (h : Steps n a b) (hnone : a.reader.operand = none)
    (hsome : b.reader.operand ≠ none) : a.reader.Ahead a.mark b.mark.offset := by
  cases h using Relation.ReflTransGen.head_induction_on with
  | refl => exact absurd hnone hsome
  | @head _ c hstep hrest =>
    have hle : c.mark.offset ≤ b.mark.offset := Steps.offset_le hrest
    cases hstep with
    | drop hr ht hdrop =>
      -- Behind a token that is dropped there is still no operand, so another token comes.
      have hlt := by
        cases hrest using Relation.ReflTransGen.head_induction_on with
        | refl => exact absurd hnone hsome
        | head hnext hmore => exact hnext.offset_lt.trans_le (Steps.offset_le hmore)
      rw [offset_next ht] at hlt
      exact ⟨_, ht, hlt.le, fun _ => hlt⟩
    | take hr ht hfuel hk hnewline hstep hcloses hfeed =>
      rw [offset_next ht] at hle
      exact ⟨_, ht, hle, fun hignored => by rw [hk] at hignored; cases hignored⟩

end Reading

/-! ## The same steps in the other copy -/

theorem Newlines.Drops.not_looksAhead {s : Newlines} {t : Token} (h : s.Drops t) :
    ¬ t.kind.LooksAhead := by
  rintro (hk | hk | hk) <;> simp [Newlines.Drops, Kind.ignored, hk] at h

theorem Newlines.Drops.like {outer : List Bracket} {s s' : Newlines} {t t' : Token}
    (h : s.Drops t) (hs : s.Like outer s') (ht : t'.kind = t.kind)
    (houter : ∀ b ∈ outer, b = .block) : s'.Drops t' := by
  rwa [Newlines.Drops, ht, hs.endsItem houter]

section Copying

variable {c : Copies} {base base' : List Frame} {outer : List Bracket} {first : Pos}
  {Q : Except ReadError Reader → Prop} {k : Nat} {r r' r₁ : Reader} {m m' : Mark} {t : Token}

open Copies

/-- The same token comes next in front of the end of the line. -/
theorem Copies.At.nextToken? (parts : Draft (List Part)) (hm : c.At k m m')
    (hbehind : c.behind' = ['\n']) (hbase : Grounds base base') (hr : c.Readers base base' r r')
    (hopen : ∀ items outer, r.frames ≠ .template items :: outer)
    (ht : nextToken? r.accepts m = some t) (hstop : t.stop ≤ c.before + c.text.length)
    (hnext : t.kind.LooksAhead → ∃ r₁, r.feed parts t = some r₁ ∧
      r₁.Ahead (m.advance (t.stop - m.offset)) (c.before + c.text.length)) :
    Native.nextToken? r'.accepts m' = some (t.movedTo m') := by
  have hend : m.offset + (c.text.drop k).length = c.before + c.text.length := by
    have hoffset := hm.offset
    have hk := hm.le
    rw [List.length_drop]
    omega
  rw [hr.accepts hbase]
  exact Reader.nextToken?_ahead ht hm.rest (hbehind ▸ hm.rest') (hend ▸ hstop) hopen (hend ▸ hnext)

/-- What is let through for a token that the first reader takes alone is taken by the second. -/
theorem Copies.Readers.take {s s₁ s' : Newlines} {t' : Token} {parts parts' : Draft (List Part)}
    (hr : c.Readers base base' r r') (hbase : Grounds base base') (hs : s.Like outer s')
    (houter : ∀ b ∈ outer, b = .block) (ht : c.Tokens t t')
    (hparts : Echoes (List.map Part.unplaced) parts parts') (hnewline : t.kind ≠ .newline)
    (hstep : s.step t = ([t], s₁))
    (hcloses : Newlines.closes t.kind = true → outer.length < s.brackets.length)
    (hfeed : r.feed parts t = some r₁) :
    s₁.Like outer (s'.step t').2 ∧
      ∃ r₁', r'.feedAll parts' (s'.step t').1 = .ok r₁' ∧ c.Readers base base' r₁ r₁' := by
  have hone : (s.step t).1 = [t] := congrArg Prod.fst hstep
  have hnext : (s.step t).2 = s₁ := congrArg Prod.snd hstep
  rw [← hnext]
  refine feeds_step hbase hs hr ht hparts houter (fun hclose => ?_)
    (fun hk => absurd hk hnewline) (fun before _ hbefore => ?_) ?_
  · have hlt := hcloses hclose
    rw [hs.brackets, List.length_append] at hlt
    exact .inr (List.ne_nil_of_length_pos (by omega))
  · -- One token is let through, not two.
    have hlength := congrArg List.length (hone.symm.trans hbefore)
    simp at hlength
  · rw [hone]
    simp only [Reader.feedAll, hfeed]

/-- What is read of the first copy up to the end of an operand is read of the second, which stands
in front of the end of a line. The induction is on the steps that are left, since the last of them
tell how far the tokens before them look ahead. -/
theorem gives_of_steps {a b : Reading} (hbehind : c.behind' = ['\n']) (hbase : Grounds base base')
    (houter : ∀ b ∈ outer, b = .block) (hsteps : Reading.Steps outer.length a b)
    (hsome : b.reader.operand ≠ none) (hend : b.mark.offset = c.before + c.text.length)
    (h : ∀ s' r' m', b.newlines.Like outer s' → c.Readers base base' b.reader r' →
      c.At c.text.length b.mark m' → Gives .file first Q s' r' m') {s' : Newlines}
    (hs : a.newlines.Like outer s') (hr : c.Readers base base' a.reader r')
    (hm : c.At k a.mark m') : Gives .file first Q s' r' m' := by
  induction hsteps using Relation.ReflTransGen.head_induction_on generalizing k s' r' m' with
  | refl =>
    have hoffset := hm.offset
    obtain rfl : k = c.text.length := by omega
    exact h _ _ _ hs hr hm
  | head hstep hrest ih =>
    have hle := Reading.Steps.offset_le hrest
    rw [hend] at hle
    intro fuel hfuel
    cases fuel with
    | zero => cases hfuel
    | succ fuel =>
      cases hstep with
      | drop hopen ht hdrop =>
        have hstop := offset_next ht ▸ hle
        obtain ⟨hnext, hlt⟩ := hm.next ht hstop
        have ht' := hm.nextToken? (.ok []) hbehind hbase hr hopen ht hstop
          fun hlooks => absurd hlooks hdrop.not_looksAhead
        rw [readFrom_drop ht' (hdrop.like hs rfl houter)]
        exact ih hs hr hnext fuel (by omega)
      | @take _ _ _ _ _ _ fuel₁ hopen ht hfuel₁ hk hnewline hstep hcloses hfeed =>
        have hstop := offset_next ht ▸ hle
        obtain ⟨hnext, hlt⟩ := hm.next ht hstop
        -- What the token is told by is in front of the end, since no operand is complete behind it.
        have ht' := hm.nextToken? _ hbehind hbase hr hopen ht hstop fun hlooks =>
          ⟨_, hfeed, hend ▸ Reading.Steps.ahead hrest
            (Reader.operand_of_looksAhead hlooks hfeed) hsome⟩
        -- The fuel is enough for the template of a heredoc in this copy as well.
        have hroom := (stop_movedTo ht m' ▸ stop_sub_le ht').trans (Nat.le_of_lt_succ hfuel)
        have hparts := (repeats fuel₁).echoes_heredocParts m' ht hfuel₁ hroom
        obtain ⟨hs, r₁', hfeed', hr⟩ := hr.take hbase hs houter (hm.tokens ht hstop) hparts
          hnewline hstep hcloses hfeed
        rw [readFrom_take ht' hk hfeed']
        exact ih hs hr hnext fuel (by omega)

end Copying

/-! ## The value of an attribute -/

/-- An expression does not begin with a blank. -/
theorem isBlankChar_of_nextToken? {m : Mark} {t : Token} {c : Char} {cs : List Char}
    (ht : nextToken? operandKinds m = some t) (hk : t.kind.ignored = false)
    (hm : m.rest = c :: cs) : isBlankChar c = false := by
  by_contra hblank
  rw [Bool.not_eq_false] at hblank
  -- A blank would be cut off first, and it is ignored.
  have hfirst : firstToken? (allows operandKinds) (c :: cs) =
      some (.blank, Kind.blank.lengthAt (c :: cs)) := by
    refine firstToken?_eq [.callName, .textChars, .templateChars, .heredoc, .number, .name,
      .lineComment, .blockComment] _ rfl ?_ rfl rfl ?_
    · simp only [isBlankChar, isGap, Bool.or_eq_true, beq_iff_eq] at hblank
      intro k hk hallowed
      simp only [List.mem_cons, List.not_mem_nil, or_false] at hk
      rcases hk with rfl | rfl | rfl | rfl | rfl | rfl | rfl | rfl
      case inr.inl | inr.inr.inl => cases hallowed
      all_goals rcases hblank with ((rfl | rfl) | rfl) | rfl <;> rfl
    · have hone : Kind.blank.lengthAt (c :: cs) = countWhile isBlankChar cs + 1 := if_pos hblank
      rw [hone]
      exact Nat.succ_ne_zero _
  rw [← hm] at hfirst
  rw [nextToken?_eq hfirst (by rintro ⟨⟩)] at ht
  cases ht
  cases hk

theorem Copies.Stacks.eq_base {c : Copies} {name : Token} {outer base' fs' : List Frame}
    (h : c.Stacks (.attribute name :: outer) base' (.attribute name :: outer) fs') : fs' = base' := by
  cases h with
  | base => rfl
  | cons hf => cases hf

/-- Behind an equals sign and within `n` blocks, the first token of a value comes next. -/
structure Reading.Begins (n : Nat) (s : Newlines) (m : Mark) : Prop where
  /-- Nothing but blocks is open. -/
  brackets : s.brackets = List.replicate n .block
  /-- The equals sign came last. -/
  last : s.last.map Token.kind = some .equal
  /-- What comes next is not dropped. -/
  token : ∃ t, nextToken? operandKinds m = some t ∧ t.kind.ignored = false

/-- The value of an attribute is read again from its source text. -/
theorem rereads_of_steps (id : Identifier) {n : Nat} {s₀ s : Newlines} {m₀ m : Mark}
    {name l : Token} {x y : Operand} {frames outer : List Frame} {e : Expr}
    (hbegins : Reading.Begins n s₀ m₀)
    (hsteps : Reading.Steps n ⟨s₀, ⟨none, .attribute name :: outer⟩, m₀⟩ ⟨s, ⟨some x, frames⟩, m⟩)
    (hbrackets : s.brackets = List.replicate n .block) (hlast : s.last = some l)
    (hl : l.kind ≠ .newline)
    (hsettle : Reader.settle x frames = (y, .attribute name :: outer)) (he : y.expr = .ok e)
    (hstart : y.start = m₀) (hstop : y.stop = m.offset) (hspans : y.Spans) (file : String) :
    ∃ e', parse file (id.text ++ " = " ++ e.source ++ "\n") =
      .ok (.native [.attribute ⟨id.text, e', ⟨file, 1, 1⟩⟩]) ∧ e'.unplaced = e.unplaced := by
  obtain ⟨t₀, ht₀, hk₀⟩ := hbegins.token
  obtain ⟨v, hv, hoffset⟩ := hsteps.exists_rest
  dsimp only at hv hoffset
  have hsource : e.source = String.ofList v := by
    rw [Expr.source, hspans e he, hstart, hstop, hoffset, Mark.originTo, hv,
      Nat.add_sub_cancel_left, List.take_left]
  have htext : id.text ++ " = " ++ e.source ++ "\n" =
      String.ofList (id.chars ++ ' ' :: '=' :: ' ' :: (v ++ lineEnd true)) := by
    rw [hsource, Identifier.text, ← String.toList_inj]
    simp [lineEnd]
  rw [htext]
  refine parse_named id file true (fun d hd => ?_) fun first Q name' last m' hkind hm' hnext => ?_
  · obtain ⟨more, rfl⟩ := List.head?_eq_some_iff.1 hd
    exact isBlankChar_of_nextToken? ht₀ hk₀ hv
  -- The value as it stands in the file, and as it stands in front of the end of the line.
  let c : Copies := ⟨v, m₀.offset, m.rest, m'.offset, ['\n']⟩
  have hbase : Copies.Grounds (.attribute name :: outer) [.attribute name', .file []] :=
    .inr ⟨rfl, rfl⟩
  have hstarts : c.At 0 m₀ m' := ⟨Nat.zero_le _, rfl, hv, rfl, hm'⟩
  have hlike : s₀.Like (List.replicate n .block) ⟨[], some last⟩ :=
    ⟨hbegins.brackets, hbegins.last ▸ congrArg some hkind⟩
  rw [← List.length_replicate (n := n) (a := Bracket.block)] at hsteps
  refine gives_of_steps (c := c) rfl hbase (fun b hb => List.eq_of_mem_replicate hb) hsteps
    (by rintro ⟨⟩) hoffset ?_ hlike ⟨.none, .base⟩ hstarts
  rintro ⟨brackets', last'⟩ ⟨operand', frames'⟩ m'' hs ⟨hoperand, hframes⟩ hm
  cases hoperand with
  | @some _ x' hx =>
    obtain ⟨hy, hbody⟩ := Copies.settled_settle hbase hx hframes
    rw [hsettle] at hy hbody
    obtain ⟨e', he', hsame⟩ := hy.expr.exists_ok he
    -- Both copies have the same brackets open, and none are open around the second.
    have hnone : [] ++ List.replicate n .block = brackets' ++ List.replicate n .block :=
      hbrackets.symm.trans hs.brackets
    have hlast' : last'.map Token.kind = some l.kind := by
      rw [← Option.map_some, ← hlast]
      exact hs.last
    obtain ⟨l', rfl, hl'⟩ := Option.map_eq_some_iff.1 hlast'
    rw [← List.append_cancel_right hnone]
    exact hnext _ _ e' _ l' m'' (Prod.ext rfl hbody.eq_base) he' hsame (hl' ▸ hl)
      (hm.rest'.trans (by rw [List.drop_length]; rfl))

end ResourceTables.Native
