import ResourceTables.Proofs.Sources.Cuts
import ResourceTables.Proofs.Sources.Extents

/-!
# Looking ahead

Three kinds of tokens are told by what stands behind them: the name of a function has a parenthesis
behind it, literal characters end where a sequence or a quote begins, and an angle bracket begins no
heredoc. What stands behind them is the next token, so if that is in front of a cut too, the token
comes next before and after the cut.

* `Reader.Ahead`: the next token ends before an offset;
* `Reader.operand_of_looksAhead`: none of these tokens ends an expression;
* `Reader.nextToken?_ahead`: the token that comes next when the text behind is cut off.
-/

namespace ResourceTables.Native

/-- The kinds of tokens that are told by what stands behind them. -/
def Kind.LooksAhead (k : Kind) : Prop :=
  k = .callName ∨ k = .textChars ∨ k = .operator .lt

namespace Reader

/-- The next token ends before the offset; blanks and comments do not end at it either. -/
def Ahead (r : Reader) (m : Mark) (stop : Nat) : Prop :=
  ∃ t, nextToken? r.accepts m = some t ∧ t.stop ≤ stop ∧ (t.kind.ignored = true → t.stop < stop)

section Feeding

variable {r r₁ : Reader} {t : Token} {parts : Draft (List Part)} {frames : List Frame}
  {x : Operand}

theorem beginOperand_callName (hk : t.kind = .callName) :
    beginOperand frames t parts = inside (.callee t :: frames) := by
  unfold beginOperand
  rw [hk]

/-- The name of a function is read where an operand can begin. -/
theorem feed_callName (hk : t.kind = .callName) (h : r.feed parts t = some r₁) :
    ∃ fs, r₁ = ⟨none, .callee t :: fs⟩ := by
  -- Only where an operand can begin is the token taken.
  have hopen : ∀ frames, feedOpen frames t parts = some r₁ →
      ∃ fs, r₁ = ⟨none, .callee t :: fs⟩ := by
    intro frames h
    unfold feedOpen at h
    split at h
    · cases h
    · split at h
      all_goals try
        simp_all [feedTemplate, feedDirective]
        done
      split at h
      · rw [beginOperand_callName hk] at h
        exact ⟨_, (Option.some.inj h).symm⟩
      · cases h
  unfold feed at h
  split at h
  · unfold feedAfter at h
    split at h
    · exact hopen _ h
    · simp only [hk, operatorOf?] at h
      unfold closeOperand at h
      split at h
      · cases h
      · split at h
        all_goals try
          simp_all [closeOperand.feedDirectiveEnd]
          done
        rw [beginOperand_callName hk] at h
        exact ⟨_, (Option.some.inj h).symm⟩
  · exact hopen _ h

/-- An angle bracket is read behind an operand. -/
theorem feed_lt (hk : t.kind = .operator .lt) (h : r.feed parts t = some r₁) :
    ∃ y fs, r₁ = ⟨none, .binary y .lt :: fs⟩ := by
  have hopen : ∀ frames, feedOpen frames t parts = none := by
    intro frames
    unfold feedOpen
    split
    · rfl
    · split
      all_goals simp_all [feedTemplate, feedDirective, beginOperand]
  unfold feed at h
  split at h
  · unfold feedAfter at h
    split at h
    · rw [hopen] at h
      cases h
    · simp only [hk, operatorOf?] at h
      exact ⟨_, _, (Option.some.inj h).symm⟩
  · rw [hopen] at h
    cases h

/-- Literal characters are read between quotes, or in a template. -/
theorem feed_textChars (hk : t.kind = .textChars) (h : r.feed parts t = some r₁) :
    r₁.operand = none ∧ r₁.accepts = r.accepts := by
  obtain ⟨operand, frames⟩ := r
  cases operand with
  | some x =>
    -- Behind an operand the token is not taken.
    have hafter : feedAfter x frames t parts = some r₁ := h
    unfold feedAfter at hafter
    split at hafter
    · simp [feedOpen, hk, Frame.awaitsOperand] at hafter
    · simp only [hk, operatorOf?] at hafter
      unfold closeOperand at hafter
      split at hafter
      · cases hafter
      · split at hafter
        all_goals simp_all [closeOperand.feedDirectiveEnd, beginOperand]
  | none =>
    have hopen : feedOpen frames t parts = some r₁ := h
    unfold feedOpen at hopen
    split at hopen
    · cases hopen
    · split at hopen
      all_goals try
        simp_all [feedDirective, beginOperand]
        done
      all_goals
        simp only [feedTemplate, hk, addTemplateItem] at hopen
        cases hopen
        exact ⟨rfl, rfl⟩

theorem operand_of_looksAhead (hk : t.kind.LooksAhead) (h : r.feed parts t = some r₁) :
    r₁.operand = none := by
  rcases hk with hk | hk | hk
  · obtain ⟨fs, rfl⟩ := feed_callName hk h
    rfl
  · exact (feed_textChars hk h).1
  · obtain ⟨y, fs, rfl⟩ := feed_lt hk h
    rfl

end Feeding

section Looking

variable {r r₁ : Reader} {m m' : Mark} {t : Token} {v w : List Char} {accepted : List Kind}
  {parts : Draft (List Part)}

/-- What a reader accepts, apart from templates on their own: what can stand behind an operand, or
between quotes, or neither literal characters nor angle brackets. -/
theorem accepts_cases (h : ∀ items outer, r.frames ≠ .template items :: outer) :
    r.accepts = afterOperandKinds ∨ r.accepts = [.openDirective, .openInterp, .quote, .textChars] ∨
      allows r.accepts .textChars = false ∧ allows r.accepts .templateChars = false ∧
        allows r.accepts (.operator .lt) = false := by
  obtain ⟨operand, frames⟩ := r
  cases operand with
  | some x => exact .inl rfl
  | none =>
    cases frames with
    | nil => exact .inr (.inr ⟨rfl, rfl, rfl⟩)
    | cons f outer =>
      cases f with
      | template items => exact absurd rfl (h items outer)
      | quoted start items => exact .inr (.inl rfl)
      | file items | tuple _ items | key _ items | header _ items =>
        cases items <;> exact .inr (.inr ⟨rfl, rfl, rfl⟩)
      | interp before | directive before => cases before <;> exact .inr (.inr ⟨rfl, rfl, rfl⟩)
      | directiveEnd _ _ _ settled => cases settled <;> exact .inr (.inr ⟨rfl, rfl, rfl⟩)
      | _ => exact .inr (.inr ⟨rfl, rfl, rfl⟩)

/-! ### Names of functions -/

/-- The parenthesis behind the name of a function is the next token, or behind the next one. -/
theorem paren_mem (ht : nextToken? accepted m = some t) (hm : m.rest = v ++ w)
    (hk : t.kind = .callName) (haccepts : r₁.accepts = [.openParen])
    (hahead : r₁.Ahead (m.advance (t.stop - m.offset)) (m.offset + v.length)) : '(' ∈ v := by
  obtain ⟨htoken, hne, -⟩ := length_of_nextToken? ht (by rw [hk]; rfl)
  rw [hk] at htoken hne
  generalize hn : Kind.callName.lengthAt m.rest = n at htoken hne
  have hle : n ≤ m.rest.length := hn ▸ Kind.lengthAt_le _ _
  have hlast : t.stop - m.offset = n := by rw [htoken, Mark.stop_token]
  have hcall : callNameLength m.rest = n := hn
  obtain ⟨gap, rest, hgap, hdrop⟩ := exists_paren (hn ▸ hne)
  rw [hcall] at hdrop
  obtain ⟨t₁, ht₁, hstop, hstrict⟩ := hahead
  rw [haccepts, hlast] at ht₁
  have hrest : (m.advance n).rest = gap ++ '(' :: rest := (Mark.advance_rest n m).trans hdrop
  have hoffset : (m.advance n).offset = m.offset + n := Mark.advance_offset hle
  -- The parenthesis is in front of the cut.
  have hlt : n + gap.length < v.length := by
    by_cases hempty : gap = []
    · subst hempty
      obtain ⟨k, htoken₁, hpos, -⟩ := exists_length ht₁
      have hstop₁ : t₁.stop = (m.advance n).offset + k := by rw [htoken₁]; rfl
      rw [List.length_nil]
      omega
    · have hblank : nextToken? [.openParen] (m.advance n) =
          some ((m.advance n).token .blank gap.length) := by
        refine nextToken?_eq ?_ (by rintro ⟨⟩)
        rw [hrest]
        exact firstToken?_blanks hempty hgap (by rintro _ ⟨⟩; rfl) rfl rfl
      rw [hblank] at ht₁
      cases ht₁
      have hstop₁ : (m.advance n).offset + gap.length < m.offset + v.length := hstrict rfl
      omega
  have hdrop' : v.drop (n + gap.length) ++ w = '(' :: rest := by
    rw [← List.drop_append_of_le_length hlt.le, ← hm, ← List.drop_drop, hdrop, List.drop_left]
  cases hv : v.drop (n + gap.length) with
  | nil =>
    rw [List.drop_eq_nil_iff] at hv
    omega
  | cons c more =>
    rw [hv] at hdrop'
    obtain ⟨rfl, -⟩ := List.cons.inj hdrop'
    exact List.mem_of_mem_drop (i := n + gap.length) (by rw [hv]; exact List.mem_cons_self)

/-! ### Literal characters -/

/-- The kinds that literal characters end in front of. -/
def endsText : List Kind := [.openDirective, .openInterp, .quote, .newline]

theorem spelling_prefix {k : Kind} {cs : List Char} (hk : k.spelling ≠ []) (h : k.lengthAt cs ≠ 0) :
    k.spelling <+: cs ∧ k.lengthAt cs = k.spelling.length := by
  rw [Kind.lengthAt_spelling hk] at h ⊢
  split at h
  · next hstarts => exact ⟨List.isPrefixOf_iff_prefix.1 hstarts, if_pos hstarts⟩
  · exact absurd rfl h

/-- No literal characters come before the cut if one of these kinds does. -/
theorem textLength_of_ends {k : Kind} (hk : k ∈ endsText) (hne : k.lengthAt (v ++ w) ≠ 0)
    (hle : k.lengthAt (v ++ w) ≤ v.length) : textLength (v ++ ['\n']) = 0 := by
  have hspelling : k.spelling ≠ [] := by
    simp only [endsText, List.mem_cons, List.not_mem_nil, or_false] at hk
    rcases hk with rfl | rfl | rfl | rfl <;> simp [Kind.spelling]
  obtain ⟨hstarts, hlength⟩ := spelling_prefix hspelling hne
  obtain ⟨rest, rfl⟩ : k.spelling <+: v :=
    List.prefix_of_prefix_length_le hstarts (List.prefix_append v w) (hlength ▸ hle)
  simp only [endsText, List.mem_cons, List.not_mem_nil, or_false] at hk
  rcases hk with rfl | rfl | rfl | rfl <;> simp [Kind.spelling, textLength]

/-- Where no word is accepted, the next token is none. -/
theorem isWord_of_nextToken? (ht : nextToken? accepted m = some t)
    (hwords : accepted.any Kind.isWord = false) : t.kind.isWord = false := by
  obtain ⟨⟨k, n⟩, hfirst, rfl⟩ := Option.map_eq_some_iff.1 ht
  have hrefine := Kind.refine_eq (k := k) (m.rest.take n) fun _ => hwords
  obtain ⟨hallowed, -⟩ := of_firstToken? hfirst
  dsimp only
  rw [hrefine]
  by_contra hword
  rw [Bool.not_eq_false] at hword
  have hnot : accepted.contains k = false := by
    rw [← Bool.not_eq_true]
    intro hcontains
    exact List.any_eq_false.1 hwords k (List.contains_iff_mem.1 hcontains) hword
  rw [hnot, Bool.false_or] at hallowed
  cases k with
  | word | within => simp [Kind.ignored] at hallowed
  | _ => cases hword

/-- Between quotes a token that is no literal text ends it. -/
theorem mem_endsText (ht : nextToken? [.openDirective, .openInterp, .quote, .textChars] m = some t)
    (htext : t.kind ≠ .textChars) (hignored : t.kind.ignored = false) :
    t.kind ∈ endsText ∧ t.kind.lengthAt m.rest ≠ 0 ∧
      t.stop = m.offset + t.kind.lengthAt m.rest := by
  obtain ⟨htoken, hne, hallowed⟩ := length_of_nextToken? ht (isWord_of_nextToken? ht rfl)
  refine ⟨?_, hne, congrArg Token.stop htoken⟩
  simp only [allows, hignored, Bool.or_false, Bool.or_eq_true, List.contains_iff_mem, beq_iff_eq,
    List.mem_cons, List.not_mem_nil, or_false] at hallowed
  simp only [endsText, List.mem_cons, List.not_mem_nil, or_false]
  tauto

/-- Between quotes the literal characters end in the same place. -/
theorem textLength_ahead
    (ht : nextToken? [.openDirective, .openInterp, .quote, .textChars] m = some t)
    (hm : m.rest = v ++ w) (hstop : t.stop ≤ m.offset + v.length)
    (hnext : t.kind = .textChars → ∃ r₁ : Reader,
      r₁.accepts = [.openDirective, .openInterp, .quote, .textChars] ∧
        r₁.Ahead (m.advance (t.stop - m.offset)) (m.offset + v.length)) :
    textLength (v ++ ['\n']) = textLength (v ++ w) := by
  rcases nextToken?_quoted ht with ⟨hk, htoken⟩ | ⟨hzero, hignored, htext, -⟩
  · obtain ⟨r₁, haccepts, t₁, ht₁, hstop₁, -⟩ := hnext hk
    rw [haccepts] at ht₁
    generalize hn : textLength m.rest = n at htoken
    have hlast : t.stop - m.offset = n := by rw [htoken, Mark.stop_token]
    have hle : n ≤ v.length := by omega
    have hwhole : n ≤ m.rest.length := hn ▸ textLength_le _
    rw [hlast] at ht₁
    have hoffset : (m.advance n).offset = m.offset + n := Mark.advance_offset hwhole
    have hrest : (m.advance n).rest = v.drop n ++ w := by
      rw [Mark.advance_rest, hm, List.drop_append_of_le_length hle]
    have hzero : textLength (m.advance n).rest = 0 := by
      rw [Mark.advance_rest, ← hn]
      exact textLength_drop m.rest
    -- What comes behind the literal characters ends them, and it is in front of the cut.
    have hends : textLength (v.drop n ++ ['\n']) = 0 ∧ v.drop n ≠ [] := by
      rcases nextToken?_quoted ht₁ with ⟨-, htoken₁⟩ | ⟨-, hignored, htext, -⟩
      · obtain ⟨k, htoken', hpos, -⟩ := exists_length ht₁
        rw [hzero] at htoken₁
        have hsame : t₁.stop = (m.advance n).offset + 0 := congrArg Token.stop htoken₁
        have hother : t₁.stop = (m.advance n).offset + k := congrArg Token.stop htoken'
        omega
      · obtain ⟨hends, hne, hstop'⟩ := mem_endsText ht₁ htext hignored
        rw [hrest] at hne hstop'
        have hfits : t₁.kind.lengthAt (v.drop n ++ w) ≤ (v.drop n).length := by
          rw [List.length_drop]
          omega
        refine ⟨textLength_of_ends hends hne hfits, ?_⟩
        rw [← List.length_pos_iff]
        omega
    obtain ⟨hcut, hne⟩ := hends
    have hsplit : v.take n ++ (v.drop n ++ w) = v ++ w := by
      rw [← List.append_assoc, List.take_append_drop]
    have hlength : (v.take n).length = n := List.length_take_of_le hle
    have htaken : textLength (v.take n ++ (v.drop n ++ w)) = (v.take n).length := by
      rw [hsplit, ← hm, hn, hlength]
    have hhead : (v.drop n ++ ['\n']).head? = (v.drop n ++ w).head? := by
      rw [List.head?_append_of_ne_nil _ hne, List.head?_append_of_ne_nil _ hne]
    have hagain := textLength_cut htaken hhead hcut
    rw [← List.append_assoc, List.take_append_drop] at hagain
    rw [hagain, hlength, ← hm, hn]
  · obtain ⟨hends, hne, hlast⟩ := mem_endsText ht htext hignored
    rw [hm] at hne hlast hzero
    rw [hzero]
    exact textLength_of_ends hends hne (by omega)

/-! ### Heredocs -/

/-- Where no heredoc and no literal characters come next, an angle bracket is an operator. -/
theorem kind_of_angle {cs : List Char} (ht : nextToken? accepted m = some t)
    (hrest : m.rest = '<' :: cs) (hheredoc : heredocLength m.rest = 0)
    (htext : allows accepted .textChars = false)
    (htemplate : allows accepted .templateChars = false) :
    (t.kind = .operator .lt ∨ t.kind = .operator .le ∧ cs.head? = some '=') ∧
      allows accepted t.kind = true := by
  obtain ⟨⟨k, n⟩, hfirst, rfl⟩ := Option.map_eq_some_iff.1 ht
  obtain ⟨hallowed, hlength, hne⟩ := of_firstToken? hfirst
  rw [← hlength, hrest] at hne
  rw [hrest] at hheredoc
  have hkind : k = .operator .lt ∨ k = .operator .le ∧ cs.head? = some '=' := by
    -- Tokens without a spelling of their own begin with other characters, or are ruled out.
    by_cases hspelling : k.spelling = []
    · cases k with
      | textChars =>
        rw [show allows accepted .textChars = true from hallowed] at htext
        cases htext
      | templateChars =>
        rw [show allows accepted .templateChars = true from hallowed] at htemplate
        cases htemplate
      | heredoc => exact absurd hheredoc hne
      | number =>
        have hnone : Decimal.literalLength ('<' :: cs) = 0 := literalLength_of_not_digit rfl
        exact absurd hnone hne
      | name | callName | digits | blank | lineComment | blockComment => exact absurd rfl hne
      | word w => cases w <;> exact absurd hspelling (by decide)
      | operator op => cases op <;> exact absurd hspelling (by decide)
      | _ => exact absurd hspelling (List.cons_ne_nil _ _)
    · obtain ⟨hstarts, -⟩ := spelling_prefix hspelling hne
      obtain ⟨more, hmore⟩ := hstarts
      cases k with
      | operator op =>
        cases op
        case lt => exact .inl rfl
        case le =>
          obtain ⟨-, rfl⟩ := List.cons.inj hmore
          exact .inr ⟨rfl, rfl⟩
        all_goals cases hmore
      | word w => cases w <;> cases hmore
      | _ => first | exact absurd rfl hspelling | cases hmore
  have hrefine : k.refine accepted (m.rest.take n) = k := by
    refine Kind.refine_eq _ ?_
    rintro rfl
    rcases hkind with hkind | ⟨hkind, -⟩ <;> cases hkind
  dsimp only
  rw [hrefine]
  exact ⟨hkind, hallowed⟩

/-- No heredoc begins in front of the cut where none begins in the whole text. -/
theorem heredocLength_ahead (ht : nextToken? r.accepts m = some t) (hm : m.rest = v ++ w)
    (hzero : heredocLength (v ++ w) = 0) (hstop : t.stop ≤ m.offset + v.length)
    (htemplate : ∀ items outer, r.frames ≠ .template items :: outer)
    (hheredoc : allows r.accepts .heredoc = true)
    (hnext : t.kind = .operator .lt → ∃ r₁ : Reader, r₁.accepts = operandKinds ∧
      r₁.Ahead (m.advance (t.stop - m.offset)) (m.offset + v.length)) :
    heredocLength (v ++ ['\n']) = 0 := by
  by_contra hne
  obtain ⟨c, rest, hcut, hangle, hnewline⟩ := exists_of_heredocLength hne
  -- What tells the header stands in front of the cut, since it is no newline.
  obtain ⟨more, rfl⟩ : ∃ more, v = '<' :: '<' :: c :: more := by
    match v with
    | [] => cases hcut
    | [_] => cases hcut
    | [_, _] =>
      cases hcut
      exact absurd rfl hnewline
    | _ :: _ :: _ :: more =>
      cases hcut
      exact ⟨more, rfl⟩
  rw [← hm] at hzero
  rcases accepts_cases htemplate with haccepts | haccepts | ⟨htext, htempl, hlt⟩
  · -- The token is the first of the two brackets, and no operand begins with the second.
    rw [haccepts] at ht
    obtain ⟨hk, -⟩ := kind_of_angle ht hm hzero rfl rfl
    have hk : t.kind = .operator .lt := hk.resolve_right fun hle => by cases hle.2
    obtain ⟨htoken, -, -⟩ := length_of_nextToken? ht (by rw [hk]; rfl)
    have hlength : t.kind.lengthAt m.rest = 1 := by
      rw [hk, hm]
      rfl
    have hlast : t.stop - m.offset = 1 := by
      rw [htoken, Mark.stop_token, hlength]
    obtain ⟨r₁, haccepts₁, t₁, ht₁, -, -⟩ := hnext hk
    rw [haccepts₁, hlast] at ht₁
    have hrest : (m.advance 1).rest = '<' :: c :: (more ++ w) := by
      rw [Mark.advance_rest, hm]
      rfl
    have hnone : heredocLength (m.advance 1).rest = 0 := by
      by_contra hne₁
      obtain ⟨_, _, heq, -, -⟩ := exists_of_heredocLength hne₁
      rw [hrest] at heq
      exact hangle (List.cons.inj (List.cons.inj heq).2).1
    obtain ⟨hkind₁ | ⟨hkind₁, -⟩, hallowed₁⟩ := kind_of_angle ht₁ hrest hnone rfl rfl <;>
      rw [hkind₁] at hallowed₁ <;> cases hallowed₁
  · rw [haccepts] at hheredoc
    cases hheredoc
  · obtain ⟨hk | ⟨-, hhead⟩, hallowed⟩ := kind_of_angle ht hm hzero htext htempl
    · rw [hk, hlt] at hallowed
      cases hallowed
    · cases hhead

/-! ### The next token -/

/-- The token that comes next comes next in front of a cut as well, if what it is told by is in front
of the cut. -/
theorem nextToken?_ahead (ht : nextToken? r.accepts m = some t) (hm : m.rest = v ++ w)
    (hm' : m'.rest = v ++ ['\n']) (hstop : t.stop ≤ m.offset + v.length)
    (htemplate : ∀ items outer, r.frames ≠ .template items :: outer)
    (hnext : t.kind.LooksAhead → ∃ r₁, r.feed parts t = some r₁ ∧
      r₁.Ahead (m.advance (t.stop - m.offset)) (m.offset + v.length)) :
    nextToken? r.accepts m' = some (t.movedTo m') := by
  have hplain : allows r.accepts .templateChars = false := by
    rcases accepts_cases htemplate with haccepts | haccepts | ⟨-, hnone, -⟩
    · rw [haccepts]
      rfl
    · rw [haccepts]
      rfl
    · exact hnone
  -- Three kinds of tokens are told by what comes behind them.
  refine nextToken?_cut ht hm hm' hstop ?_ ?_ hplain ?_
  · intro hk
    obtain ⟨r₁, hfeed, hahead⟩ := hnext (.inl hk)
    obtain ⟨fs, rfl⟩ := feed_callName hk hfeed
    exact paren_mem ht hm hk rfl hahead
  · intro htext
    rcases accepts_cases htemplate with haccepts | haccepts | ⟨hnone, -, -⟩
    · rw [haccepts] at htext
      cases htext
    · rw [haccepts] at ht
      by_cases hk : t.kind = .textChars
      · obtain ⟨r₁, hfeed, hahead⟩ := hnext (.inr (.inl hk))
        have hsame := (feed_textChars hk hfeed).2
        exact textLength_ahead ht hm hstop fun _ => ⟨r₁, hsame.trans haccepts, hahead⟩
      · exact textLength_ahead ht hm hstop fun hk' => absurd hk' hk
    · rw [hnone] at htext
      cases htext
  · intro hheredoc hzero
    by_cases hk : t.kind = .operator .lt
    · obtain ⟨r₁, hfeed, hahead⟩ := hnext (.inr (.inr hk))
      obtain ⟨y, fs, rfl⟩ := feed_lt hk hfeed
      exact heredocLength_ahead ht hm hzero hstop htemplate hheredoc fun _ => ⟨_, rfl, hahead⟩
    · exact heredocLength_ahead ht hm hzero hstop htemplate hheredoc fun hk' => absurd hk' hk

end Looking

end Reader

end ResourceTables.Native
