import Mathlib.Data.List.Basic
import Mathlib.Data.List.Chain
import ResourceTables.Native.Newlines

/-!
# Which newlines are let through

Of every list of tokens, whether or not its brackets match, all tokens but newlines are let through,
and of the newlines those that end something. What is let through can be read again without the
filter's state: the brackets that are open and the last token are those of the tokens let through
so far.

* `openBrackets`: the brackets that are open behind some tokens;
* `EndsSomething`, `BlocksLaidOut`: where a newline ends an item, and how blocks are closed;
* `Newlines.Emits`: what is let through for one token, one rule for each thing that can happen;
* `Newlines.Tracks`: what the filter knows of the tokens that it has let through;
* `Newlines.process_laidOut`: what is let through of a list of tokens.
-/

namespace ResourceTables.Native

/-! ## Open brackets -/

/-- A bracket that has been opened. -/
structure OpenBracket where
  /-- How many tokens stand before it. -/
  place : Nat
  /-- What it encloses. -/
  encloses : Bracket
  deriving DecidableEq, Repr

/-- What a token of this kind opens behind a token of the kind `last`. A brace is that of a block
behind a name or a quote, and that of an object elsewhere. -/
def Kind.bracket? (last : Option Kind) : Kind → Option Bracket
  | .openBrace => some (if last = some .name ∨ last = some .quote then .block else .object)
  | .openParen | .openBracket | .openInterp | .openDirective => some .group
  | _ => none

/-- The brackets that are open behind the tokens, which are given last one first. -/
def openBehind : List Token → List OpenBracket
  | [] => []
  | t :: before =>
    match t.kind.bracket? (before.head?.map Token.kind) with
    | some b => ⟨before.length, b⟩ :: openBehind before
    | none => if Newlines.closes t.kind then (openBehind before).tail else openBehind before

/-- The brackets that are open behind the tokens, innermost first. Whatever closes a bracket closes
the innermost one, if any is open. -/
def openBrackets (ts : List Token) : List OpenBracket :=
  openBehind ts.reverse

/-- Behind the tokens a newline ends something: a block or none is open innermost, and there is a
last token that is no newline. -/
def EndsSomething (ts : List Token) : Prop :=
  (∀ b ∈ (openBrackets ts).head?, b.encloses = .block) ∧ ∃ l ∈ ts.getLast?, l.kind ≠ .newline

/-- Behind the tokens `before`, the token `t` closes the block whose brace stands at `place`. -/
def ClosesBlock (before : List Token) (t : Token) (place : Nat) : Prop :=
  Newlines.closes t.kind = true ∧ (openBrackets before).head? = some ⟨place, .block⟩

/-- Each block is closed behind a newline or behind its own brace, and a newline stands behind what
closes it. -/
def BlocksLaidOut (ts : List Token) : Prop :=
  ∀ before t after place, ts = before ++ t :: after → ClosesBlock before t place →
    (before.getLast?.map Token.kind = some .newline ∨ place + 1 = before.length) ∧
      after.head?.map Token.kind = some .newline

section Brackets

variable {ts : List Token} {t : Token} {b : Bracket}

@[simp]
theorem openBrackets_nil : openBrackets [] = [] := rfl

theorem openBrackets_concat (ts : List Token) (t : Token) :
    openBrackets (ts ++ [t]) =
      match t.kind.bracket? (ts.getLast?.map Token.kind) with
      | some b => ⟨ts.length, b⟩ :: openBrackets ts
      | none => if Newlines.closes t.kind then (openBrackets ts).tail else openBrackets ts := by
  rw [openBrackets, List.reverse_append, List.reverse_singleton, List.singleton_append, openBehind,
    List.head?_reverse, List.length_reverse]
  rfl

theorem openBrackets_opening (h : t.kind.bracket? (ts.getLast?.map Token.kind) = some b) :
    openBrackets (ts ++ [t]) = ⟨ts.length, b⟩ :: openBrackets ts := by
  rw [openBrackets_concat, h]

theorem bracket?_eq_none_of_closes {last : Option Kind} {k : Kind}
    (h : Newlines.closes k = true) : k.bracket? last = none := by
  cases k <;> first | rfl | cases h

theorem openBrackets_closing (h : Newlines.closes t.kind = true) :
    openBrackets (ts ++ [t]) = (openBrackets ts).tail := by
  rw [openBrackets_concat, bracket?_eq_none_of_closes h]
  exact if_pos h

theorem openBrackets_other (h : t.kind.bracket? (ts.getLast?.map Token.kind) = none)
    (hcloses : Newlines.closes t.kind = false) :
    openBrackets (ts ++ [t]) = openBrackets ts := by
  rw [openBrackets_concat, h]
  exact if_neg (by simp [hcloses])

theorem openBrackets_newline (h : t.kind = .newline) :
    openBrackets (ts ++ [t]) = openBrackets ts :=
  openBrackets_other (by rw [h]; rfl) (by rw [h]; rfl)

/-- A bracket that was opened by the last token stands right before its end. -/
theorem place_of_openBrace (h : t.kind = .openBrace) {p : OpenBracket}
    (hp : (openBrackets (ts ++ [t])).head? = some p) : p.place + 1 = (ts ++ [t]).length := by
  rw [openBrackets_concat, h] at hp
  obtain rfl := Option.some.inj hp
  simp

theorem blocksLaidOut_nil : BlocksLaidOut [] := by
  intro before t after place h
  exact absurd h (by simp)

/-- Behind the last of the tokens nothing is asked of those before it any more, since each block
that they close has a newline behind it already. -/
theorem BlocksLaidOut.append {out through : List Token} (h : BlocksLaidOut out)
    (hthrough : ∀ before t after place, through = before ++ t :: after →
      ClosesBlock (out ++ before) t place →
      ((out ++ before).getLast?.map Token.kind = some .newline ∨
          place + 1 = (out ++ before).length) ∧ after.head?.map Token.kind = some .newline) :
    BlocksLaidOut (out ++ through) := by
  intro before t after place hsplit hcloses
  -- The block is closed among the new tokens, or by the last of the old ones or before it.
  rcases List.append_eq_append_iff.1 hsplit with ⟨more, rfl, hmore⟩ | ⟨more, rfl, hmore⟩
  · exact hthrough more t after place hmore hcloses
  · cases more with
    | nil =>
      rw [List.append_nil] at h
      have := hthrough [] t after place hmore.symm
      simp only [List.append_nil] at this
      exact this hcloses
    | cons first more =>
      obtain ⟨rfl, rfl⟩ := List.cons.inj hmore
      obtain ⟨hbefore, hafter⟩ := h before t more place rfl hcloses
      refine ⟨hbefore, ?_⟩
      cases more with
      | nil => cases hafter
      | cons next more => exact hafter

theorem not_closesBlock_newline (out : List Token) (l : Token) (place : Nat) :
    ¬ ClosesBlock out l.newlineAt place := by
  rintro ⟨hcloses, -⟩
  cases hcloses

/-- A token behind which no block is closed. -/
theorem BlocksLaidOut.concat {out : List Token} (h : BlocksLaidOut out)
    (ht : ∀ place, ¬ ClosesBlock out t place) : BlocksLaidOut (out ++ [t]) := by
  refine h.append fun before u after place hsplit hcloses => ?_
  match before, hsplit with
  | [], hsplit =>
    obtain ⟨rfl, -⟩ := List.cons.inj hsplit
    rw [List.append_nil] at hcloses
    exact absurd hcloses (ht place)
  | _ :: before, hsplit => simp at hsplit

/-- A token that closes a block, and the newline behind it. -/
theorem BlocksLaidOut.close {out : List Token} (h : BlocksLaidOut out)
    (hbefore : ∀ place, ClosesBlock out t place →
      out.getLast?.map Token.kind = some .newline ∨ place + 1 = out.length) :
    BlocksLaidOut (out ++ [t, t.newlineAt]) := by
  refine h.append fun before u after place hsplit hcloses => ?_
  match before, hsplit with
  | [], hsplit =>
    obtain ⟨rfl, rfl⟩ := List.cons.inj hsplit
    rw [List.append_nil] at hcloses ⊢
    exact ⟨hbefore place hcloses, rfl⟩
  | [_], hsplit =>
    obtain ⟨rfl, -⟩ := List.cons.inj (List.cons.inj hsplit).2
    exact absurd hcloses (not_closesBlock_newline _ _ _)
  | _ :: _ :: before, hsplit => simp at hsplit

end Brackets

namespace Newlines

variable {s s' : Newlines} {t : Token} {through out ts : List Token}

/-! ## One token -/

/-- What is let through for the token `t`, and what the filter knows behind it. -/
inductive Emits (s : Newlines) (t : Token) : List Token → Newlines → Prop
  /-- A newline that ends nothing is dropped. -/
  | drop (hk : t.kind = .newline) (hends : s.endsItem = false) : Emits s t [] s
  /-- A newline that ends something is kept. -/
  | keep (hk : t.kind = .newline) (hends : s.endsItem = true) :
      Emits s t [t] ⟨s.brackets, some t⟩
  /-- A bracket is opened. -/
  | opening {b} (hk : t.kind ≠ .newline) (hopens : s.opens t.kind = some b) :
      Emits s t [t] ⟨b :: s.brackets, some t⟩
  /-- A bracket is closed that is not a block's, or none is open. -/
  | closing (hcloses : closes t.kind = true) (hblock : s.brackets.head? ≠ some .block) :
      Emits s t [t] ⟨s.brackets.tail, some t⟩
  /-- A block is closed behind a newline or its own brace. -/
  | emptying {outer} (hcloses : closes t.kind = true) (hs : s.brackets = .block :: outer)
      (hlast : ∀ l ∈ s.last, l.kind = .newline ∨ l.kind = .openBrace) :
      Emits s t [t, t.newlineAt] ⟨outer, some t.newlineAt⟩
  /-- A block is closed behind an item that no newline has ended. -/
  | ending {outer l} (hcloses : closes t.kind = true) (hs : s.brackets = .block :: outer)
      (hlast : s.last = some l) (hl : l.kind ≠ .newline ∧ l.kind ≠ .openBrace) :
      Emits s t [l.newlineAt, t, t.newlineAt] ⟨outer, some t.newlineAt⟩
  /-- Any other token. -/
  | other (hk : t.kind ≠ .newline) (hopens : s.opens t.kind = none)
      (hcloses : closes t.kind = false) : Emits s t [t] ⟨s.brackets, some t⟩

theorem ne_newline_of_closes {k : Kind} (h : closes k = true) : k ≠ .newline := by
  rintro rfl
  cases h

theorem opens_eq_none_of_closes {k : Kind} (h : closes k = true) : s.opens k = none := by
  cases k <;> first | rfl | cases h

/-- These are all the things that can happen. -/
theorem emits_step (s : Newlines) (t : Token) : s.Emits t (s.step t).1 (s.step t).2 := by
  by_cases hk : t.kind = .newline
  · by_cases hends : s.endsItem = true
    · simpa only [step, if_pos hk, if_pos hends] using Emits.keep hk hends
    · simpa only [step, if_pos hk, if_neg hends] using Emits.drop hk (Bool.eq_false_iff.2 hends)
  unfold step
  rw [if_neg hk]
  cases hopens : s.opens t.kind with
  | some b => exact .opening hk hopens
  | none =>
    dsimp only
    by_cases hcloses : closes t.kind = true
    case neg =>
      rw [if_neg hcloses]
      exact .other hk hopens (Bool.eq_false_iff.2 hcloses)
    rw [if_pos hcloses]
    -- Only a block that is closed brings in newlines of its own.
    obtain ⟨brackets, last⟩ := s
    rcases brackets with _ | ⟨_ | _ | _, outer⟩
    · exact .closing hcloses nofun
    · cases last with
      | none => exact .emptying hcloses rfl nofun
      | some l =>
        by_cases hl : l.kind = .newline ∨ l.kind = .openBrace
        · simp only [if_pos hl]
          exact .emptying hcloses rfl (by rintro _ ⟨⟩; exact hl)
        · simp only [if_neg hl]
          exact .ending hcloses rfl rfl (not_or.1 hl)
    · exact .closing hcloses (by rintro ⟨⟩)
    · exact .closing hcloses (by rintro ⟨⟩)

/-! ## All tokens -/

/-- What the filter knows behind the tokens. -/
def behind (s : Newlines) (ts : List Token) : Newlines :=
  ts.foldl (fun s t => (s.step t).2) s

theorem process_append (terminate : Bool) (s : Newlines) (ts us : List Token) :
    process terminate s (ts ++ us) = process false s ts ++ process terminate (s.behind ts) us := by
  induction ts generalizing s with
  | nil => rfl
  | cons t ts ih =>
    show (s.step t).1 ++ process terminate (s.step t).2 (ts ++ us) = _
    rw [ih, ← List.append_assoc]
    rfl

theorem process_concat (s : Newlines) (ts : List Token) (t : Token) :
    process false s (ts ++ [t]) = process false s ts ++ ((s.behind ts).step t).1 := by
  rw [process_append]
  simp [process]

theorem behind_concat (s : Newlines) (ts : List Token) (t : Token) :
    s.behind (ts ++ [t]) = ((s.behind ts).step t).2 := by
  simp [behind]

theorem behind_append (s : Newlines) (ts us : List Token) :
    s.behind (ts ++ us) = (s.behind ts).behind us := by
  simp [behind]

/-- A newline is added at the end, where one is missing. -/
theorem process_true (s : Newlines) (ts : List Token) :
    process true s ts = process false s ts ++ (s.behind ts).finish := by
  simpa [process] using process_append true s ts []

/-! ## What the filter knows -/

/-- The filter knows the last of the tokens let through, and the brackets that are open behind
them. -/
structure Tracks (s : Newlines) (out : List Token) : Prop where
  /-- The last token. -/
  last : s.last = out.getLast?
  /-- The open brackets. -/
  brackets : s.brackets = (openBrackets out).map OpenBracket.encloses

theorem tracks_nil : Tracks {} [] := ⟨rfl, rfl⟩

theorem Tracks.opens (h : s.Tracks out) (k : Kind) :
    s.opens k = k.bracket? (out.getLast?.map Token.kind) := by
  rw [← h.last]
  obtain ⟨brackets, last⟩ := s
  -- Only for a brace does it matter what came last.
  cases k with
  | openBrace => cases last <;> simp [Newlines.opens, lastIs, Kind.bracket?]
  | _ => rfl

theorem Tracks.endsItem (h : s.Tracks out) : s.endsItem = true ↔ EndsSomething out := by
  have hlast : (s.last.isSome && !s.lastIs .newline) = true ↔
      ∃ l ∈ out.getLast?, l.kind ≠ .newline := by
    rw [lastIs, h.last]
    cases out.getLast? <;> simp
  have hblock : (s.brackets.head?.all (· == .block)) = true ↔
      ∀ b ∈ (openBrackets out).head?, b.encloses = .block := by
    rw [h.brackets, List.head?_map]
    cases (openBrackets out).head? <;> simp
  rw [Newlines.endsItem, Bool.and_assoc, Bool.and_eq_true, hlast, hblock]
  rfl

/-- The filter knows the same of the tokens that are let through for one more token. -/
theorem Tracks.emits (h : s.Tracks out) (hemits : s.Emits t through s') :
    s'.Tracks (out ++ through) := by
  have hbracket := h.opens t.kind
  -- Newlines that are put in open and close nothing.
  have hnewline : ∀ us : List Token, ∀ u : Token,
      openBrackets (us ++ [u.newlineAt]) = openBrackets us := fun _ _ => openBrackets_newline rfl
  cases hemits with
  | drop hk hends => simpa using h
  | keep hk hends => exact ⟨by simp, by rw [openBrackets_newline hk]; exact h.brackets⟩
  | opening hk hopens =>
    refine ⟨by simp, ?_⟩
    rw [openBrackets_opening (hbracket.symm.trans hopens), List.map_cons, ← h.brackets]
  | closing hcloses hblock =>
    refine ⟨by simp, ?_⟩
    rw [openBrackets_closing hcloses, List.map_tail, ← h.brackets]
  | emptying hcloses hs hlast =>
    refine ⟨by simp, ?_⟩
    rw [← List.singleton_append, ← List.append_assoc, hnewline, openBrackets_closing hcloses,
      List.map_tail, ← h.brackets, hs, List.tail_cons]
  | @ending outer l hcloses hs hlast hl =>
    refine ⟨by simp, ?_⟩
    have happend : out ++ [l.newlineAt, t, t.newlineAt] =
        out ++ [l.newlineAt] ++ [t] ++ [t.newlineAt] := by simp
    rw [happend, hnewline, openBrackets_closing hcloses, hnewline, List.map_tail, ← h.brackets, hs,
      List.tail_cons]
  | other hk hopens hcloses =>
    refine ⟨by simp, ?_⟩
    rw [openBrackets_other (hbracket.symm.trans hopens) hcloses, ← h.brackets]

theorem tracks_process (ts : List Token) :
    Tracks (({} : Newlines).behind ts) (process false {} ts) := by
  induction ts using List.reverseRecOn with
  | nil => exact tracks_nil
  | append_singleton ts t ih =>
    rw [behind_concat, process_concat]
    exact ih.emits (emits_step _ _)

/-! ## What is kept -/

/-- The tokens that are no newlines. -/
def others (ts : List Token) : List Token :=
  ts.filter (·.kind ≠ .newline)

theorem others_append (ts us : List Token) : others (ts ++ us) = others ts ++ others us :=
  List.filter_append ..

/-- All that is added are newlines. -/
theorem Emits.others_eq (h : s.Emits t through s') : others through = others [t] := by
  cases h with
  | drop hk => simp [others, hk]
  | emptying => simp [others, Token.newlineAt, List.filter_cons]
  | ending => simp [others, Token.newlineAt, List.filter_cons]
  | _ => rfl

theorem others_process (s : Newlines) (ts : List Token) :
    others (process false s ts) = others ts := by
  induction ts generalizing s with
  | nil => rfl
  | cons t ts ih =>
    rw [process, others_append, (emits_step s t).others_eq, ih, ← others_append,
      List.singleton_append]

theorem others_finish (s : Newlines) : others s.finish = [] := by
  unfold finish
  split
  · split <;> simp [others, Token.newlineAt]
  · rfl

/-! ## Where newlines stand -/

/-- No newline stands at the start or behind another one. -/
def Single (ts : List Token) : Prop :=
  (∀ t ∈ ts.head?, t.kind ≠ .newline) ∧
    ts.IsChain fun a b => ¬ (a.kind = .newline ∧ b.kind = .newline)

theorem single_nil : Single [] :=
  ⟨nofun, .nil⟩

/-- A newline may come behind a token that is none, and any other token anywhere. -/
theorem Single.concat (h : Single out) (ht : t.kind = .newline →
    ∃ l ∈ out.getLast?, l.kind ≠ .newline) : Single (out ++ [t]) := by
  obtain ⟨hfirst, hchain⟩ := h
  constructor
  · cases out with
    | nil =>
      rintro _ ⟨⟩ hk
      obtain ⟨l, hl, -⟩ := ht hk
      cases hl
    | cons first out => exact hfirst
  · refine List.isChain_append.2 ⟨hchain, .singleton t, ?_⟩
    rintro a ha _ ⟨⟩ ⟨hnewline, hk⟩
    obtain ⟨l, hl, hne⟩ := ht hk
    rw [Option.mem_unique ha hl] at hnewline
    exact hne hnewline

theorem Single.emits (h : Single out) (hs : s.Tracks out) (hemits : s.Emits t through s') :
    Single (out ++ through) := by
  have hother : ∀ {out}, Single out → t.kind ≠ .newline → Single (out ++ [t]) :=
    fun h hk => h.concat fun hnewline => absurd hnewline hk
  -- A newline that is put in comes behind a token that is none.
  have hbehind : ∀ {out}, Single (out ++ [t]) → t.kind ≠ .newline →
      Single (out ++ [t, t.newlineAt]) := fun {out} h hk => by
    have := h.concat (t := t.newlineAt) fun _ => ⟨t, by simp, hk⟩
    simpa using this
  cases hemits with
  | drop hk hends => simpa using h
  | keep hk hends => exact h.concat fun _ => (hs.endsItem.1 hends).2
  | opening hk hopens => exact hother h hk
  | closing hcloses hblock => exact hother h (ne_newline_of_closes hcloses)
  | emptying hcloses _ hlast =>
    have hk := ne_newline_of_closes hcloses
    exact hbehind (hother h hk) hk
  | @ending outer l hcloses _ hlast hl =>
    have hk := ne_newline_of_closes hcloses
    have hbefore : Single (out ++ [l.newlineAt]) :=
      h.concat fun _ => ⟨l, hs.last ▸ hlast, hl.1⟩
    simpa using hbehind (hother hbefore hk) hk
  | other hk hopens hcloses => exact hother h hk

/-! ## How blocks are closed -/

theorem Tracks.head?_of_closesBlock {place : Nat} (h : s.Tracks out)
    (hcloses : ClosesBlock out t place) : s.brackets.head? = some .block := by
  rw [h.brackets, List.head?_map, hcloses.2]
  rfl

theorem blocksLaidOut_emits (h : BlocksLaidOut out) (hs : s.Tracks out)
    (hemits : s.Emits t through s') : BlocksLaidOut (out ++ through) := by
  cases hemits with
  | drop hk hends => simpa using h
  | keep hk hends => exact h.concat fun place hcloses => ne_newline_of_closes hcloses.1 hk
  | opening hk hopens =>
    refine h.concat fun place hcloses => ?_
    rw [opens_eq_none_of_closes hcloses.1] at hopens
    cases hopens
  | closing hcloses hblock =>
    exact h.concat fun place hcloses => hblock (hs.head?_of_closesBlock hcloses)
  | emptying hcloses _ hlast =>
    refine h.close fun place hblock => ?_
    rw [hs.last] at hlast
    -- The tokens are not empty, since a bracket is open behind them.
    rcases List.eq_nil_or_concat' out with rfl | ⟨out, l, rfl⟩
    · cases hblock.2
    rcases hlast l (by simp) with hl | hl
    · exact .inl (by simp [hl])
    · exact .inr (place_of_openBrace hl hblock.2)
  | @ending outer l hcloses _ hlast hl =>
    have hbefore := h.concat (t := l.newlineAt) fun place => not_closesBlock_newline _ _ _
    have hclose := hbefore.close (t := t) fun place _ => .inl (by simp [Token.newlineAt])
    simpa using hclose
  | other hk hopens hcloses =>
    refine h.concat fun place hblock => ?_
    rw [hblock.1] at hcloses
    cases hcloses

/-! ## Filtering twice -/

/-- A newline behind a newline is dropped. -/
theorem step_behind_newline {l : Token} (hlast : s.last = some l) (hl : l.kind = .newline)
    (ht : t.kind = .newline) : s.step t = ([], s) := by
  have hends : s.endsItem = false := by simp [endsItem, lastIs, hlast, hl]
  simp [step, ht, hends]

theorem step_emptying {outer : List Bracket} (hcloses : closes t.kind = true)
    (hs : s.brackets = .block :: outer)
    (hlast : ∀ l ∈ s.last, l.kind = .newline ∨ l.kind = .openBrace) :
    s.step t = ([t, t.newlineAt], ⟨outer, some t.newlineAt⟩) := by
  obtain ⟨brackets, last⟩ := s
  obtain rfl : brackets = _ := hs
  have hopens := opens_eq_none_of_closes (s := ⟨.block :: outer, last⟩) hcloses
  cases last with
  | none => simp [step, ne_newline_of_closes hcloses, hopens, hcloses]
  | some l => simp [step, ne_newline_of_closes hcloses, hopens, hcloses, hlast l rfl]

/-- What is let through for a token is let through again, and leaves the filter with the same. -/
theorem process_step (s : Newlines) (t : Token) :
    process false s (s.step t).1 = (s.step t).1 ∧ s.behind (s.step t).1 = (s.step t).2 := by
  have hemits := emits_step s t
  generalize hstep : s.step t = result at hemits ⊢
  obtain ⟨through, s'⟩ := result
  dsimp only at hemits ⊢
  -- The newline that was added behind a block is added again, and then comes once more.
  have hagain : ∀ outer, step ⟨outer, some t.newlineAt⟩ t.newlineAt =
      ([], ⟨outer, some t.newlineAt⟩) := fun outer => step_behind_newline rfl rfl rfl
  cases hemits with
  | drop hk hends => exact ⟨rfl, rfl⟩
  | emptying hcloses hs hlast => simp [process, behind, hstep, hagain]
  | @ending outer l hcloses hs hlast hl =>
    -- The newline that was added in front of it is kept, since it ends the item.
    have hkeep : s.step l.newlineAt = ([l.newlineAt], ⟨s.brackets, some l.newlineAt⟩) := by
      have hends : s.endsItem = true := by simp [endsItem, lastIs, hs, hlast, hl.1]
      simp [step, hends, Token.newlineAt]
    have hclose : step ⟨s.brackets, some l.newlineAt⟩ t =
        ([t, t.newlineAt], ⟨outer, some t.newlineAt⟩) :=
      step_emptying hcloses hs (by rintro _ ⟨⟩; exact .inl rfl)
    simp [process, behind, hkeep, hclose, hagain]
  | _ => simp [process, behind, hstep]

theorem process_process (s : Newlines) (ts : List Token) :
    process false s (process false s ts) = process false s ts ∧
      s.behind (process false s ts) = s.behind ts := by
  induction ts generalizing s with
  | nil => exact ⟨rfl, rfl⟩
  | cons t ts ih =>
    obtain ⟨hprocess, hbehind⟩ := process_step s t
    obtain ⟨ihprocess, ihbehind⟩ := ih (s.step t).2
    have hcons : process false s (t :: ts) = (s.step t).1 ++ process false (s.step t).2 ts := rfl
    constructor
    · rw [hcons, process_append, hprocess, hbehind, ihprocess]
    · rw [hcons, behind_append, hbehind, ihbehind]
      rfl

/-- A newline that was added at the end is kept or added again. -/
theorem process_finish (s : Newlines) : process true s s.finish = s.finish := by
  cases hlast : s.last with
  | none => simp [finish, hlast, process]
  | some l =>
    by_cases hl : l.kind = .newline
    · simp [finish, hlast, hl, process]
    · have hfinish : s.finish = [l.newlineAt] := by simp [finish, hlast, hl]
      rw [hfinish]
      by_cases hends : s.endsItem = true
      · simp [process, step, hends, finish, Token.newlineAt]
      · simp [process, step, hends, finish, hlast, hl, Token.newlineAt]

/-! ## What is let through -/

/-- The invariants hold of what is let through, and the newline at its end keeps them. -/
theorem process_invariants (terminate : Bool) (ts : List Token) :
    Single (process terminate {} ts) ∧ BlocksLaidOut (process terminate {} ts) := by
  -- The newline at the end aside, by induction from the last token.
  have hopen : Single (process false {} ts) ∧ BlocksLaidOut (process false {} ts) := by
    induction ts using List.reverseRecOn with
    | nil => exact ⟨single_nil, blocksLaidOut_nil⟩
    | append_singleton ts t ih =>
      have htracks := tracks_process ts
      have hemits := emits_step (behind {} ts) t
      rw [process_concat]
      exact ⟨ih.1.emits htracks hemits, blocksLaidOut_emits ih.2 htracks hemits⟩
  cases terminate with
  | false => exact hopen
  | true =>
    rw [process_true, finish, (tracks_process ts).last]
    cases hlast : (process false {} ts).getLast? with
    | none => simpa using hopen
    | some l =>
      dsimp only
      split
      · simpa using hopen
      · next hl =>
        exact ⟨hopen.1.concat fun _ => ⟨l, hlast, hl⟩,
          hopen.2.concat fun place => not_closesBlock_newline _ _ _⟩

theorem isPrefix_process (terminate : Bool) (s : Newlines) (ts us : List Token) :
    process false s ts <+: process terminate s (ts ++ us) := by
  rw [process_append]
  exact List.prefix_append _ _

theorem process_newline (before : List Token) (ht : t.kind = .newline) :
    EndsSomething (process false {} before) ∧
        process false {} (before ++ [t]) = process false {} before ++ [t] ∨
      ¬ EndsSomething (process false {} before) ∧
        process false {} (before ++ [t]) = process false {} before := by
  rw [process_concat, ← (tracks_process before).endsItem, step, if_pos ht]
  split
  · next hends => exact .inl ⟨hends, rfl⟩
  · next hends => exact .inr ⟨hends, List.append_nil _⟩

theorem newline_of_mem_getLast? (ts : List Token) :
    ∀ l ∈ (process true {} ts).getLast?, l.kind = .newline := by
  rw [process_true, finish, (tracks_process ts).last]
  cases hlast : (process false {} ts).getLast? with
  | none => simp [hlast]
  | some last =>
    dsimp only
    split
    · next hk => simpa [hlast] using hk
    · simp [Token.newlineAt]

theorem process_again (terminate : Bool) (ts : List Token) :
    process terminate {} (process terminate {} ts) = process terminate {} ts := by
  obtain ⟨hprocess, hbehind⟩ := process_process {} ts
  cases terminate with
  | false => exact hprocess
  | true => rw [process_true {} ts, process_append, hprocess, hbehind, process_finish]

/-- What is let through of any tokens, whether or not their brackets match. These are all tokens
that are no newlines, in order. No newline stands at the start or behind another one, and a newline
is kept exactly where it ends something behind what has been let through before it, whatever comes
later. Blocks are closed behind a newline or behind their own brace, and a newline stands behind
what closes them. Where it is asked for, a newline stands at the end. All this is let through again
as it is. -/
theorem process_laidOut (terminate : Bool) (ts : List Token) :
    others (process terminate {} ts) = others ts ∧
      Single (process terminate {} ts) ∧
      (∀ before t after, ts = before ++ t :: after →
        process false {} (before ++ [t]) <+: process terminate {} ts ∧
          (t.kind = .newline →
            EndsSomething (process false {} before) ∧
                process false {} (before ++ [t]) = process false {} before ++ [t] ∨
              ¬ EndsSomething (process false {} before) ∧
                process false {} (before ++ [t]) = process false {} before)) ∧
      BlocksLaidOut (process terminate {} ts) ∧
      (terminate = true → ∀ l ∈ (process terminate {} ts).getLast?, l.kind = .newline) ∧
      process terminate {} (process terminate {} ts) = process terminate {} ts := by
  obtain ⟨hsingle, hblocks⟩ := process_invariants terminate ts
  refine ⟨?_, hsingle, ?_, hblocks, ?_, process_again terminate ts⟩
  · cases terminate with
    | false => exact others_process {} ts
    | true => rw [process_true, others_append, others_process, others_finish, List.append_nil]
  · rintro before t after rfl
    refine ⟨?_, process_newline before⟩
    -- What comes behind a token adds to what has been let through and takes nothing back.
    have happend : before ++ t :: after = before ++ [t] ++ after := by simp
    rw [happend]
    exact isPrefix_process terminate {} (before ++ [t]) after
  · rintro rfl
    exact newline_of_mem_getLast? ts

end Newlines

end ResourceTables.Native
