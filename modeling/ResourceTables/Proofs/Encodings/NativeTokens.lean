import ResourceTables.Native.Document

/-!
# Reading on in a native text

A reader takes one token after the other, with fuel that it never uses up. To say what it makes of a
text, one asks what property its result has, and goes backwards through the tokens.

* `Native.firstToken?_eq`: the lexer takes the first kind that fits;
* `Native.Gives`: reading on from somewhere in a text gives a result with a property, however much
  fuel there is beyond what is needed;
* `Native.Gives.skip`, `Native.Gives.take`, `Native.Gives.takePlain`: one token that is dropped, and
  one that the reader takes.
-/

namespace ResourceTables.Native

/-- The token of the given kind and length at a place. -/
def Mark.token (m : Mark) (k : Kind) (n : Nat) : Token :=
  ⟨k, String.ofList (m.rest.take n), m, m.offset + n⟩

theorem Mark.text_token {m : Mark} {chars rest : List Char} (hm : m.rest = chars ++ rest)
    (k : Kind) : (m.token k chars.length).text = String.ofList chars := by
  rw [token, hm, List.take_left']
  rfl

/-! ## Cutting a token off -/

/-- The kinds that can come next where those in `accepted` are accepted. -/
def allows (accepted : List Kind) (k : Kind) : Bool :=
  accepted.contains k || k.ignored || k == .newline

/-- The first token is of a kind that is allowed and fits, if no kind that is tried before does. -/
theorem firstToken?_eq {allowed : Kind → Bool} {cs : List Char} {k : Kind} {n : Nat}
    (before after : List Kind) (horder : Kind.order = before ++ k :: after)
    (hbefore : ∀ k' ∈ before, allowed k' = true → k'.lengthAt cs = 0) (hk : allowed k = true)
    (hlength : k.lengthAt cs = n) (hn : n ≠ 0) : firstToken? allowed cs = some (k, n) := by
  rw [firstToken?, horder, List.findSome?_append]
  refine (congrArg (Option.or · _) (List.findSome?_eq_none_iff.2 fun k' hk' => ?_)).trans ?_
  · split
    · next hallowed => simp only [hbefore k' hk' hallowed]
    · rfl
  · rw [Option.none_or, List.findSome?_cons, if_pos hk, hlength]
    cases n with
    | zero => exact absurd rfl hn
    | succ n => rfl

/-- The words that are names where they are not accepted. -/
def Kind.isWord : Kind → Bool
  | .word _ | .within => true
  | _ => false

theorem Kind.isWord_of_ofWord? {text : List Char} {k : Kind} (h : Kind.ofWord? text = some k) :
    k.isWord = true := by
  have hmem := List.mem_of_find?_eq_some h
  simp only [List.mem_cons, List.not_mem_nil, or_false] at hmem
  rcases hmem with rfl | rfl | rfl | rfl | rfl | rfl <;> rfl

/-- Only names are refined, and only to words that are accepted. -/
theorem Kind.refine_eq {accepted : List Kind} {k : Kind} (text : List Char)
    (hname : k = .name → accepted.any Kind.isWord = false) : k.refine accepted text = k := by
  unfold Kind.refine
  split
  · next found hfound =>
    refine if_neg fun hcontains => ?_
    have hnot := List.any_eq_false.1 (hname rfl) found (List.contains_iff_mem.1 hcontains)
    exact hnot (Kind.isWord_of_ofWord? hfound)
  · rfl

/-- A token is of the kind that it is cut off with, unless it is a name that is taken for a word. -/
theorem nextToken?_of_refine {accepted : List Kind} {m : Mark} {k k' : Kind} {n : Nat}
    (h : firstToken? (allows accepted) m.rest = some (k, n))
    (hrefine : k.refine accepted (m.rest.take n) = k') :
    nextToken? accepted m = some (m.token k' n) := by
  have hfirst : firstToken? (fun k => accepted.contains k || k.ignored || k == .newline) m.rest =
      some (k, n) := h
  simp only [nextToken?, hfirst, Option.map_some, hrefine]
  rfl

/-- Where no words are accepted a token is of the kind that it is cut off with. -/
theorem nextToken?_eq {accepted : List Kind} {m : Mark} {k : Kind} {n : Nat}
    (h : firstToken? (allows accepted) m.rest = some (k, n))
    (hname : k = .name → accepted.any Kind.isWord = false) :
    nextToken? accepted m = some (m.token k n) :=
  nextToken?_of_refine h (Kind.refine_eq _ hname)

/-! ## Reading on -/

section Reading

variable {form : Form} {first : Pos} {Q : Except ReadError Reader → Prop} {s s' : Newlines}
  {r r' : Reader} {m : Mark} {k : Kind} {chars rest : List Char}

/-- Reading on from the place `m` gives a result with the property `Q`, whatever fuel there is as
long as it is enough. -/
def Gives (form : Form) (first : Pos) (Q : Except ReadError Reader → Prop) (s : Newlines)
    (r : Reader) (m : Mark) : Prop :=
  ∀ fuel, m.rest.length < fuel → Q (readFrom fuel form first s r m)

/-- At the end of the text nothing but the end is left to do. -/
theorem Gives.stop (hm : m.rest = []) (h : Q (finish form first s r)) :
    Gives form first Q s r m := by
  intro fuel hfuel
  cases fuel with
  | zero => cases hfuel
  | succ fuel =>
    rw [readFrom, hm]
    exact h

/-- One step of reading, which goes on behind the token. A template inside of the token is read with
the same fuel as the rest of the text. -/
theorem Gives.of_next (hm : m.rest = chars ++ rest) (hchars : chars ≠ [])
    (hnext : ∀ fuel, m.rest.length ≤ fuel → readFrom (fuel + 1) form first s r m =
      readFrom fuel form first s' r' (m.advance chars.length))
    (h : ∀ m', m'.rest = rest → Gives form first Q s' r' m') : Gives form first Q s r m := by
  intro fuel hfuel
  -- The token is not empty, so the fuel that is left is enough for the rest.
  have hrest : (m.advance chars.length).rest = rest := by
    rw [Mark.advance_rest, hm, List.drop_left' rfl]
  have hpos := List.length_pos_iff.2 hchars
  have hlength : m.rest.length = chars.length + rest.length := by
    rw [hm, List.length_append]
  cases fuel with
  | zero => cases hfuel
  | succ fuel =>
    rw [hnext fuel (Nat.le_of_lt_succ hfuel)]
    refine h _ hrest fuel ?_
    rw [hrest]
    omega

theorem isEmpty_eq_false (hm : m.rest = chars ++ rest) (hchars : chars ≠ []) :
    m.rest.isEmpty = false := by
  rw [hm]
  cases chars with
  | nil => exact absurd rfl hchars
  | cons => rfl

theorem Mark.stop_token (m : Mark) (k : Kind) (n : Nat) : (m.token k n).stop - m.offset = n :=
  Nat.add_sub_cancel_left m.offset n

/-- Reading goes on behind a token that is dropped. -/
theorem Gives.skip (k : Kind) (hm : m.rest = chars ++ rest) (hchars : chars ≠ [])
    (hfirst : firstToken? (allows r.accepts) m.rest = some (k, chars.length))
    (hk : k.ignored = true) (h : ∀ m', m'.rest = rest → Gives form first Q s r m') :
    Gives form first Q s r m := by
  refine .of_next hm hchars (fun fuel _ => ?_) h
  have htoken := nextToken?_eq hfirst (by rintro rfl; cases hk)
  have hkind : (m.token k chars.length).kind.ignored = true := hk
  simp only [readFrom, isEmpty_eq_false hm hchars, htoken, hkind, Mark.stop_token, if_true,
    Bool.false_eq_true, if_false]

/-- Reading goes on behind a token that the reader takes, with the newlines that the layout adds. -/
theorem Gives.takeToken (k : Kind) {through : List Token} (hm : m.rest = chars ++ rest)
    (hchars : chars ≠ [])
    (htoken : nextToken? r.accepts m = some (m.token k chars.length)) (hk : k.ignored = false)
    (hheredoc : k ≠ .heredoc) (hstep : s.step (m.token k chars.length) = (through, s'))
    (hfeed : r.feedAll (.ok []) through = .ok r')
    (h : ∀ m', m'.rest = rest → Gives form first Q s' r' m') : Gives form first Q s r m := by
  refine .of_next hm hchars (fun fuel _ => ?_) h
  have hkind : (m.token k chars.length).kind.ignored = false := hk
  have hparts : ∀ read, heredocParts read (m.token k chars.length) = .ok [] :=
    fun read => if_neg hheredoc
  simp only [readFrom, isEmpty_eq_false hm hchars, htoken, hkind, Mark.stop_token, hparts, hstep,
    hfeed, Bool.false_eq_true, if_false]

/-- Reading goes on behind the first token that fits. -/
theorem Gives.take (k : Kind) {through : List Token} (hm : m.rest = chars ++ rest)
    (hchars : chars ≠ [])
    (hfirst : firstToken? (allows r.accepts) m.rest = some (k, chars.length))
    (hname : k = .name → r.accepts.any Kind.isWord = false) (hk : k.ignored = false)
    (hheredoc : k ≠ .heredoc) (hstep : s.step (m.token k chars.length) = (through, s'))
    (hfeed : r.feedAll (.ok []) through = .ok r')
    (h : ∀ m', m'.rest = rest → Gives form first Q s' r' m') : Gives form first Q s r m :=
  .takeToken k hm hchars (nextToken?_eq hfirst hname) hk hheredoc hstep hfeed h

/-- Reading ends at a token that cannot stand where it does. -/
theorem Gives.reject {t : Token} (hm : m.rest ≠ []) (htoken : nextToken? r.accepts m = some t)
    (hk : t.kind.ignored = false) (hheredoc : t.kind ≠ .heredoc) (hstep : s.step t = ([t], s'))
    (hfeed : r.feed (.ok []) t = none) (h : Q (.error t.unexpected)) : Gives form first Q s r m := by
  intro fuel hfuel
  have hempty : m.rest.isEmpty = false := by simpa using hm
  have hparts : ∀ read, heredocParts read t = .ok [] := fun read => if_neg hheredoc
  have hfeedAll : r.feedAll (.ok []) [t] = .error t.unexpected := by
    simp only [Reader.feedAll, hfeed]
  cases fuel with
  | zero => cases hfuel
  | succ fuel =>
    simpa only [readFrom, hempty, htoken, hk, hparts, hstep, hfeedAll, Bool.false_eq_true,
      if_false] using h

/-- The layout adds nothing to tokens of the kind and remembers them only. -/
def Kind.isPlain : Kind → Bool
  | .name | .number | .textChars | .templateChars | .quote | .equal | .operator _ | .minus | .star
  | .bang | .question | .colon | .dot => true
  | _ => false

/-- Reading goes on behind a token that the layout adds nothing to. -/
theorem Gives.takePlain (k : Kind) (hk : k.isPlain = true) (hm : m.rest = chars ++ rest)
    (hchars : chars ≠ [])
    (hfirst : firstToken? (allows r.accepts) m.rest = some (k, chars.length))
    (hname : k = .name → r.accepts.any Kind.isWord = false)
    (hfeed : r.feed (.ok []) (m.token k chars.length) = some r')
    (h : ∀ m', m'.rest = rest →
      Gives form first Q ⟨s.brackets, some (m.token k chars.length)⟩ r' m') :
    Gives form first Q s r m := by
  -- The layout lets the token through alone and notes it as the last one.
  have hstep : s.step (m.token k chars.length) =
      ([m.token k chars.length], ⟨s.brackets, some (m.token k chars.length)⟩) := by
    cases k with
    | name | number | textChars | templateChars | quote | equal | operator | minus | star | bang
    | question | colon | dot => rfl
    | _ => cases hk
  have hfeedAll : r.feedAll (.ok []) [m.token k chars.length] = .ok r' := by
    simp only [Reader.feedAll, hfeed]
  refine .take k hm hchars hfirst hname ?_ ?_ hstep hfeedAll h
  · cases k with
    | blank | lineComment | blockComment => cases hk
    | _ => rfl
  · rintro rfl
    cases hk

end Reading

end ResourceTables.Native
