import ResourceTables.Proofs.Sources.Lengths

/-!
# Cutting the end of a text off

Which token comes first depends on the characters that it consists of and a few behind them. If what
stands behind the token is replaced by a newline, the token stays the same, as long as its kind looks
no further than that.

* `Settles`: a length that does not change when the text behind it is replaced by a newline;
* `settles_lengthAt`: the kinds of tokens whose lengths do so whatever stood behind them;
* `callNameLength_cut`, `heredocLength_cut`, `textLength_cut`: those that look further;
* `nextToken?_cut`: the token that comes first.
-/

namespace ResourceTables.Native

variable {v w cs : List Char}

/-! ## Lengths that settle -/

/-- Where no more characters are taken than stand in front, it makes no difference whether something
else or a newline stands behind them. -/
def Settles (f : List Char → Nat) : Prop :=
  ∀ v w, f (v ++ w) ≤ v.length → f (v ++ ['\n']) = f (v ++ w)

theorem settles_countWhile {p : Char → Bool} (hp : p '\n' = false) : Settles (countWhile p) := by
  intro v w h
  induction v with
  | nil =>
    rw [Nat.le_zero.1 h]
    simp [countWhile, hp]
  | cons c v ih =>
    simp only [List.cons_append, countWhile] at h ⊢
    split
    · next hc =>
      rw [if_pos hc] at h
      rw [ih (Nat.le_of_succ_le_succ h)]
    · rfl

theorem settles_nameLength : Settles nameLength := by
  intro v w h
  cases v with
  | nil => exact (Nat.le_zero.1 h).symm
  | cons c v =>
    simp only [List.cons_append, nameLength] at h ⊢
    split
    · next hc =>
      rw [if_pos hc] at h
      rw [settles_countWhile rfl v w (Nat.le_of_succ_le_succ h)]
    · rfl

theorem settles_fractionLength : Settles Document.fractionLength := by
  intro v w h
  cases v with
  | nil => exact (Nat.le_zero.1 h).symm
  | cons c v =>
    by_cases hc : c = '.'
    · subst hc
      simp only [List.cons_append, Document.fractionLength, length_spanDigits, List.length_cons]
        at h ⊢
      have hdigits : countWhile Char.isDigit (v ++ w) ≤ v.length := by
        split at h <;> omega
      rw [settles_countWhile rfl v w hdigits]
    · rw [List.cons_append, List.cons_append, fractionLength_of_ne_point hc,
        fractionLength_of_ne_point hc]

theorem settles_exponentLength : Settles Document.exponentLength := by
  intro v w h
  cases v with
  | nil => exact (Nat.le_zero.1 h).symm
  | cons e v =>
    simp only [List.cons_append, exponentLength_cons, List.length_cons] at h ⊢
    by_cases he : e = 'e' ∨ e = 'E'
    case neg => simp only [he, false_and, if_false]
    simp only [he, true_and] at h ⊢
    cases v with
    | nil =>
      -- A sign behind the cut begins no exponent, or the exponent reaches over the cut.
      have hnone : countWhile Char.isDigit (w.drop (signLength w)) = 0 := by
        by_contra hne
        rw [List.nil_append, if_pos hne] at h
        simp at h
        omega
      rw [List.nil_append, List.nil_append, if_neg (not_not_intro hnone)]
      rfl
    | cons s v =>
      have hsign : ∀ w, signLength (s :: v ++ w) = signLength [s] := fun w => rfl
      have hle : signLength [s] ≤ (s :: v).length := by
        have hone : signLength [s] = if s = '+' ∨ s = '-' then 1 else 0 := rfl
        rw [hone]
        split <;> simp
      simp only [hsign, List.drop_append_of_le_length hle] at h ⊢
      have hdigits : countWhile Char.isDigit ((s :: v).drop (signLength [s]) ++ w) ≤
          ((s :: v).drop (signLength [s])).length := by
        rw [List.length_drop]
        split at h <;> omega
      rw [settles_countWhile rfl _ w hdigits]

theorem settles_literalLength : Settles Decimal.literalLength := by
  intro v w h
  rw [literalLength_eq, length_spanDigits] at h
  rw [literalLength_eq, literalLength_eq, length_spanDigits, length_spanDigits]
  -- The digits, the fraction and the exponent are cut off one after the other.
  have hwhole : countWhile Char.isDigit (v ++ w) ≤ v.length := by
    split at h
    · omega
    · unfold lengthBehind at h
      dsimp only at h
      omega
  rw [settles_countWhile rfl v w hwhole]
  split at h
  · next hzero => rw [if_pos hzero, if_pos hzero]
  · next hne =>
    rw [if_neg hne, if_neg hne]
    unfold lengthBehind at h ⊢
    dsimp only at h ⊢
    rw [List.drop_append_of_le_length hwhole] at h
    rw [List.drop_append_of_le_length hwhole, List.drop_append_of_le_length hwhole]
    generalize countWhile Char.isDigit (v ++ w) = whole at *
    have hfraction : Document.fractionLength (v.drop whole ++ w) ≤ (v.drop whole).length := by
      rw [List.length_drop]
      omega
    have hboth : whole + Document.fractionLength (v.drop whole ++ w) ≤ v.length := by omega
    rw [settles_fractionLength _ w hfraction]
    rw [List.drop_append_of_le_length hboth] at h
    rw [List.drop_append_of_le_length hboth, List.drop_append_of_le_length hboth]
    refine congrArg _ (settles_exponentLength _ w ?_)
    rw [List.length_drop]
    omega

/-- The end of a comment is found again, or it reaches over the cut. -/
theorem commentEnd?_cut (v w : List Char) :
    commentEnd? (v ++ ['\n']) = commentEnd? (v ++ w) ∨
      ∃ n, commentEnd? (v ++ w) = some n ∧ v.length < n := by
  have hfound : ∀ cs : List Char, commentEnd? cs = none ∨ ∃ n, commentEnd? cs = some n ∧ 0 < n := by
    intro cs
    fun_cases commentEnd? cs with
    | case1 rest => exact .inr ⟨2, rfl, Nat.two_pos⟩
    | case2 c rest hnot =>
      cases commentEnd? rest with
      | none => exact .inl rfl
      | some n => exact .inr ⟨n + 1, rfl, Nat.succ_pos n⟩
    | case3 => exact .inl rfl
  induction v with
  | nil =>
    refine (hfound w).imp_left fun hnone => ?_
    rw [List.nil_append, List.nil_append, hnone]
    rfl
  | cons c v ih =>
    -- The two characters that end a comment stand here, or the search goes on.
    by_cases hends : ∃ more, c = '*' ∧ v ++ w = '/' :: more
    · obtain ⟨more, rfl, hmore⟩ := hends
      cases v with
      | nil => exact .inr ⟨2, by rw [List.cons_append, hmore]; rfl, Nat.one_lt_two⟩
      | cons d v =>
        obtain ⟨rfl, -⟩ := List.cons.inj hmore
        exact .inl rfl
    · have hnot : ∀ more, c = '*' → v ++ w = '/' :: more → False :=
        fun more hc hmore => hends ⟨more, hc, hmore⟩
      have hnot' : ∀ more, c = '*' → v ++ ['\n'] = '/' :: more → False := by
        rintro more rfl hmore
        cases v with
        | nil => cases hmore
        | cons d v =>
          obtain ⟨rfl, -⟩ := List.cons.inj hmore
          exact hnot _ rfl rfl
      rw [List.cons_append, List.cons_append, commentEnd?.eq_2 _ _ hnot,
        commentEnd?.eq_2 _ _ hnot']
      rcases ih with hsame | ⟨n, hn, hlt⟩
      · exact .inl (congrArg _ hsame)
      · exact .inr ⟨n + 1, by rw [hn]; rfl, Nat.succ_lt_succ hlt⟩

/-- The kinds whose lengths settle, whatever stands behind. -/
def Kind.settles : Kind → Bool
  | .callName | .textChars | .templateChars | .heredoc | .newline => false
  | _ => true

theorem settles_spelling {k : Kind} (hk : k.spelling ≠ []) (hnewline : '\n' ∉ k.spelling) :
    Settles k.lengthAt := by
  intro v w h
  rw [Kind.lengthAt_spelling hk] at h
  rw [Kind.lengthAt_spelling hk, Kind.lengthAt_spelling hk]
  have hsame : k.spelling <+: v ++ ['\n'] ↔ k.spelling <+: v ++ w := by
    constructor
    · intro hcut
      rcases List.prefix_concat_iff.1 hcut with heq | hv
      · exact absurd (heq ▸ by simp) hnewline
      · exact hv.trans (List.prefix_append v w)
    · intro hwhole
      rw [if_pos (List.isPrefixOf_iff_prefix.2 hwhole)] at h
      exact (List.prefix_of_prefix_length_le hwhole (List.prefix_append v w) h).trans
        (List.prefix_append v _)
  simp only [List.isPrefixOf_iff_prefix, hsame]

/-- Two characters open what is taken. It settles if what is taken behind the two does. -/
theorem settles_opened {f g : List Char → Nat} {a b : Char} (hb : b ≠ '\n')
    (hopened : ∀ cs, f (a :: b :: cs) = g cs)
    (hclosed : ∀ cs, (∀ more, cs ≠ a :: b :: more) → f cs = 0)
    (hlarge : ∀ cs, g cs = 0 ∨ 2 ≤ g cs)
    (hg : ∀ v w, g (v ++ w) ≤ v.length + 2 → g (v ++ ['\n']) = g (v ++ w)) : Settles f := by
  intro v w h
  match v with
  | [] => exact (hclosed _ (by simp)).trans (Nat.le_zero.1 h).symm
  | [c] =>
    have hcut : f ([c] ++ ['\n']) = 0 := by
      refine hclosed _ ?_
      rintro more ⟨⟩
      exact hb rfl
    rw [hcut]
    -- With the second character behind the cut, more is taken than stands in front of it, or
    -- nothing.
    by_cases hw : ∃ more, c :: w = a :: b :: more
    · obtain ⟨more, hmore⟩ := hw
      rw [List.singleton_append, hmore, hopened] at h
      rw [List.singleton_append, hmore, hopened]
      have hone : g more ≤ 1 := h
      have hmore := hlarge more
      omega
    · exact (hclosed _ fun more hmore => hw ⟨more, hmore⟩).symm
  | c :: d :: v =>
    by_cases hcd : c = a ∧ d = b
    · obtain ⟨rfl, rfl⟩ := hcd
      simp only [List.cons_append, hopened] at h ⊢
      exact hg v w h
    · have hnot : ∀ more, f (c :: d :: v ++ more) = 0 := by
        refine fun more => hclosed _ ?_
        rintro more' ⟨⟩
        exact hcd ⟨rfl, rfl⟩
      rw [hnot, hnot]

/-- The length of a comment that two slashes open. -/
def slashesLength : List Char → Nat
  | '/' :: '/' :: rest => countWhile (· != '\n') rest + 2
  | _ => 0

theorem settles_slashesLength : Settles slashesLength := by
  refine settles_opened (a := '/') (b := '/') (g := fun cs => countWhile (· != '\n') cs + 2)
    (by decide) (fun cs => rfl) ?_ (fun cs => .inr (Nat.le_add_left 2 _)) ?_
  · intro cs hcs
    unfold slashesLength
    split
    · exact absurd rfl (hcs _)
    · rfl
  · intro v w h
    rw [settles_countWhile rfl v w (Nat.le_of_add_le_add_right h)]

theorem lengthAt_lineComment {c : Char} (hc : c ≠ '#') (cs : List Char) :
    Kind.lineComment.lengthAt (c :: cs) = slashesLength (c :: cs) := by
  simp only [Kind.lengthAt, slashesLength]
  split
  · next heq => exact absurd (List.cons.inj heq).1 hc
  · next heq =>
    rw [heq]
    rfl
  · next hnot =>
    split
    · next rest heq => exact absurd heq (hnot rest)
    · rfl

theorem settles_lineComment : Settles Kind.lineComment.lengthAt := by
  intro v w h
  cases v with
  | nil => exact (Nat.le_zero.1 h).symm
  | cons c v =>
    by_cases hc : c = '#'
    · subst hc
      exact congrArg (· + 1) (settles_countWhile rfl v w (Nat.le_of_succ_le_succ h))
    · rw [List.cons_append, lengthAt_lineComment hc] at h
      rw [List.cons_append, List.cons_append, lengthAt_lineComment hc, lengthAt_lineComment hc]
      exact settles_slashesLength (c :: v) w h

theorem settles_blockComment : Settles Kind.blockComment.lengthAt := by
  refine settles_opened (a := '/') (b := '*')
    (g := fun cs => ((commentEnd? cs).map (· + 2)).getD 0) (by decide) (fun cs => rfl) ?_ ?_ ?_
  · intro cs hcs
    unfold Kind.lengthAt
    dsimp only
    split
    · exact absurd rfl (hcs _)
    · rfl
  · intro cs
    cases commentEnd? cs with
    | none => exact .inl rfl
    | some n => exact .inr (Nat.le_add_left 2 n)
  · intro v w h
    rcases commentEnd?_cut v w with hsame | ⟨n, hn, hlt⟩
    · rw [hsame]
    · simp only [hn, Option.map_some, Option.getD_some] at h
      omega

theorem settles_lengthAt {k : Kind} (hk : k.settles = true) : Settles k.lengthAt := by
  by_cases hspelling : k.spelling ≠ []
  · refine settles_spelling hspelling ?_
    cases k with
    | word w => cases w <;> decide
    | operator op => cases op <;> decide
    | newline => cases hk
    | _ => decide
  cases k with
  | name => exact settles_nameLength
  | number => exact settles_literalLength
  | digits => exact settles_countWhile rfl
  | blank => exact settles_countWhile rfl
  | lineComment => exact settles_lineComment
  | blockComment => exact settles_blockComment
  | callName | textChars | templateChars | heredoc | newline => cases hk
  | word w => cases w <;> exact absurd (by decide) hspelling
  | operator op => cases op <;> exact absurd (by decide) hspelling
  | _ => exact absurd (List.cons_ne_nil _ _) hspelling

/-! ## Names of functions -/

theorem countWhile_stop {p : Char → Bool} {c : Char} (hc : p c = false) (a b b' : List Char) :
    countWhile p (a ++ c :: b) = countWhile p (a ++ c :: b') ∧
      countWhile p (a ++ c :: b) ≤ a.length := by
  induction a with
  | nil => simp [countWhile, hc]
  | cons d a ih =>
    simp only [List.cons_append, countWhile, List.length_cons]
    split
    · exact ⟨congrArg (· + 1) ih.1, Nat.succ_le_succ ih.2⟩
    · exact ⟨rfl, Nat.zero_le _⟩

theorem nameLength_paren (a b b' : List Char) :
    nameLength (a ++ '(' :: b) = nameLength (a ++ '(' :: b') ∧
      nameLength (a ++ '(' :: b) ≤ a.length := by
  cases a with
  | nil => exact ⟨rfl, Nat.zero_le _⟩
  | cons d a =>
    obtain ⟨hsame, hle⟩ := countWhile_stop (p := isNameChar) (c := '(') rfl a b b'
    simp only [List.cons_append, nameLength, List.length_cons]
    split
    · exact ⟨congrArg (· + 1) hsame, Nat.succ_le_succ hle⟩
    · exact ⟨rfl, Nat.zero_le _⟩

theorem qualifiersLength_paren (fuel fuel' : Nat) (a b b' : List Char) (h : a.length ≤ fuel)
    (h' : a.length ≤ fuel') :
    qualifiersLength fuel (a ++ '(' :: b) = qualifiersLength fuel' (a ++ '(' :: b') ∧
      qualifiersLength fuel (a ++ '(' :: b) ≤ a.length := by
  -- Without two colons there is no qualifier.
  have hzero : ∀ fuel (cs : List Char), (∀ more, cs ≠ ':' :: ':' :: more) →
      qualifiersLength fuel cs = 0 := by
    intro fuel cs hcs
    unfold qualifiersLength
    split
    · exact absurd rfl (hcs _)
    · rfl
  induction fuel generalizing a fuel' with
  | zero =>
    obtain rfl := List.length_eq_zero_iff.1 (Nat.le_zero.1 h)
    rw [hzero 0 _ (by simp), hzero fuel' _ (by simp)]
    exact ⟨rfl, Nat.le_refl _⟩
  | succ fuel ih =>
    by_cases ha : ∃ more, a = ':' :: ':' :: more
    · obtain ⟨more, rfl⟩ := ha
      cases fuel' with
      | zero => cases h'
      | succ fuel' =>
        obtain ⟨hname, hle⟩ := nameLength_paren more b b'
        simp only [List.cons_append, qualifiersLength, List.length_cons, ← hname] at h h' ⊢
        generalize nameLength (more ++ '(' :: b) = n at hle ⊢
        split
        · exact ⟨rfl, Nat.zero_le _⟩
        · rw [List.drop_append_of_le_length hle, List.drop_append_of_le_length hle]
          have hdrop : (more.drop n).length = more.length - n := List.length_drop
          obtain ⟨hsame, hmore⟩ := ih fuel' (more.drop n) (by omega) (by omega)
          exact ⟨congrArg _ hsame, by omega⟩
    · have hnot : ∀ b more, a ++ '(' :: b ≠ ':' :: ':' :: more := by
        intro b more heq
        match a with
        | [] => cases heq
        | [c] => cases heq
        | c :: d :: a =>
          cases heq
          exact ha ⟨a, rfl⟩
      rw [hzero _ _ (hnot b), hzero _ _ (hnot b')]
      exact ⟨rfl, Nat.zero_le _⟩

/-- What stands behind a parenthesis makes no difference to the name in front of it. -/
theorem callNameLength_paren (a b b' : List Char) :
    callNameLength (a ++ '(' :: b) = callNameLength (a ++ '(' :: b') := by
  obtain ⟨hname, hle⟩ := nameLength_paren a b b'
  have hhead : ∀ more : List Char, (more ++ '(' :: b).head? = (more ++ '(' :: b').head? := by
    rintro (_ | ⟨c, more⟩) <;> rfl
  -- Behind the name blanks are passed over up to the parenthesis at most.
  have hgap : ∀ more : List Char, ((more ++ '(' :: b).dropWhile isGap).head? =
      ((more ++ '(' :: b').dropWhile isGap).head? := by
    intro more
    induction more with
    | nil => rfl
    | cons c more ih =>
      simp only [List.cons_append, List.dropWhile_cons]
      split
      · exact ih
      · rfl
  simp only [callNameLength, ← hname]
  generalize nameLength (a ++ '(' :: b) = n at hle ⊢
  rw [List.take_append_of_le_length hle, List.take_append_of_le_length hle,
    List.drop_append_of_le_length hle, List.drop_append_of_le_length hle, hhead]
  obtain ⟨hmore, hlength⟩ := qualifiersLength_paren (a.drop n ++ '(' :: b).length
    (a.drop n ++ '(' :: b').length (a.drop n) b b' (by simp) (by simp)
  rw [← hmore]
  generalize qualifiersLength (a.drop n ++ '(' :: b).length (a.drop n ++ '(' :: b) = k at hlength ⊢
  rw [List.drop_append_of_le_length hlength, List.drop_append_of_le_length hlength, hgap]

/-- Behind the name of a function there is a parenthesis. -/
theorem exists_paren (h : callNameLength cs ≠ 0) :
    ∃ gap rest, (∀ c ∈ gap, isGap c = true) ∧ cs.drop (callNameLength cs) = gap ++ '(' :: rest := by
  unfold callNameLength at h ⊢
  dsimp only at h ⊢
  split at h
  · exact absurd rfl h
  · split at h
    · exact absurd rfl h
    · split at h
      · next hname hreserved hparen =>
        rw [if_neg hname, if_neg hreserved, if_pos hparen, ← List.drop_drop]
        generalize List.drop _ (cs.drop (nameLength cs)) = behind at hparen ⊢
        obtain ⟨rest, hrest⟩ := List.head?_eq_some_iff.1 hparen
        refine ⟨behind.takeWhile isGap, rest, fun c hc => List.mem_takeWhile_imp hc, ?_⟩
        rw [← hrest, List.takeWhile_append_dropWhile]
      · exact absurd rfl h

/-- A parenthesis in front of the cut tells what the name is. -/
theorem callNameLength_cut (hparen : '(' ∈ v) :
    callNameLength (v ++ ['\n']) = callNameLength (v ++ w) := by
  obtain ⟨a, b, rfl⟩ := List.append_of_mem hparen
  rw [List.append_assoc, List.cons_append, List.append_assoc, List.cons_append]
  exact callNameLength_paren a _ _

theorem callNameLength_cut_of_eq_zero (h : callNameLength (v ++ w) = 0) :
    callNameLength (v ++ ['\n']) = 0 := by
  by_contra hne
  obtain ⟨gap, rest, -, hdrop⟩ := exists_paren hne
  have hmem : '(' ∈ v ++ ['\n'] := by
    refine List.mem_of_mem_drop (i := callNameLength (v ++ ['\n'])) ?_
    rw [hdrop]
    simp
  rcases List.mem_append.1 hmem with hv | hnewline
  · exact hne ((callNameLength_cut hv).trans h)
  · simp at hnewline

/-! ## Heredocs -/

/-- A heredoc is a header and the lines up to the one that closes it. -/
theorem exists_heredoc (h : heredocLength cs ≠ 0) :
    ∃ indented marker header rest n, cs = header ++ rest ∧ HeadsHeredoc indented marker header ∧
      closingLength? marker (splitLines rest) = some n ∧ heredocLength cs = header.length + n := by
  unfold heredocLength at h ⊢
  split at h
  · exact absurd rfl h
  · next indented marker n hheader =>
    obtain ⟨header, rest, rfl, rfl, hheads⟩ := exists_header hheader
    rw [List.drop_left] at h ⊢
    split at h
    · next n hn => exact ⟨indented, marker, header, rest, n, rfl, hheads, hn, rfl⟩
    · exact absurd rfl h

theorem HeadsHeredoc.heredocLength_append {indented : Bool} {marker header : List Char}
    {rest : List Char} {n : Nat} (h : HeadsHeredoc indented marker header)
    (hn : closingLength? marker (splitLines rest) = some n) :
    heredocLength (header ++ rest) = header.length + n := by
  simp only [heredocLength, h.heredocHeader? rest, List.drop_left, hn]

/-- A heredoc that ends in front of the cut. -/
theorem heredocLength_cut (hne : heredocLength (v ++ w) ≠ 0)
    (hle : heredocLength (v ++ w) ≤ v.length) :
    heredocLength (v ++ ['\n']) = heredocLength (v ++ w) := by
  obtain ⟨indented, marker, header, rest, n, hsplit, hheads, hn, hlength⟩ := exists_heredoc hne
  rw [hlength] at hle ⊢
  obtain ⟨body, rfl⟩ : header <+: v :=
    List.prefix_of_prefix_length_le (hsplit ▸ List.prefix_append header rest)
      (List.prefix_append v w) (by omega)
  rw [List.append_assoc, List.append_cancel_left_eq] at hsplit
  subst hsplit
  rw [List.length_append, Nat.add_le_add_iff_left] at hle
  -- A line ends behind the heredoc, and it still does behind the cut.
  obtain ⟨-, hends, hall⟩ := of_closingLength? hn
  rw [List.drop_append_of_le_length hle] at hends
  rw [List.take_append_of_le_length hle] at hall
  have hends' : EndsLine (body.drop n ++ ['\n']) := by
    cases hbody : body.drop n with
    | nil => simp [EndsLine]
    | cons c more =>
      rw [hbody] at hends
      rintro _ ⟨⟩
      exact hends c rfl
  have hcut := hall _ hends'
  rw [← List.append_assoc, List.take_append_drop] at hcut
  rw [List.append_assoc]
  exact hheads.heredocLength_append hcut

/-- A heredoc begins with two angle brackets and with what does not begin a third. -/
theorem exists_of_heredocLength (h : heredocLength cs ≠ 0) :
    ∃ c rest, cs = '<' :: '<' :: c :: rest ∧ c ≠ '<' ∧ c ≠ '\n' := by
  obtain ⟨indented, marker, header, rest, n, rfl, ⟨hwhole, hne, gap, eol, -, -, rfl⟩, -, -⟩ :=
    exists_heredoc h
  obtain ⟨c, more, rfl, hc⟩ := exists_isNameStart hne hwhole
  cases indented with
  | true => exact ⟨'-', c :: more ++ gap ++ eol ++ rest, by simp, by decide, by decide⟩
  | false =>
    refine ⟨c, more ++ gap ++ eol ++ rest, by simp, ?_, ?_⟩ <;> rintro rfl <;> cases hc

/-! ## Literal characters -/

/-- Between quotes a dollar or a percent sign ends the literal characters only in front of a
brace. -/
theorem exists_brace {m : Char} (hm : m = '$' ∨ m = '%') (h : textLength (m :: cs) = 0) :
    ∃ more, cs = '\x7b' :: more := by
  by_contra hnot
  have hslash : m ≠ '\\' ∧ m ≠ '"' ∧ m ≠ '\n' := by
    rcases hm with rfl | rfl <;> decide
  by_cases hdoubled : ∃ more, cs = m :: '\x7b' :: more
  · obtain ⟨more, rfl⟩ := hdoubled
    rcases hm with rfl | rfl <;> simp [textLength] at h
  · rw [textLength_plain hslash.2.1 hslash.1 hslash.2.2] at h
    · cases h
    · rintro ⟨m', more, -, heq | heq⟩ <;> obtain ⟨rfl, rfl⟩ := List.cons.inj heq
      · exact hnot ⟨more, rfl⟩
      · exact hdoubled ⟨more, rfl⟩

/-- No sequence begins in front of the end of the literal characters, whatever comes behind. -/
theorem Sequence.of_cut {a b b' : List Char} {c : Char} (h : Sequence (c :: (a ++ b')))
    (hhead : b'.head? = b.head?) (hb : textLength b = 0) (hb' : textLength b' = 0) :
    Sequence (c :: (a ++ b)) := by
  -- What follows the literal characters cannot begin with a brace, as that would be literal too.
  have hbrace : ∀ more, b' ≠ '\x7b' :: more := by
    rintro more rfl
    simp [textLength] at hb'
  obtain ⟨m, t, hm, heq | heq⟩ := h
  · rcases a with _ | ⟨d, a⟩
    · exact absurd (List.cons.inj heq).2 (hbrace t)
    · cases heq
      exact ⟨c, a ++ b, hm, .inl rfl⟩
  · rcases a with _ | ⟨d, _ | ⟨e, a⟩⟩
    · obtain ⟨rfl, heq⟩ := List.cons.inj heq
      rw [List.nil_append] at heq
      rw [heq, List.head?_cons] at hhead
      obtain ⟨more, rfl⟩ := List.head?_eq_some_iff.1 hhead.symm
      obtain ⟨t', rfl⟩ := exists_brace hm hb
      exact ⟨c, t', hm, .inr rfl⟩
    · exact absurd (List.cons.inj (List.cons.inj heq).2).2 (hbrace t)
    · cases heq
      exact ⟨c, a ++ b, hm, .inr rfl⟩

/-- Literal characters end where none can follow, whatever comes behind. -/
theorem textLength_cut {a b b' : List Char} (h : textLength (a ++ b) = a.length)
    (hhead : b'.head? = b.head?) (hb' : textLength b' = 0) : textLength (a ++ b') = a.length := by
  generalize hcs : a ++ b = cs at h
  fun_induction textLength cs generalizing a with
  | case1 rest | case5 rest | case6 rest | case7 _ _ _ _ _ _ _ _ =>
    rw [List.length_eq_zero_iff.1 h.symm]
    exact hb'
  | case2 c rest hc ih =>
    rcases a with _ | ⟨_, _ | ⟨_, a⟩⟩
    · cases h
    · cases h
    · cases hcs
      simp only [List.cons_append, textLength, if_neg hc, ih rfl (by simpa using h),
        List.length_cons]
  | case3 rest ih | case4 rest ih =>
    rcases a with _ | ⟨_, _ | ⟨_, _ | ⟨_, a⟩⟩⟩
    · cases h
    · cases h
    · cases h
    · cases hcs
      simp only [List.cons_append, textLength, ih rfl (by simpa using h), List.length_cons]
  | case8 c rest hslash hdollars hpercents hdollar hpercent hc ih =>
    cases a with
    | nil => cases h
    | cons d a =>
      cases hcs
      have hlength : textLength (a ++ b) = a.length := by simpa using h
      -- Literal characters end where they end, so none follow in `b`.
      have hb : textLength b = 0 := by
        have hdrop := textLength_drop (a ++ b)
        rwa [hlength, List.drop_left] at hdrop
      simp only [not_or] at hc
      rw [List.cons_append, textLength_plain hc.1 hc.2.2 hc.2.1, ih rfl hlength, List.length_cons]
      intro hsequence
      exact not_sequence_of_ne hdollars hpercents hdollar hpercent
        (hsequence.of_cut hhead hb hb')
  | case9 =>
    obtain ⟨rfl, rfl⟩ := List.append_eq_nil_iff.1 hcs
    exact hb'

/-! ## The first token -/

/-- The same token comes first where the kinds that are tried before do not fit either. -/
theorem firstToken?_congr {allowed : Kind → Bool} {cs cs' : List Char} {k : Kind} {n : Nat}
    (h : firstToken? allowed cs = some (k, n))
    (hsame : ∀ k', allowed k' = true → k'.lengthAt cs = 0 ∨ k' = k →
      k'.lengthAt cs' = k'.lengthAt cs) : firstToken? allowed cs' = some (k, n) := by
  obtain ⟨hallowed, hlength, hn⟩ := of_firstToken? h
  obtain ⟨before, k', after, horder, hk', hbefore⟩ := List.findSome?_eq_some_iff.1 h
  have hkind : k' = k := by
    split at hk'
    · split at hk' <;> cases hk'
      rfl
    · cases hk'
  subst hkind
  refine firstToken?_eq before after horder (fun j hj hjallowed => ?_) hallowed
    ((hsame _ hallowed (.inr rfl)).trans hlength) hn
  -- A kind that is tried before does not fit, so its length is zero.
  have hzero : j.lengthAt cs = 0 := by
    have hnone := hbefore j hj
    rw [if_pos hjallowed] at hnone
    split at hnone
    · assumption
    · cases hnone
  exact (hsame j hjallowed (.inl hzero)).trans hzero

theorem firstToken?_cut {allowed : Kind → Bool} {k : Kind} {n : Nat}
    (h : firstToken? allowed (v ++ w) = some (k, n)) (hn : n ≤ v.length)
    (hcall : k = .callName → '(' ∈ v)
    (htext : allowed .textChars = true → textLength (v ++ ['\n']) = textLength (v ++ w))
    (htemplate : allowed .templateChars = false)
    (hheredoc : allowed .heredoc = true → heredocLength (v ++ w) = 0 →
      heredocLength (v ++ ['\n']) = 0) :
    firstToken? allowed (v ++ ['\n']) = some (k, n) := by
  obtain ⟨-, hlength, hne⟩ := of_firstToken? h
  refine firstToken?_congr h fun j hj hfits => ?_
  have hle : j.lengthAt (v ++ w) ≤ v.length := by
    rcases hfits with hzero | rfl
    · exact hzero ▸ Nat.zero_le _
    · exact hlength ▸ hn
  by_cases hsettles : j.settles = true
  · exact settles_lengthAt hsettles v w hle
  cases j with
  | callName =>
    rcases hfits with hzero | hk
    · exact (callNameLength_cut_of_eq_zero hzero).trans hzero.symm
    · exact callNameLength_cut (hcall hk.symm)
  | textChars => exact htext hj
  | templateChars =>
    rw [htemplate] at hj
    cases hj
  | heredoc =>
    by_cases hzero : heredocLength (v ++ w) = 0
    · exact (hheredoc hj hzero).trans hzero.symm
    · exact heredocLength_cut hzero hle
  | newline =>
    -- There are characters in front of the cut, and the first of them decides.
    cases v with
    | nil => exact absurd (Nat.le_zero.1 hn) hne
    | cons c v => rfl
  | _ => exact absurd rfl hsettles

/-- The token with the same characters at another place. -/
def Token.movedTo (t : Token) (m : Mark) : Token :=
  ⟨t.kind, t.text, m, m.offset + (t.stop - t.start.offset)⟩

/-- Which token comes next depends on the characters only. -/
theorem nextToken?_movedTo {accepted : List Kind} {m m' : Mark} {t : Token}
    (h : nextToken? accepted m = some t) (hrest : m'.rest = m.rest) :
    nextToken? accepted m' = some (t.movedTo m') := by
  obtain ⟨⟨k, n⟩, hfirst, rfl⟩ := Option.map_eq_some_iff.1 h
  simp only [nextToken?, hrest, hfirst, Option.map_some, Token.movedTo, Nat.add_sub_cancel_left]

/-- The next token stays the same where what stands behind it is cut off. -/
theorem nextToken?_cut {accepted : List Kind} {m m' : Mark} {t : Token}
    (h : nextToken? accepted m = some t) (hm : m.rest = v ++ w) (hm' : m'.rest = v ++ ['\n'])
    (hstop : t.stop ≤ m.offset + v.length) (hcall : t.kind = .callName → '(' ∈ v)
    (htext : allows accepted .textChars = true → textLength (v ++ ['\n']) = textLength (v ++ w))
    (htemplate : allows accepted .templateChars = false)
    (hheredoc : allows accepted .heredoc = true → heredocLength (v ++ w) = 0 →
      heredocLength (v ++ ['\n']) = 0) :
    nextToken? accepted m' = some (t.movedTo m') := by
  obtain ⟨⟨k, n⟩, hfirst, rfl⟩ := Option.map_eq_some_iff.1 h
  have hn : n ≤ v.length := Nat.le_of_add_le_add_left hstop
  have hkind : k = .callName → '(' ∈ v := by
    rintro rfl
    have hrefine : Kind.refine accepted .callName (m.rest.take n) = .callName :=
      Kind.refine_eq _ (by rintro ⟨⟩)
    exact hcall hrefine
  rw [hm] at hfirst
  have hcut := firstToken?_cut hfirst hn hkind htext htemplate hheredoc
  rw [← hm'] at hcut
  -- The token stands in front of the cut, so it has the same characters.
  have htake : m.rest.take n = m'.rest.take n := by
    rw [hm, hm', List.take_append_of_le_length hn, List.take_append_of_le_length hn]
  simp only [nextToken?, hcut, Option.map_some, htake, Token.movedTo, Nat.add_sub_cancel_left]

end ResourceTables.Native
