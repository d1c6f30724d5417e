import ResourceTables.Proofs.Encodings.NativeFiles

/-!
# Names, numbers and blanks

The smallest things that are written in the native notation, and what the lexer makes of them
whatever stands behind them.

* `Identifier`, `NumberLiteral`, `Gap`: names, number literals within the limits, and blanks and
  tabs;
* `firstToken?_name`, `firstToken?_number`: each is one token, as long as what follows does not
  continue it (`EndsName`, `CutsNumeral`);
* `Gives.gap`: blanks are passed over;
* `ValueText`: characters that are read as the value of an attribute, up to the end of their line;
* `parse_named`, `parse_attribute`: a file with one attribute.
-/

namespace ResourceTables.Native

/-- A name. -/
structure Identifier where
  /-- The characters. -/
  chars : List Char
  /-- There is at least one. -/
  ne_nil : chars ≠ []
  /-- All of them are the name. -/
  whole : nameLength chars = chars.length

/-- The name as a text. -/
def Identifier.text (n : Identifier) : String :=
  String.ofList n.chars

/-- A number literal, which has no sign. -/
structure NumberLiteral where
  /-- The characters. -/
  chars : List Char
  /-- There is at least one. -/
  ne_nil : chars ≠ []
  /-- All of them are the literal. -/
  whole : Decimal.literalLength chars = chars.length
  /-- The number is not out of range. -/
  within : (Decimal.ofLiteral false chars).withinLimits = true

/-- The number that the literal writes. -/
def NumberLiteral.decimal (n : NumberLiteral) : Decimal :=
  Decimal.ofLiteral false n.chars

/-- Any number of blanks and tabs. -/
structure Gap where
  /-- The characters. -/
  chars : List Char
  /-- All of them are blanks and tabs. -/
  isGap_of_mem : ∀ c ∈ chars, isGap c = true

namespace Gap

/-- No blank at all. -/
def none : Gap := ⟨[], by simp⟩

/-- A single blank. -/
def blank : Gap := ⟨[' '], by simp [isGap]⟩

end Gap

/-! ## Cutting off -/

section Lexing

variable {accepted : List Kind} {c : Char} {cs rest : List Char}

theorem isDigit_of_isNameStart (h : isNameStart c = true) : c.isDigit = false := by
  by_contra hc
  rw [Bool.not_eq_false] at hc
  rw [eq_false_of_mem_digits (p := isNameStart) (by decide) (mem_digits_of_isDigit hc)] at h
  cases h

theorem isBlankChar_of_isGap (h : isGap c = true) : isBlankChar c = true := by
  simp [isBlankChar, h]

theorem isNumeralChar_of_isGap (h : isGap c = true) : isNumeralChar c = false := by
  simp only [isGap, Bool.or_eq_true, beq_iff_eq] at h
  rcases h with rfl | rfl <;> rfl

theorem isDigit_of_isGap (h : isGap c = true) : c.isDigit = false := by
  simp only [isGap, Bool.or_eq_true, beq_iff_eq] at h
  rcases h with rfl | rfl <;> rfl

/-- A blank character continues no name. -/
theorem isNameChar_of_isBlankChar (h : isBlankChar c = true) : isNameChar c = false := by
  simp only [isBlankChar, isGap, Bool.or_eq_true, beq_iff_eq] at h
  rcases h with ((rfl | rfl) | rfl) | rfl <;> rfl

/-- A name ends in front of the characters: they do not continue it and do not call it. -/
structure EndsName (rest : List Char) : Prop where
  /-- The first character does not belong to a name. -/
  cut : ∀ c, rest.head? = some c → isNameChar c = false
  /-- No further name is joined to it. -/
  join : rest.head? ≠ some ':'
  /-- No parenthesis follows. -/
  call : (rest.dropWhile isGap).head? ≠ some '('

theorem endsName_nil : EndsName [] :=
  ⟨by simp, by simp, by simp⟩

/-- A character that is none of a name, a blank, a colon and a parenthesis ends a name. -/
theorem endsName_cons (hname : isNameChar c = false) (hgap : isGap c = false) (hcolon : c ≠ ':')
    (hparen : c ≠ '(') : EndsName (c :: rest) where
  cut := by
    rintro _ ⟨⟩
    exact hname
  join := by simpa using hcolon
  call := by simpa [hgap] using hparen

/-- At least one blank ends a name, unless a parenthesis stands behind the blanks. -/
theorem endsName_blanks {b : Char} {gap : List Char} (hgap : ∀ c ∈ b :: gap, isGap c = true)
    (hcall : (rest.dropWhile isGap).head? ≠ some '(') : EndsName (b :: gap ++ rest) where
  cut := by
    rintro _ ⟨⟩
    exact isNameChar_of_isBlankChar (isBlankChar_of_isGap (hgap b (by simp)))
  join := by
    rintro ⟨⟩
    cases hgap ':' (by simp)
  call := by
    rwa [List.dropWhile_append_of_pos hgap]

/-- Blanks leave the end of a name where it is. -/
theorem endsName_gap (g : Gap) (h : EndsName rest) : EndsName (g.chars ++ rest) := by
  obtain ⟨gap, hgap⟩ := g
  cases gap with
  | nil => exact h
  | cons b gap => exact endsName_blanks hgap h.call

theorem nameLength_append_of_ends (hne : cs ≠ []) (hcs : nameLength cs = cs.length)
    (hrest : EndsName rest) : nameLength (cs ++ rest) = cs.length := by
  cases rest with
  | nil => rw [List.append_nil, hcs]
  | cons c rest => exact nameLength_append hcs hne (hrest.cut c rfl)

/-- A name that is not called is no function name. -/
theorem callNameLength_append (hne : cs ≠ []) (hcs : nameLength cs = cs.length)
    (hrest : EndsName rest) : callNameLength (cs ++ rest) = 0 := by
  have hpos : cs.length ≠ 0 := fun h => hne (List.length_eq_zero_iff.1 h)
  have hmore : ∀ fuel, qualifiersLength fuel rest = 0 := by
    intro fuel
    unfold qualifiersLength
    split
    · exact absurd rfl hrest.join
    · rfl
  simp only [callNameLength, nameLength_append_of_ends hne hcs hrest, if_neg hpos, List.drop_left,
    hmore, List.drop_zero, if_neg hrest.call]
  split <;> rfl

theorem exists_isNameStart (hne : cs ≠ []) (hcs : nameLength cs = cs.length) :
    ∃ c more, cs = c :: more ∧ isNameStart c = true := by
  obtain ⟨c, more, rfl⟩ := List.exists_cons_of_ne_nil hne
  refine ⟨c, more, rfl, ?_⟩
  rw [nameLength] at hcs
  split at hcs
  · assumption
  · cases hcs

theorem Identifier.isNameStart_head (n : Identifier) :
    ∀ c, (n.chars ++ rest).head? = some c → isNameStart c = true := by
  obtain ⟨c, more, hcs, hc⟩ := exists_isNameStart n.ne_nil n.whole
  rw [hcs]
  rintro _ ⟨⟩
  exact hc

theorem isBlankChar_of_isNameStart (h : isNameStart c = true) : isBlankChar c = false := by
  refine Bool.eq_false_iff.2 fun hblank => ?_
  have hname := isNameChar_of_isBlankChar hblank
  simp [isNameChar, h] at hname

/-- What begins with a gap begins with a blank or with what follows it. -/
theorem Gap.forall_head (g : Gap) {P : Char → Prop} (hgap : ∀ c, isGap c = true → P c)
    (h : ∀ c, rest.head? = some c → P c) : ∀ c, (g.chars ++ rest).head? = some c → P c := by
  obtain ⟨gap, hall⟩ := g
  cases gap with
  | nil => exact h
  | cons b gap =>
    rintro _ ⟨⟩
    exact hgap b (hall b (by simp))

theorem literalLength_of_not_digit (hc : c.isDigit = false) :
    Decimal.literalLength (c :: cs) = 0 := by
  rw [literalLength_eq, if_pos]
  simp [spanDigits_eq, hc]

theorem heredocLength_of_ne (hc : c ≠ '<') : heredocLength (c :: cs) = 0 := by
  simp [heredocLength, heredocHeader?, hc]

/-- Where a name is accepted and no literal text, it is cut off as one. -/
theorem firstToken?_name (n : Identifier) (hrest : EndsName rest)
    (hname : allows accepted .name = true) (htext : allows accepted .textChars = false)
    (htemplate : allows accepted .templateChars = false) :
    firstToken? (allows accepted) (n.chars ++ rest) = some (.name, n.chars.length) := by
  obtain ⟨c, more, hcs, hc⟩ := exists_isNameStart n.ne_nil n.whole
  have hlength : Kind.name.lengthAt (n.chars ++ rest) = n.chars.length :=
    nameLength_append_of_ends n.ne_nil n.whole hrest
  refine firstToken?_eq [.callName, .textChars, .templateChars, .heredoc, .number] _ rfl ?_ hname
    hlength (by simpa using n.ne_nil)
  intro k hk hallowed
  simp only [List.mem_cons, List.not_mem_nil, or_false] at hk
  rcases hk with rfl | rfl | rfl | rfl | rfl
  · exact callNameLength_append n.ne_nil n.whole hrest
  · rw [htext] at hallowed
    cases hallowed
  · rw [htemplate] at hallowed
    cases hallowed
  · rw [hcs]
    refine heredocLength_of_ne ?_
    rintro rfl
    cases hc
  · rw [hcs]
    exact literalLength_of_not_digit (isDigit_of_isNameStart hc)

/-- Where an operand can begin, a number is cut off as one. -/
theorem firstToken?_number (n : NumberLiteral) (hrest : CutsNumeral rest) :
    firstToken? (allows operandKinds) (n.chars ++ rest) = some (.number, n.chars.length) := by
  obtain ⟨c, more, hcs, hc⟩ := exists_digit_of_literalLength n.ne_nil n.whole
  have hdigit := mem_digits_of_isDigit hc
  have hlength : Kind.number.lengthAt (n.chars ++ rest) = n.chars.length :=
    literalLength_append n.ne_nil n.whole hrest
  refine firstToken?_eq [.callName, .textChars, .templateChars, .heredoc] _ rfl ?_ rfl hlength
    (by simpa using n.ne_nil)
  intro k hk hallowed
  simp only [List.mem_cons, List.not_mem_nil, or_false] at hk
  rcases hk with rfl | rfl | rfl | rfl
  · rw [hcs]
    exact callNameLength_of_not_start (eq_false_of_mem_digits (by decide) hdigit)
  · cases hallowed
  · cases hallowed
  · rw [hcs]
    exact heredocLength_of_ne
      (ne_of_beq_false (eq_false_of_mem_digits (p := (· == '<')) (by decide) hdigit))

/-- A number does not begin with a blank. -/
theorem NumberLiteral.exists_head (n : NumberLiteral) :
    ∃ c more, n.chars = c :: more ∧ isBlankChar c = false := by
  obtain ⟨c, more, hcs, hc⟩ := exists_digit_of_literalLength n.ne_nil n.whole
  exact ⟨c, more, hcs, eq_false_of_mem_digits (by decide) (mem_digits_of_isDigit hc)⟩

/-- What is read of a number. -/
theorem expr_ofNumber (n : NumberLiteral) {t : Token} (ht : t.text = String.ofList n.chars) :
    (Operand.ofNumber t).expr = .ok (.literal (t.start.originTo t.stop) (.number n.decimal)) := by
  have hwithin := n.within
  rw [NumberLiteral.decimal]
  simp only [Operand.ofNumber, Operand.numberExpr, ht, String.toList_ofList, hwithin, if_true]

end Lexing

/-! ## Reading on -/

section Reading

variable {form : Form} {first : Pos} {Q : Except ReadError Reader → Prop} {s s' : Newlines}
  {r r' : Reader} {m : Mark} {k : Kind} {chars rest : List Char}

theorem countWhile_eq_of_stop {p : Char → Bool} {cs : List Char} (hcs : ∀ c ∈ cs, p c = true)
    (hrest : ∀ c, rest.head? = some c → p c = false) : countWhile p (cs ++ rest) = cs.length := by
  induction cs with
  | nil =>
    cases rest with
    | nil => rfl
    | cons c rest => simp [countWhile, hrest c rfl]
  | cons c cs ih =>
    rw [List.cons_append, countWhile, if_pos (hcs c (by simp)), ih fun d hd => hcs d (by simp [hd]),
      List.length_cons]

/-- Blanks are cut off as one token where no literal text can stand. -/
theorem firstToken?_blanks {accepted : List Kind} {gap : List Char} (hne : gap ≠ [])
    (hgap : ∀ c ∈ gap, isGap c = true)
    (hrest : ∀ c, rest.head? = some c → isBlankChar c = false)
    (htext : allows accepted .textChars = false)
    (htemplate : allows accepted .templateChars = false) :
    firstToken? (allows accepted) (gap ++ rest) = some (.blank, gap.length) := by
  obtain ⟨b, more, rfl⟩ := List.exists_cons_of_ne_nil hne
  have hblank : ∀ c ∈ b :: more, isBlankChar c = true :=
    fun c hc => isBlankChar_of_isGap (hgap c hc)
  refine firstToken?_eq [.callName, .textChars, .templateChars, .heredoc, .number, .name,
    .lineComment, .blockComment] _ rfl ?_ (by simp [allows, Kind.ignored])
    (countWhile_eq_of_stop hblank hrest) (by simp)
  -- None of the kinds that are tried before begins with a blank.
  have hb := hgap b (by simp)
  simp only [isGap, Bool.or_eq_true, beq_iff_eq] at hb
  intro k hk hallowed
  simp only [List.mem_cons, List.not_mem_nil, or_false] at hk
  rcases hk with rfl | rfl | rfl | rfl | rfl | rfl | rfl | rfl
  case inr.inl => rw [htext] at hallowed; cases hallowed
  case inr.inr.inl => rw [htemplate] at hallowed; cases hallowed
  all_goals rcases hb with rfl | rfl <;> rfl

/-- Blanks are passed over where no literal text can stand. -/
theorem Gives.gap (g : Gap) (hm : m.rest = g.chars ++ rest)
    (hrest : ∀ c, rest.head? = some c → isBlankChar c = false)
    (htext : allows r.accepts .textChars = false)
    (htemplate : allows r.accepts .templateChars = false)
    (h : ∀ m', m'.rest = rest → Gives form first Q s r m') : Gives form first Q s r m := by
  obtain ⟨gap, hgap⟩ := g
  by_cases hne : gap = []
  · subst hne
    exact h m hm
  · exact .skip .blank hm hne (hm ▸ firstToken?_blanks hne hgap hrest htext htemplate) rfl h

/-- Reading goes on behind a token that the layout lets through alone. -/
theorem Gives.takeOne (k : Kind) (hm : m.rest = chars ++ rest) (hchars : chars ≠ [])
    (hfirst : firstToken? (allows r.accepts) m.rest = some (k, chars.length))
    (hname : k = .name → r.accepts.any Kind.isWord = false) (hk : k.ignored = false)
    (hheredoc : k ≠ .heredoc)
    (hstep : s.step (m.token k chars.length) = ([m.token k chars.length], s'))
    (hfeed : r.feed (.ok []) (m.token k chars.length) = some r')
    (h : ∀ m', m'.rest = rest → Gives form first Q s' r' m') : Gives form first Q s r m := by
  refine .take k hm hchars hfirst hname hk hheredoc hstep ?_ h
  simp only [Reader.feedAll, hfeed]

end Reading

/-! ## Values of attributes -/

namespace Reader

/-- Behind a complete expression a token that continues none goes to the construct around it. -/
theorem feedAfter_eq_closeOperand {x y : Operand} {frames outer : List Frame} {t : Token}
    {heredoc : Draft (List Part)} (hsettle : settle x frames = (y, outer))
    (houter : ∀ type labels more, outer ≠ .header type labels :: more)
    (hdot : t.kind ≠ .dot) (hbracket : t.kind ≠ .openBracket) (hquestion : t.kind ≠ .question)
    (hoperator : operatorOf? t.kind = none) :
    feedAfter x frames t heredoc = closeOperand y outer t heredoc := by
  unfold feedAfter
  split
  · next type labels more =>
    rw [settle] at hsettle
    · exact absurd (Prod.mk.inj hsettle).2.symm (houter type labels more)
    all_goals simp
  · split
    · contradiction
    · contradiction
    · contradiction
    · simp only [hoperator, hsettle]

end Reader

/-- A line ends in front of the characters. -/
def EndsLine (rest : List Char) : Prop :=
  ∀ c, rest.head? = some c → c = '\n'

/-- Where the value of an attribute is awaited, the characters are read as an expression with the
property `P`, whatever comes behind the end of their line. -/
def ValueText (value : List Char) (P : Expr → Prop) : Prop :=
  ∀ first Q s name outer rest m, EndsLine rest → Mark.rest m = value ++ rest →
    (∀ x y e frames t m', Reader.settle x frames = (y, .attribute name :: outer) →
      Operand.expr y = .ok e → P e → Token.kind t ≠ .newline → Mark.rest m' = rest →
      Gives .file first Q ⟨Newlines.brackets s, some t⟩ ⟨some x, frames⟩ m') →
    Gives .file first Q s ⟨none, .attribute name :: outer⟩ m

/-- The end of a line, which the last line of a file may lack. -/
def lineEnd : Bool → List Char
  | true => ['\n']
  | false => []

/-- A file with the attribute `x`, with or without a newline at its end. -/
def attributeFile (value : List Char) (newline : Bool) : String :=
  String.ofList ('x' :: ' ' :: '=' :: ' ' :: (value ++ lineEnd newline))

/-- What an attribute with this value is as an item. -/
theorem feed_newline_attribute {x y : Operand} {frames outer : List Frame} {name t : Token}
    {e : Expr} (hsettle : Reader.settle x frames = (y, .attribute name :: outer))
    (he : y.expr = .ok e) (ht : t.kind = .newline) :
    Reader.feed ⟨some x, frames⟩ (.ok []) t =
      Reader.addItem (.ok (.attribute ⟨name.text, e, name.start.pos⟩)) outer := by
  have hclose : Reader.feedAfter x frames t (.ok []) =
      Reader.closeOperand y (.attribute name :: outer) t (.ok []) :=
    Reader.feedAfter_eq_closeOperand hsettle (by simp) (by simp [ht]) (by simp [ht]) (by simp [ht])
      (by rw [ht]; rfl)
  have hfeed : Reader.feed ⟨some x, frames⟩ (.ok []) t = Reader.feedAfter x frames t (.ok []) := rfl
  rw [hfeed, hclose]
  simp only [Reader.closeOperand, ht, he]
  rfl

/-- A file with one attribute gives that attribute, if its value is read behind the equals sign up to
the end of the line. -/
theorem parse_named (n : Identifier) {value : List Char} {P : Expr → Prop} (file : String)
    (newline : Bool) (hblank : ∀ c, value.head? = some c → isBlankChar c = false)
    (h : ∀ first Q name last m, Token.kind last = .equal →
      Mark.rest m = value ++ lineEnd newline →
      (∀ x y e frames t m', Reader.settle x frames = (y, [.attribute name, .file []]) →
        Operand.expr y = .ok e → P e → Token.kind t ≠ .newline → Mark.rest m' = lineEnd newline →
        Gives .file first Q ⟨[], some t⟩ ⟨some x, frames⟩ m') →
      Gives .file first Q ⟨[], some last⟩ ⟨none, [.attribute name, .file []]⟩ m) :
    ∃ e, parse file (String.ofList (n.chars ++ ' ' :: '=' :: ' ' :: (value ++ lineEnd newline))) =
        .ok (.native [.attribute ⟨n.text, e, ⟨file, 1, 1⟩⟩]) ∧ P e := by
  generalize htext : String.ofList (n.chars ++ ' ' :: '=' :: ' ' :: (value ++ lineEnd newline)) = text
  have hgives : Gives .file ⟨file, 1, 1⟩ (fun result => ∃ e,
      result = .ok ⟨none, [.file [.ok (.attribute ⟨n.text, e, ⟨file, 1, 1⟩⟩)]]⟩ ∧ P e) {} Reader.file
      (Mark.start file 1 text.toList) := by
    have hm₀ : (Mark.start file 1 text.toList).rest =
        n.chars ++ (Gap.blank.chars ++ ('=' :: (Gap.blank.chars ++ (value ++ lineEnd newline)))) := by
      rw [← htext, String.toList_ofList]
      rfl
    have hpos : (Mark.start file 1 text.toList).pos = ⟨file, 1, 1⟩ := rfl
    generalize Mark.start file 1 text.toList = m₀ at hm₀ hpos ⊢
    refine .takePlain .name rfl hm₀ n.ne_nil ?_ (fun _ => rfl) rfl fun m₁ hm₁ => ?_
    · rw [hm₀]
      refine firstToken?_name n (endsName_gap .blank ?_) rfl rfl rfl
      exact endsName_cons rfl rfl (by decide) (by decide)
    refine .gap .blank hm₁ (by simp [isBlankChar, isGap]) rfl rfl fun m₂ hm₂ => ?_
    have hm₂' : m₂.rest = ['='] ++ (Gap.blank.chars ++ (value ++ lineEnd newline)) := hm₂
    refine .takePlain .equal rfl hm₂' (by simp) ?_ (by rintro ⟨⟩) rfl fun m₃ hm₃ => ?_
    · rw [hm₂]
      rfl
    refine .gap .blank hm₃ ?_ rfl rfl fun m₄ hm₄ => ?_
    · intro c hc
      cases value with
      | cons d value => exact hblank c hc
      | nil =>
        cases newline with
        | true =>
          obtain rfl := Option.some.inj hc
          rfl
        | false => cases hc
    refine h _ _ _ _ m₄ rfl hm₄ fun x y e frames t m₅ hsettle he hP ht hm₅ => ?_
    have hitem : Attribute.mk (m₀.token .name n.chars.length).text e
        (m₀.token .name n.chars.length).start.pos = ⟨n.text, e, ⟨file, 1, 1⟩⟩ := by
      have htext : (m₀.token .name n.chars.length).text = n.text := Mark.text_token hm₀ .name
      have hstart : (m₀.token .name n.chars.length).start.pos = ⟨file, 1, 1⟩ := hpos
      rw [htext, hstart]
    -- The newline that ends the attribute is written, or the layout adds it.
    cases newline with
    | true =>
      refine .newline hm₅ (by simp [Newlines.endsItem, Newlines.lastIs, ht]) (fun _ => rfl)
        ((feed_newline_attribute hsettle he rfl).trans rfl) fun t' m₆ ht' hm₆ => ?_
      refine .stop hm₆ ⟨e, ?_, hP⟩
      rw [← hitem]
      simp only [finish, Newlines.finish, ht', if_true]
      rfl
    | false =>
      refine .stop hm₅ ⟨e, ?_, hP⟩
      have hfeed := feed_newline_attribute (t := t.newlineAt) hsettle he rfl
      rw [← hitem]
      simp only [finish, Newlines.finish, ht, if_false, Reader.feedAll, hfeed]
      rfl
  obtain ⟨e, hread, hP⟩ := hgives _ (Nat.lt_succ_self _)
  refine ⟨e, ?_, hP⟩
  have hread' : read .file Reader.file file 1 text = .ok _ := hread
  rw [parse, parseItems, hread']
  rfl

/-- The name `x`. -/
def Identifier.x : Identifier :=
  ⟨['x'], by simp, rfl⟩

/-- A file with the attribute `x` gives that attribute. -/
theorem parse_attribute {value : List Char} {P : Expr → Prop} (file : String)
    (hblank : ∀ c, value.head? = some c → isBlankChar c = false) (h : ValueText value P)
    (newline : Bool) :
    ∃ e, parse file (attributeFile value newline) =
        .ok (.native [.attribute ⟨"x", e, ⟨file, 1, 1⟩⟩]) ∧ P e := by
  have hend : EndsLine (lineEnd newline) := by cases newline <;> simp [EndsLine, lineEnd]
  refine parse_named .x file newline hblank fun first Q name last m _ hm hnext => ?_
  exact h _ _ _ _ _ _ m hend hm hnext

end ResourceTables.Native
