import ResourceTables.Proofs.Writing.Atoms

/-!
# Formulas as they are written

Numbers, variables and attributes put together with operators and conditionals, written with
parentheses only where the order of the operators calls for them, and read back.

* `Formula`, `Formula.write`: formulas and how they are written;
* `Formula.Is`: an expression is a formula, up to parentheses and places;
* `Stands`: what the reader holds behind a formula. Operators that may still take what follows wait
  on the stack; all that is known of them is what becomes of them once they are put together;
* `reads_write`: wherever an operand is awaited a formula is read as what it is, as long as the
  operators in front of it do not bind tighter than its own;
* `parse_formula`: an attribute that is set to a formula.
-/

namespace ResourceTables

theorem BinaryOp.level_pos (op : BinaryOp) : 1 ≤ op.level := by
  cases op <;> decide

theorem BinaryOp.level_le (op : BinaryOp) : op.level ≤ 6 := by
  cases op <;> decide

namespace Native

/-! ## Formulas -/

/-- A name that stands for no constant. -/
structure VariableName extends Identifier where
  /-- It is not one of the names that do. -/
  not_constant : toIdentifier.text ≠ "true" ∧ toIdentifier.text ≠ "false" ∧
    toIdentifier.text ≠ "null"

/-- An expression that is made of numbers and variables. -/
inductive Formula where
  /-- A number. -/
  | number (n : NumberLiteral)
  /-- A variable. -/
  | name (n : VariableName)
  /-- `target.attr` -/
  | access (target : Formula) (attr : Identifier)
  /-- `op operand` -/
  | unary (op : UnaryOp) (operand : Formula)
  /-- `left op right` -/
  | binary (op : BinaryOp) (left right : Formula)
  /-- `cond ? yes : no` -/
  | conditional (cond yes no : Formula)

/-- The blanks where the number of them is free. -/
structure Spacing where
  /-- Behind an operator that has one operand. -/
  sign : Gap
  /-- In front of a point. -/
  beforePoint : Gap
  /-- Behind a point. -/
  behindPoint : Gap
  /-- Behind an opening parenthesis. -/
  opened : Gap
  /-- In front of a closing parenthesis. -/
  closed : Gap

namespace Spacing

/-- The characters in parentheses. -/
def enclose (sp : Spacing) (cs : List Char) : List Char :=
  '(' :: (sp.opened.chars ++ (cs ++ (sp.closed.chars ++ [')'])))

/-- The characters of something that binds with the strength `level`, where `least` is the least
strength that needs no parentheses. -/
def within (sp : Spacing) (least level : Nat) (cs : List Char) : List Char :=
  if level < least then sp.enclose cs else cs

end Spacing

namespace Formula

/-- How tightly the parts of the formula are bound together. -/
def level : Formula → Nat
  | .number _ | .name _ | .access _ _ => 8
  | .unary _ _ => 7
  | .binary op _ _ => op.level
  | .conditional _ _ _ => 0

/-- The characters of the formula. Operators of the same strength group to the left and conditionals
to the right. -/
def write (sp : Spacing) : Formula → List Char
  | .number n => n.chars
  | .name n => n.chars
  | .access target attr =>
    sp.within 8 target.level (write sp target) ++
      (sp.beforePoint.chars ++ '.' :: (sp.behindPoint.chars ++ attr.chars))
  | .unary op operand =>
    op.symbol.toList ++ (sp.sign.chars ++ sp.within 7 operand.level (write sp operand))
  | .binary op left right =>
    sp.within op.level left.level (write sp left) ++
      ' ' :: (op.symbol.toList ++ ' ' :: sp.within (op.level + 1) right.level (write sp right))
  | .conditional cond yes no =>
    sp.within 1 cond.level (write sp cond) ++
      ' ' :: '?' :: ' ' :: (write sp yes ++ ' ' :: ':' :: ' ' :: write sp no)

/-- Parentheses stand around a sum under a sign and around a conditional in a product. -/
example (a b c : NumberLiteral) :
    write ⟨.none, .none, .none, .none, .none⟩
      (.binary .mul (.unary .negate (.binary .add (.number a) (.number b)))
        (.conditional (.number a) (.number b) (.number c))) =
      ['-', '('] ++ a.chars ++ [' ', '+', ' '] ++ b.chars ++ [')', ' ', '*', ' ', '('] ++
        a.chars ++ [' ', '?', ' '] ++ b.chars ++ [' ', ':', ' '] ++ c.chars ++ [')'] := by
  simp [write, Spacing.within, Spacing.enclose, level, BinaryOp.level, BinaryOp.symbol,
    UnaryOp.symbol, Gap.none]

/-- The expression is the formula, up to parentheses, places and source texts. -/
inductive Is : Formula → Expr → Prop
  | number {n o} : Is (.number n) (.literal o (.number n.decimal))
  | name {n o} : Is (.name n) (.variable o n.text)
  | access {target attr o e} (h : Is target e) : Is (.access target attr) (.getAttr o e attr.text)
  | unary {op operand o e} (h : Is operand e) : Is (.unary op operand) (.unary o op e)
  | binary {op left right o e e'} (h : Is left e) (h' : Is right e') :
      Is (.binary op left right) (.binary o op e e')
  | conditional {cond yes no o e e' e''} (h : Is cond e) (h' : Is yes e') (h'' : Is no e'') :
      Is (.conditional cond yes no) (.conditional o e e' e'')
  | parens {f o e} (h : Is f e) : Is f (.parens o e)

/-- The operand is the formula. -/
def IsOperand (f : Formula) (x : Operand) : Prop :=
  ∃ e, x.expr = .ok e ∧ f.Is e

namespace IsOperand

variable {f g k : Formula} {x y z : Operand} {t : Token} {chars rest : List Char} {m : Mark}

theorem ofNumber (n : NumberLiteral) (ht : t.text = String.ofList n.chars) :
    (Formula.number n).IsOperand (.ofNumber t) :=
  ⟨_, expr_ofNumber n ht, .number⟩

theorem ofName (n : VariableName) (ht : t.text = n.text) :
    (Formula.name n).IsOperand (.ofName t) := by
  obtain ⟨htrue, hfalse, hnull⟩ := n.not_constant
  refine ⟨.variable (t.start.originTo t.stop) n.text, ?_, .name⟩
  simp only [Operand.ofName, ht]

theorem parens (h : f.IsOperand x) (start : Mark) (stop : Nat) :
    f.IsOperand (.parens start stop x) := by
  obtain ⟨e, hx, he⟩ := h
  refine ⟨.parens (start.originTo stop) e, ?_, .parens he⟩
  simp only [Operand.parens, hx]
  rfl

/-- A step behind a formula is no step of a splat. -/
theorem getAttr (h : f.IsOperand x) (name : Identifier) (ht : t.text = name.text) :
    (Formula.access f name).IsOperand (x.getAttr t) := by
  obtain ⟨e, hx, he⟩ := h
  refine ⟨.getAttr (x.start.originTo t.stop) e name.text, ?_, .access he⟩
  simp only [Operand.getAttr, hx, ht]
  cases he <;> rfl

theorem unary (h : f.IsOperand x) (start : Mark) (op : UnaryOp) :
    (Formula.unary op f).IsOperand (.unary start op x) := by
  obtain ⟨e, hx, he⟩ := h
  refine ⟨.unary (start.originTo x.stop) op e, ?_, .unary he⟩
  simp only [Operand.unary, hx]
  rfl

theorem binary (h : f.IsOperand x) (h' : g.IsOperand y) (op : BinaryOp) :
    (Formula.binary op f g).IsOperand (.binary x op y) := by
  obtain ⟨e, hx, he⟩ := h
  obtain ⟨e', hy, he'⟩ := h'
  refine ⟨.binary (x.start.originTo y.stop) op e e', ?_, .binary he he'⟩
  simp only [Operand.binary, hx, hy]
  rfl

theorem conditional (h : f.IsOperand x) (h' : g.IsOperand y) (h'' : k.IsOperand z) :
    (Formula.conditional f g k).IsOperand (.conditional x y z) := by
  obtain ⟨e, hx, he⟩ := h
  obtain ⟨e', hy, he'⟩ := h'
  obtain ⟨e'', hz, he''⟩ := h''
  refine ⟨.conditional (x.start.originTo z.stop) e e' e'', ?_, .conditional he he' he''⟩
  simp only [Operand.conditional, hx, hy, hz]
  rfl

end IsOperand

end Formula

/-! ## What follows a formula -/

/-- The characters continue no formula that they stand behind. -/
structure EndsFormula (rest : List Char) : Prop where
  /-- They continue no name. -/
  name : EndsName rest
  /-- They continue no number. -/
  numeral : CutsNumeral rest

section Ends

variable {c : Char} {rest : List Char}

theorem endsFormula_of_endsLine (h : EndsLine rest) : EndsFormula rest := by
  cases rest with
  | nil => exact ⟨endsName_nil, fun _ _ hc => nomatch hc⟩
  | cons c rest =>
    obtain rfl := h c rfl
    refine ⟨endsName_cons rfl rfl (by decide) (by decide), ?_⟩
    rintro _ _ ⟨⟩
    exact .inl rfl

theorem endsFormula_gap (g : Gap) (h : EndsFormula rest) : EndsFormula (g.chars ++ rest) := by
  refine ⟨endsName_gap g h.name, ?_⟩
  obtain ⟨gap, hgap⟩ := g
  cases gap with
  | nil => exact h.numeral
  | cons b gap =>
    rintro _ _ ⟨⟩
    exact .inl (isNumeralChar_of_isGap (hgap b (by simp)))

/-- A blank in front of an operator ends a formula. -/
theorem endsFormula_blank (hgap : isGap c = false) (hparen : c ≠ '(') :
    EndsFormula (' ' :: c :: rest) where
  name := by
    refine ⟨?_, by simp, ?_⟩
    · rintro _ ⟨⟩
      rfl
    · have hblank : isGap ' ' = true := rfl
      simp [hblank, hgap, hparen]
  numeral := by
    rintro _ _ ⟨⟩
    exact .inl rfl

theorem endsFormula_closeParen : EndsFormula (')' :: rest) where
  name := endsName_cons rfl rfl (by decide) (by decide)
  numeral := by
    rintro _ _ ⟨⟩
    exact .inl rfl

/-- A point ends a number, unless a digit stands behind it. -/
theorem endsFormula_point (h : ∀ d, rest.head? = some d → d.isDigit = false) :
    EndsFormula ('.' :: rest) where
  name := endsName_cons rfl rfl (by decide) (by decide)
  numeral := by
    rintro _ _ ⟨⟩
    exact .inr ⟨rfl, h⟩

end Ends

/-! ## The reader at an operand -/

/-- An operand is awaited, and nothing else can come. -/
structure Awaits (frames : List Frame) : Prop where
  /-- The kinds that are accepted begin an operand. -/
  accepts : Reader.accepts ⟨none, frames⟩ = operandKinds
  /-- What comes is taken as the first token of one. -/
  begins : ∀ t heredoc, Reader.feedOpen frames t heredoc = Reader.beginOperand frames t heredoc
  /-- The operand is no label. -/
  not_header : ∀ type labels more, frames ≠ .header type labels :: more

section Awaiting

variable {outer : List Frame}

theorem awaits_attribute {name : Token} : Awaits (.attribute name :: outer) :=
  ⟨rfl, fun _ _ => rfl, by simp⟩

theorem awaits_unary {start : Mark} {op : UnaryOp} : Awaits (.unary start op :: outer) :=
  ⟨rfl, fun _ _ => rfl, by simp⟩

theorem awaits_binary {left : Operand} {op : BinaryOp} : Awaits (.binary left op :: outer) :=
  ⟨rfl, fun _ _ => rfl, by simp⟩

theorem awaits_test {cond : Operand} : Awaits (.test cond :: outer) :=
  ⟨rfl, fun _ _ => rfl, by simp⟩

theorem awaits_branch {cond yes : Operand} : Awaits (.branch cond yes :: outer) :=
  ⟨rfl, fun _ _ => rfl, by simp⟩

theorem awaits_parens {start : Mark} : Awaits (.parens start :: outer) :=
  ⟨rfl, fun _ _ => rfl, by simp⟩

end Awaiting

/-- No operator with the strength `n` or a higher one waits in front of the operand. -/
def Settled (n : Nat) (frames : List Frame) : Prop :=
  ∀ k x, n ≤ k → k ≤ 6 → Reader.reduce k x frames = (x, frames)

/-- The reader holds `x` behind the operators in `pending`, which make it the operand `y` in the
constructs `frames`. The operators bind at least as tightly as `n`; with the strength of an operand
there are none. -/
structure Stands (n : Nat) (x : Operand) (pending : List Frame) (y : Operand)
    (frames : List Frame) : Prop where
  /-- At the end of the expression all operators are put together. -/
  settle : Reader.settle x pending = Reader.settle y frames
  /-- In front of an operator that binds less tightly they are put together. -/
  reduce : 1 ≤ n → ∀ k ≤ n, Reader.reduce k x pending = Reader.reduce k y frames
  /-- An operand waits for nothing. -/
  whole : n = 8 → x = y ∧ pending = frames

theorem Stands.refl {n : Nat} {x : Operand} {frames : List Frame} : Stands n x frames x frames :=
  ⟨rfl, fun _ _ _ => rfl, fun _ => ⟨rfl, rfl⟩⟩

/-- The characters are read as the formula where an operand is awaited, as long as the operators in
front of it bind less tightly than `n`. -/
structure Reads (n : Nat) (f : Formula) (cs : List Char) : Prop where
  /-- There is a first character, which is no blank. -/
  starts : ∃ c more, cs = c :: more ∧ isBlankChar c = false
  /-- Reading goes on behind the formula. -/
  gives : ∀ first Q s frames rest m, Awaits frames → Settled n frames → EndsFormula rest →
    Mark.rest m = cs ++ rest →
    (∀ x pending y last m', Stands n x pending y frames → f.IsOperand y →
      Token.kind last ≠ .newline → Mark.rest m' = rest →
      Gives .file first Q ⟨Newlines.brackets s, some last⟩ ⟨some x, pending⟩ m') →
    Gives .file first Q s ⟨none, frames⟩ m

/-! ## One step of writing -/

namespace Reader

variable {x y : Operand} {pending frames : List Frame} {t : Token} {heredoc : Draft (List Part)}

/-- In front of an operator the operand is put together with those that bind at least as tightly. -/
theorem feedAfter_operator {op : BinaryOp} (hop : operatorOf? t.kind = some op)
    (hreduce : reduce op.level x pending = (y, frames))
    (hheader : ∀ type labels more, frames ≠ .header type labels :: more) :
    feedAfter x pending t heredoc = inside (.binary y op :: frames) := by
  unfold feedAfter
  split
  · next type labels more => exact absurd (Prod.mk.inj hreduce).2.symm (hheader type labels more)
  · split
    · next h => rw [h] at hop; cases hop
    · next h => rw [h] at hop; cases hop
    · next h => rw [h] at hop; cases hop
    · simp only [hop, hreduce]

theorem feedAfter_question (ht : t.kind = .question) (hreduce : reduce 0 x pending = (y, frames))
    (hheader : ∀ type labels more, frames ≠ .header type labels :: more) :
    feedAfter x pending t heredoc = inside (.test y :: frames) := by
  unfold feedAfter
  split
  · next type labels more => exact absurd (Prod.mk.inj hreduce).2.symm (hheader type labels more)
  · simp only [ht, hreduce]

theorem feedAfter_dot (ht : t.kind = .dot)
    (hheader : ∀ type labels more, frames ≠ .header type labels :: more) :
    feedAfter x frames t heredoc = inside (.access x :: frames) := by
  unfold feedAfter
  split
  · next type labels more => exact absurd rfl (hheader type labels more)
  · simp only [ht]

end Reader

/-- The kind of an operator's token in front of an operand. -/
def signKind : UnaryOp → Kind
  | .negate => .minus
  | .not => .bang

/-- The kind of an operator's token between operands. -/
def operatorKind : BinaryOp → Kind
  | .sub => .minus
  | .mul => .star
  | op => .operator op

theorem operatorOf?_operatorKind (op : BinaryOp) :
    Reader.operatorOf? (operatorKind op) = some op := by
  cases op <;> rfl

theorem firstToken?_sign (op : UnaryOp) (cs : List Char) :
    firstToken? (allows operandKinds) (op.symbol.toList ++ cs) =
      some (signKind op, op.symbol.toList.length) := by
  cases op <;> rfl

theorem firstToken?_operator (op : BinaryOp) (cs : List Char) :
    firstToken? (allows afterOperandKinds) (op.symbol.toList ++ ' ' :: cs) =
      some (operatorKind op, op.symbol.toList.length) := by
  cases op <;> rfl

/-- A point is a token, unless two more follow. -/
theorem firstToken?_dot {cs : List Char} (h : ∀ c, cs.head? = some c → c ≠ '.') :
    firstToken? (allows afterOperandKinds) ('.' :: cs) = some (.dot, 1) := by
  cases cs with
  | nil => rfl
  | cons c cs =>
    have hellipsis : Kind.ellipsis.lengthAt ('.' :: c :: cs) = 0 := by
      simp [Kind.lengthAt, Kind.spelling, (h c rfl).symm]
    refine firstToken?_eq [.callName, .textChars, .templateChars, .heredoc, .number, .name,
      .lineComment, .blockComment, .blank, .digits, .word .endLoop, .word .endCond,
      .word .otherwise, .word .loop, .word .cond, .within, .ellipsis, .operator .le, .operator .ge,
      .operator .lt, .operator .gt, .operator .eq, .operator .ne, .operator .and, .openDirective,
      .openInterp, .operator .or, .arrow, .bang, .colon, .comma] _ rfl ?_ rfl rfl (by simp)
    intro k hk hallowed
    simp only [List.mem_cons, List.not_mem_nil, or_false] at hk
    repeat
      rcases hk with rfl | hk
      · first | rfl | exact hellipsis | cases hallowed

namespace Reads

variable {n : Nat} {cs cs' cs'' : List Char} {f g k : Formula} {sp : Spacing}

/-- A first character that is no blank stays the first. -/
theorem not_blank (h : Reads n f cs) {rest : List Char} :
    ∀ c, (cs ++ rest).head? = some c → isBlankChar c = false := by
  obtain ⟨c, more, rfl, hc⟩ := h.starts
  rintro _ ⟨⟩
  exact hc

theorem number (a : NumberLiteral) : Reads n (.number a) a.chars where
  starts := a.exists_head
  gives := by
    intro first Q s frames rest m hframes _ hrest hm hnext
    have hfeed : Reader.feed ⟨none, frames⟩ (.ok []) (m.token .number a.chars.length) =
        Reader.after (.ofNumber (m.token .number a.chars.length)) frames := hframes.begins _ _
    refine .takePlain .number rfl hm a.ne_nil ?_ (by rintro ⟨⟩) hfeed fun m' hm' =>
      hnext _ _ _ _ m' .refl (.ofNumber a (Mark.text_token hm _)) (by simp [Mark.token]) hm'
    rw [hframes.accepts, hm]
    exact firstToken?_number a hrest.numeral

theorem name (a : VariableName) : Reads n (.name a) a.chars where
  starts := by
    obtain ⟨c, more, hcs, hc⟩ := exists_isNameStart a.ne_nil a.whole
    exact ⟨c, more, hcs, isBlankChar_of_isNameStart hc⟩
  gives := by
    intro first Q s frames rest m hframes _ hrest hm hnext
    have hfeed : Reader.feed ⟨none, frames⟩ (.ok []) (m.token .name a.chars.length) =
        Reader.after (.ofName (m.token .name a.chars.length)) frames := hframes.begins _ _
    refine .takePlain .name rfl hm a.ne_nil ?_ (fun _ => ?_) hfeed fun m' hm' =>
      hnext _ _ _ _ m' .refl (.ofName a (Mark.text_token hm _)) (by simp [Mark.token]) hm'
    · rw [hframes.accepts, hm]
      exact firstToken?_name a.toIdentifier hrest.name rfl rfl rfl
    · rw [hframes.accepts]
      rfl

/-- In parentheses a formula is an operand. -/
theorem enclose (h : Reads 0 f cs) : Reads n f (sp.enclose cs) where
  starts := ⟨'(', _, rfl, rfl⟩
  gives := by
    intro first Q s frames rest m hframes _ hrest hm hnext
    have hm₀ : m.rest = ['('] ++ (sp.opened.chars ++ (cs ++ (sp.closed.chars ++ ')' :: rest))) := by
      simpa [Spacing.enclose] using hm
    refine .takeOne .openParen hm₀ (by simp) ?_ (by rintro ⟨⟩) rfl (by simp) rfl
      (hframes.begins _ _) fun m₁ hm₁ => ?_
    · rw [hframes.accepts, hm₀]
      rfl
    refine .gap sp.opened hm₁ h.not_blank rfl rfl fun m₂ hm₂ => ?_
    -- Behind the parenthesis no operator waits, so that a formula of any strength may stand there.
    refine h.gives _ _ _ _ _ m₂ awaits_parens (fun _ _ _ _ => rfl)
      (endsFormula_gap _ endsFormula_closeParen) hm₂ fun x pending y last m₃ hx hy hlast hm₃ => ?_
    refine .gap sp.closed hm₃ (by rintro _ ⟨⟩; rfl) rfl rfl fun m₄ hm₄ => ?_
    have hm₄' : m₄.rest = [')'] ++ rest := hm₄
    have hfeed : Reader.feed ⟨some x, pending⟩ (.ok []) (m₄.token .closeParen 1) =
        Reader.after (.parens m (m₄.offset + 1) y) frames :=
      Reader.feedAfter_eq_closeOperand hx.settle (by simp) (by simp [Mark.token])
        (by simp [Mark.token]) (by simp [Mark.token]) rfl
    refine .takeOne .closeParen hm₄' (by simp) ?_ (by rintro ⟨⟩) rfl (by simp) rfl hfeed
      fun m₅ hm₅ => hnext _ _ _ _ m₅ .refl (hy.parens _ _) (by simp [Mark.token]) hm₅
    rw [hm₄]
    rfl

/-- A step behind an operand. -/
theorem access (h : Reads 8 f cs) (name : Identifier) :
    Reads n (.access f name)
      (cs ++ (sp.beforePoint.chars ++ '.' :: (sp.behindPoint.chars ++ name.chars))) where
  starts := by
    obtain ⟨c, more, rfl, hc⟩ := h.starts
    exact ⟨c, _, rfl, hc⟩
  gives := by
    intro first Q s frames rest m hframes _ hrest hm hnext
    have hm₀ : m.rest = cs ++ (sp.beforePoint.chars ++
        '.' :: (sp.behindPoint.chars ++ (name.chars ++ rest))) := by
      simpa using hm
    have hdigit : ∀ d, (sp.behindPoint.chars ++ (name.chars ++ rest)).head? = some d →
        d.isDigit = false :=
      sp.behindPoint.forall_head (fun d => isDigit_of_isGap) fun d hd =>
        isDigit_of_isNameStart (name.isNameStart_head d hd)
    have hpoint : ∀ d, (sp.behindPoint.chars ++ (name.chars ++ rest)).head? = some d → d ≠ '.' :=
      sp.behindPoint.forall_head (by rintro _ h rfl; cases h) fun d hd => by
        rintro rfl
        cases name.isNameStart_head _ hd
    refine h.gives _ _ _ _ _ m hframes (fun _ _ _ _ => by omega)
      (endsFormula_gap _ (endsFormula_point hdigit)) hm₀ fun x pending y last m₁ hx hy _ hm₁ => ?_
    -- An operand leaves nothing pending, so it alone is what the step is taken from.
    obtain ⟨rfl, rfl⟩ := hx.whole rfl
    refine .gap sp.beforePoint hm₁ (by rintro _ ⟨⟩; rfl) rfl rfl fun m₂ hm₂ => ?_
    have hm₂' : m₂.rest = ['.'] ++ (sp.behindPoint.chars ++ (name.chars ++ rest)) := hm₂
    refine .takePlain .dot rfl hm₂' (by simp) ?_ (by rintro ⟨⟩)
      (Reader.feedAfter_dot rfl hframes.not_header) fun m₃ hm₃ => ?_
    · rw [hm₂]
      exact firstToken?_dot hpoint
    refine .gap sp.behindPoint hm₃ (fun d hd => ?_) rfl rfl fun m₄ hm₄ => ?_
    · exact isBlankChar_of_isNameStart (name.isNameStart_head d hd)
    refine .takePlain .name rfl hm₄ name.ne_nil ?_ (fun _ => rfl) rfl fun m₅ hm₅ =>
      hnext _ _ _ _ m₅ .refl (hy.getAttr name (Mark.text_token hm₄ _)) (by simp [Mark.token]) hm₅
    rw [hm₄]
    exact firstToken?_name name hrest.name rfl rfl rfl

theorem unary (op : UnaryOp) (h : Reads 7 f cs) (hn : n ≤ 7) :
    Reads n (.unary op f) (op.symbol.toList ++ (sp.sign.chars ++ cs)) where
  starts := by
    cases op <;> exact ⟨_, _, rfl, rfl⟩
  gives := by
    intro first Q s frames rest m hframes _ hrest hm hnext
    rw [List.append_assoc, List.append_assoc] at hm
    have hfeed : Reader.feed ⟨none, frames⟩ (.ok [])
        (m.token (signKind op) op.symbol.toList.length) =
          Reader.inside (.unary m op :: frames) := by
      cases op <;> exact hframes.begins _ _
    refine .takePlain (signKind op) (by cases op <;> rfl) hm (by cases op <;> simp [UnaryOp.symbol])
      ?_ (by cases op <;> rintro ⟨⟩) hfeed fun m₁ hm₁ => ?_
    · rw [hframes.accepts, hm]
      exact firstToken?_sign op _
    refine .gap sp.sign hm₁ h.not_blank rfl rfl fun m₂ hm₂ => ?_
    refine h.gives _ _ _ _ _ m₂ awaits_unary (fun _ _ _ _ => by omega) hrest hm₂
      fun x pending y last m₃ hx hy hlast hm₃ => ?_
    -- The sign is put together with its operand when an operator that binds less tightly comes.
    refine hnext x pending (.unary m op y) last m₃ ⟨hx.settle, ?_, ?_⟩ (hy.unary _ _) hlast hm₃
    · exact fun _ k hk => hx.reduce (by decide) k (Nat.le_trans hk hn)
    · omega

theorem binary (op : BinaryOp) (h : Reads op.level f cs) (h' : Reads (op.level + 1) g cs')
    (hn : n ≤ op.level) :
    Reads n (.binary op f g) (cs ++ ' ' :: (op.symbol.toList ++ ' ' :: cs')) where
  starts := by
    obtain ⟨c, more, rfl, hc⟩ := h.starts
    exact ⟨c, _, rfl, hc⟩
  gives := by
    intro first Q s frames rest m hframes hsettled hrest hm hnext
    have hm₀ : m.rest =
        cs ++ (Gap.blank.chars ++ (op.symbol.toList ++ (Gap.blank.chars ++ (cs' ++ rest)))) := by
      simpa [Gap.blank] using hm
    obtain ⟨c, more, hop, hgap, hblank, hparen⟩ : ∃ c more, op.symbol.toList = c :: more ∧
        isGap c = false ∧ isBlankChar c = false ∧ c ≠ '(' := by
      cases op <;> exact ⟨_, _, rfl, rfl, rfl, by decide⟩
    have hlevel := op.level_pos
    have hlevel' := op.level_le
    -- In front of the left operand no operator waits that would take it.
    refine h.gives _ _ _ _ _ m hframes (fun k x hk hk' => hsettled k x (by omega) hk') ?_ hm₀
      fun x pending y last m₁ hx hy _ hm₁ => ?_
    · rw [hop]
      exact endsFormula_blank hgap hparen
    refine .gap .blank hm₁ (by rw [hop]; rintro _ ⟨⟩; exact hblank) rfl rfl fun m₂ hm₂ => ?_
    -- The operator makes what stands on its left whole, and takes nothing from in front of that.
    have hreduce : Reader.reduce op.level x pending = (y, frames) :=
      (hx.reduce hlevel _ (Nat.le_refl _)).trans (hsettled _ y hn hlevel')
    refine .takePlain (operatorKind op) (by cases op <;> rfl) hm₂ (by rw [hop]; simp) ?_
      (by cases op <;> rintro ⟨⟩)
      (Reader.feedAfter_operator (operatorOf?_operatorKind op) hreduce hframes.not_header)
      fun m₃ hm₃ => ?_
    · rw [hm₂]
      exact firstToken?_operator op _
    refine .gap .blank hm₃ h'.not_blank rfl rfl fun m₄ hm₄ => ?_
    -- On its right only operators that bind more tightly are read before it is put together.
    refine h'.gives _ _ _ _ _ m₄ awaits_binary (fun k z hk hk' => ?_) hrest hm₄
      fun z pending' w last' m₅ hz hw hlast' hm₅ => ?_
    · rw [Reader.reduce, if_neg (by omega)]
    refine hnext z pending' (.binary y op w) last' m₅ ⟨hz.settle, ?_, ?_⟩ (hy.binary hw op) hlast'
      hm₅
    · intro _ k hk
      rw [hz.reduce (by omega) k (by omega), Reader.reduce, if_pos (by omega)]
    · omega

theorem conditional (h : Reads 1 f cs) (h' : Reads 0 g cs') (h'' : Reads 0 k cs'') :
    Reads 0 (.conditional f g k)
      (cs ++ ' ' :: '?' :: ' ' :: (cs' ++ ' ' :: ':' :: ' ' :: cs'')) where
  starts := by
    obtain ⟨c, more, rfl, hc⟩ := h.starts
    exact ⟨c, _, rfl, hc⟩
  gives := by
    intro first Q s frames rest m hframes hsettled hrest hm hnext
    have hm₀ : m.rest = cs ++ (Gap.blank.chars ++ (['?'] ++ (Gap.blank.chars ++
        (cs' ++ (Gap.blank.chars ++ ([':'] ++ (Gap.blank.chars ++ (cs'' ++ rest)))))))) := by
      simpa [Gap.blank] using hm
    refine h.gives _ _ _ _ _ m hframes (fun k x _ hk => hsettled k x (Nat.zero_le k) hk)
      (endsFormula_blank rfl (by decide)) hm₀ fun x pending y last m₁ hx hy _ hm₁ => ?_
    refine .gap .blank hm₁ (by rintro _ ⟨⟩; rfl) rfl rfl fun m₂ hm₂ => ?_
    have hm₂' : m₂.rest = ['?'] ++ (Gap.blank.chars ++
        (cs' ++ (Gap.blank.chars ++ ([':'] ++ (Gap.blank.chars ++ (cs'' ++ rest)))))) := hm₂
    -- The test ends here, since every operator binds more tightly than the question mark.
    have hreduce : Reader.reduce 0 x pending = (y, frames) :=
      (hx.reduce (by decide) 0 (by decide)).trans (hsettled 0 y (Nat.zero_le 0) (by decide))
    refine .takePlain .question rfl hm₂' (by simp) (by rw [hm₂]; rfl) (by rintro ⟨⟩)
      (Reader.feedAfter_question rfl hreduce hframes.not_header) fun m₃ hm₃ => ?_
    refine .gap .blank hm₃ h'.not_blank rfl rfl fun m₄ hm₄ => ?_
    refine h'.gives _ _ _ _ _ m₄ awaits_test (fun _ _ _ _ => rfl)
      (endsFormula_blank rfl (by decide)) hm₄ fun x' pending' y' last' m₅ hx' hy' _ hm₅ => ?_
    refine .gap .blank hm₅ (by rintro _ ⟨⟩; rfl) rfl rfl fun m₆ hm₆ => ?_
    have hm₆' : m₆.rest = [':'] ++ (Gap.blank.chars ++ (cs'' ++ rest)) := hm₆
    have hfeed : Reader.feed ⟨some x', pending'⟩ (.ok []) (m₆.token .colon 1) =
        Reader.inside (.branch y y' :: frames) :=
      Reader.feedAfter_eq_closeOperand hx'.settle (by simp) (by simp [Mark.token])
        (by simp [Mark.token]) (by simp [Mark.token]) rfl
    refine .takePlain .colon rfl hm₆' (by simp) (by rw [hm₆]; rfl) (by rintro ⟨⟩) hfeed
      fun m₇ hm₇ => ?_
    refine .gap .blank hm₇ h''.not_blank rfl rfl fun m₈ hm₈ => ?_
    refine h''.gives _ _ _ _ _ m₈ awaits_branch (fun _ _ _ _ => rfl) hrest hm₈
      fun x'' pending'' y'' last'' m₉ hx'' hy'' hlast'' hm₉ => ?_
    exact hnext x'' pending'' (.conditional y y' y'') last'' m₉
      ⟨hx''.settle, by omega, by omega⟩ (hy.conditional hy' hy'') hlast'' hm₉

/-- What binds less tightly is put in parentheses. -/
theorem within (h : ∀ n ≤ f.level, Reads n f cs) : Reads n f (sp.within n f.level cs) := by
  unfold Spacing.within
  split
  · exact (h 0 (Nat.zero_le _)).enclose
  · next hlevel => exact h n (Nat.le_of_not_lt hlevel)

end Reads

/-! ## Whole formulas -/

/-- A formula is read as what it is where the operators in front of it bind less tightly. -/
theorem reads_write (sp : Spacing) (f : Formula) : ∀ n ≤ f.level, Reads n f (f.write sp) := by
  induction f with
  | number a => exact fun n _ => .number a
  | name a => exact fun n _ => .name a
  | access f name ih => exact fun n _ => (Reads.within ih).access name
  | unary op f ih => exact fun n hn => (Reads.within ih).unary op hn
  | binary op f g ih ih' => exact fun n hn => (Reads.within ih).binary op (Reads.within ih') hn
  | conditional f g k ih ih' ih'' =>
    intro n hn
    obtain rfl := Nat.le_zero.1 hn
    exact (Reads.within ih).conditional (ih' 0 (Nat.zero_le _)) (ih'' 0 (Nat.zero_le _))

theorem valueText_write (sp : Spacing) (f : Formula) : ValueText (f.write sp) f.Is := by
  intro first Q s name outer rest m hrest hm hnext
  refine (reads_write sp f 0 (Nat.zero_le _)).gives first Q s _ rest m awaits_attribute
    (fun _ _ _ _ => rfl) (endsFormula_of_endsLine hrest) hm
    fun x pending y last m' hx ⟨e, hy, he⟩ hlast hm' => ?_
  exact hnext x y e pending last m' hx.settle hy he hlast hm'

/-- An attribute that is set to a formula is read as one, whatever blanks are left to choice. -/
theorem parse_formula (file : String) (sp : Spacing) (f : Formula) (newline : Bool) :
    ∃ e, parse file (attributeFile (f.write sp) newline) =
        .ok (.native [.attribute ⟨"x", e, ⟨file, 1, 1⟩⟩]) ∧ f.Is e := by
  have hstarts := (reads_write sp f 0 (Nat.zero_le _)).starts
  refine parse_attribute file ?_ (valueText_write sp f) newline
  obtain ⟨c, more, hcs, hc⟩ := hstarts
  rw [hcs]
  rintro _ ⟨⟩
  exact hc

end Native

end ResourceTables
