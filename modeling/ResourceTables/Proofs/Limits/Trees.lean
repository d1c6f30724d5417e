import ResourceTables.Proofs.Limits.Operations
import ResourceTables.Proofs.Quotes.Trees

/-!
# Expressions within the limits

The numbers that an expression writes can be rounded, and its tuples and objects are not too long.
The forms of expressions keep this, and none of them fails but with an error that has words.

* `Expr.Bounded`: what is asked of an expression, at every depth;
* `Part.delivers_ofItems`: putting the items of a template together;
* `Operand.Bounded`, `Operand.Bounded.tuple` and the like: one lemma for each form;
* `EscapesInRange`, `Operand.bounded_ofQuoted`: a quoted text whose escapes name characters.
-/

namespace ResourceTables

mutual

/-- The numbers in the expression can be rounded, and its tuples and objects are not too long. -/
inductive Expr.Bounded : Expr → Prop
  | literal {o value} (h : ∀ d, value = .number d → d.Rounds) : Expr.Bounded (.literal o value)
  | template {o parts} (h : ∀ p ∈ parts, Part.Bounded p) : Expr.Bounded (.template o parts)
  | variable {o name} : Expr.Bounded (.variable o name)
  | getAttr {o target name} (h : Expr.Bounded target) : Expr.Bounded (.getAttr o target name)
  | index {o target key} (h : Expr.Bounded target) (hkey : Expr.Bounded key) :
      Expr.Bounded (.index o target key)
  | splat {o target steps full} (h : Expr.Bounded target) (hsteps : ∀ s ∈ steps, Step.Bounded s) :
      Expr.Bounded (.splat o target steps full)
  | call {o name args spread} (h : ∀ e ∈ args, Expr.Bounded e) :
      Expr.Bounded (.call o name args spread)
  | tuple {o items} (hlength : items.length ≤ itemLimit) (h : ∀ e ∈ items, Expr.Bounded e) :
      Expr.Bounded (.tuple o items)
  | object {o items} (hlength : items.length ≤ itemLimit) (h : ∀ i ∈ items, ObjectItem.Bounded i) :
      Expr.Bounded (.object o items)
  | forTuple {o vars collection value cond} (h : Expr.Bounded collection)
      (hvalue : Expr.Bounded value) (hcond : ∀ e, cond = some e → Expr.Bounded e) :
      Expr.Bounded (.forTuple o vars collection value cond)
  | forObject {o vars collection key value cond grouping} (h : Expr.Bounded collection)
      (hkey : Expr.Bounded key) (hvalue : Expr.Bounded value)
      (hcond : ∀ e, cond = some e → Expr.Bounded e) :
      Expr.Bounded (.forObject o vars collection key value cond grouping)
  | conditional {o cond yes no} (h : Expr.Bounded cond) (hyes : Expr.Bounded yes)
      (hno : Expr.Bounded no) : Expr.Bounded (.conditional o cond yes no)
  | binary {o op left right} (h : Expr.Bounded left) (hright : Expr.Bounded right) :
      Expr.Bounded (.binary o op left right)
  | unary {o op operand} (h : Expr.Bounded operand) : Expr.Bounded (.unary o op operand)
  | parens {o inner} (h : Expr.Bounded inner) : Expr.Bounded (.parens o inner)

/-- The expressions in the part of a template are bounded. -/
inductive Part.Bounded : Part → Prop
  | text {s} : Part.Bounded (.text s)
  | interp {e} (h : Expr.Bounded e) : Part.Bounded (.interp e)
  | cond {test yes no} (h : Expr.Bounded test) (hyes : ∀ p ∈ yes, Part.Bounded p)
      (hno : ∀ p ∈ no, Part.Bounded p) : Part.Bounded (.cond test yes no)
  | loop {vars collection body} (h : Expr.Bounded collection)
      (hbody : ∀ p ∈ body, Part.Bounded p) : Part.Bounded (.loop vars collection body)

/-- The key of the step is bounded. -/
inductive Step.Bounded : Step → Prop
  | attr {name} : Step.Bounded (.attr name)
  | index {key} (h : Expr.Bounded key) : Step.Bounded (.index key)

/-- The key and the value are bounded. -/
inductive ObjectItem.Bounded : ObjectItem → Prop
  | mk {key value} (h : Expr.Bounded key) (hvalue : Expr.Bounded value) :
      ObjectItem.Bounded (.mk key value)

end

@[simp]
theorem Part.bounded_interp {e : Expr} : (Part.interp e).Bounded ↔ e.Bounded :=
  ⟨fun | .interp h => h, .interp⟩

@[simp]
theorem Part.bounded_cond {test : Expr} {yes no : List Part} :
    (Part.cond test yes no).Bounded ↔
      test.Bounded ∧ (∀ p ∈ yes, p.Bounded) ∧ ∀ p ∈ no, p.Bounded :=
  ⟨fun | .cond h hyes hno => ⟨h, hyes, hno⟩, fun ⟨h, hyes, hno⟩ => .cond h hyes hno⟩

@[simp]
theorem Part.bounded_loop {vars : LoopVars} {e : Expr} {body : List Part} :
    (Part.loop vars e body).Bounded ↔ e.Bounded ∧ ∀ p ∈ body, p.Bounded :=
  ⟨fun | .loop h hbody => ⟨h, hbody⟩, fun ⟨h, hbody⟩ => .loop h hbody⟩

/-- The expressions at any depth of the item are bounded. -/
inductive Item.Bounded : Item → Prop
  | attribute {a : Attribute} (h : a.expr.Bounded) : Bounded (.attribute a)
  | block {type labels pos items} (h : ∀ item ∈ items, Bounded item) :
      Bounded (.block type labels pos items)

/-- The error is one of a text, and has words. -/
def ReadError.Worded (e : ReadError) : Prop :=
  e ≠ .beyondLimits

@[simp]
theorem ReadError.worded_malformed {e : ParseError} : (ReadError.malformed e).Worded := by
  simp [Worded]

namespace Native

/-! ## Templates -/

/-- The expression of the directive is bounded. -/
def Directive.Bounded : Directive → Prop
  | .cond e | .loop _ e => e.Bounded
  | _ => True

/-- The expression of the item of a template is bounded. -/
def TemplateItem.Bounded : TemplateItem → Prop
  | .text _ => True
  | .interp _ e => e.Bounded
  | .directive _ _ d => d.Bounded

/-- The expressions in what has been read of the directive are bounded. -/
def OpenDirective.Bounded : OpenDirective → Prop
  | .cond _ test outer => test.Bounded ∧ ∀ p ∈ outer, p.Bounded
  | .otherwise _ test yes outer =>
    test.Bounded ∧ (∀ p ∈ yes, p.Bounded) ∧ ∀ p ∈ outer, p.Bounded
  | .loop _ _ e outer => e.Bounded ∧ ∀ p ∈ outer, p.Bounded

namespace Part

theorem bounded_addText {s : String} {parts : List Part} (h : ∀ p ∈ parts, p.Bounded) :
    ∀ p ∈ addText s parts, p.Bounded := by
  unfold addText
  split
  · exact h
  · split
    · exact List.forall_mem_cons.2 ⟨.text, (List.forall_mem_cons.1 h).2⟩
    · exact List.forall_mem_cons.2 ⟨.text, h⟩

/-- A directive that is missing or that is too much has words, and the others become parts. -/
theorem delivers_nest {stack : List OpenDirective} {parts : List Part} {items : List TemplateItem}
    (hstack : ∀ d ∈ stack, d.Bounded) (hparts : ∀ p ∈ parts, p.Bounded)
    (hitems : ∀ i ∈ items, i.Bounded) :
    Delivers (fun parts => ∀ p ∈ parts, p.Bounded) ReadError.Worded (nest stack parts items) := by
  fun_induction nest stack parts items with
  | case1 parts => exact .ok (by simpa using hparts)
  | case2 | case3 | case4 | case13 => exact .error ReadError.worded_malformed
  | case5 stack parts s rest ih =>
    exact ih hstack (bounded_addText hparts) fun i hi => hitems i (by simp [hi])
  | case6 _ _ _ _ _ ih | case7 _ _ _ _ _ _ ih | case8 _ _ _ _ _ _ _ ih
  | case9 _ _ _ _ _ _ _ _ ih | case10 _ _ _ _ _ _ _ _ ih | case11 _ _ _ _ _ _ _ _ _ ih
  | case12 _ _ _ _ _ _ _ _ _ ih =>
    simp only [List.forall_mem_cons, OpenDirective.Bounded, TemplateItem.Bounded,
      Directive.Bounded, ResourceTables.Part.bounded_interp] at *
    apply ih <;> simp_all

theorem bounded_trimAll {after : Bool} {items : List TemplateItem} (h : ∀ i ∈ items, i.Bounded) :
    ∀ i ∈ TemplateItem.trimAll after items, i.Bounded := by
  fun_induction TemplateItem.trimAll after items with
  | case1 => exact h
  | case2 after s rest _ _ ih => simp_all [TemplateItem.Bounded]
  | case3 after item rest _ ih => simp_all

theorem delivers_ofItems {items : List TemplateItem} (h : ∀ i ∈ items, i.Bounded) :
    Delivers (fun parts => ∀ p ∈ parts, p.Bounded) ReadError.Worded (ofItems items) :=
  delivers_nest (by simp) (by simp) (bounded_trimAll h)

end Part

/-! ## Operands -/

/-- What the operand says is bounded, and a fault in it has words. -/
def Operand.Bounded (x : Operand) : Prop :=
  Delivers Expr.Bounded ReadError.Worded x.expr

/-- What the keys and their values say is bounded. -/
def PairsBounded (pairs : List (Operand × Operand)) : Prop :=
  ∀ p ∈ pairs, p.1.Bounded ∧ p.2.Bounded

@[simp]
theorem pairsBounded_nil : PairsBounded [] := by
  simp [PairsBounded]

@[simp]
theorem pairsBounded_cons {x y : Operand} {pairs : List (Operand × Operand)} :
    PairsBounded ((x, y) :: pairs) ↔ (x.Bounded ∧ y.Bounded) ∧ PairsBounded pairs :=
  List.forall_mem_cons

theorem PairsBounded.reverse {pairs : List (Operand × Operand)} (h : PairsBounded pairs) :
    PairsBounded pairs.reverse :=
  fun p hp => h p (List.mem_reverse.1 hp)

namespace Operand

variable {x y z : Operand} {xs : List Operand} {t : Token} {start : Mark} {stop : Nat}

@[simp]
theorem bounded_ofName : (ofName t).Bounded := by
  refine .ok ?_
  split
  · exact .literal nofun
  · exact .literal nofun
  · exact .literal nofun
  · exact .variable

theorem delivers_numberExpr (h : (Decimal.ofLiteral false t.text.toList).InRange) :
    Delivers Expr.Bounded ReadError.Worded (numberExpr t) := by
  unfold numberExpr
  dsimp only
  rw [if_pos h.1]
  refine .ok (.literal ?_)
  rintro _ ⟨⟩
  exact h.rounds

theorem Bounded.getAttr (h : x.Bounded) : (x.getAttr t).Bounded := by
  refine .map h fun e he => ?_
  split
  · next steps full =>
    cases he with
    | splat h hsteps =>
      exact .splat h (List.forall_mem_append.2 ⟨hsteps, by simpa using .attr⟩)
  · exact .getAttr he

theorem Bounded.index {key : Draft Expr} (h : x.Bounded)
    (hkey : Delivers Expr.Bounded ReadError.Worded key) : (x.index stop key).Bounded := by
  refine .bind h fun e he => .bind hkey fun k hk => ?_
  split
  · cases he with
    | splat h hsteps =>
      exact .ok (.splat h (List.forall_mem_append.2 ⟨hsteps, by simpa using .index hk⟩))
  · exact .ok (.index he hk)

theorem Bounded.splat {full : Bool} (h : x.Bounded) : (x.splat stop full).Bounded :=
  .map h fun _ he => .splat he (by simp)

theorem Bounded.parens (h : x.Bounded) : (parens start stop x).Bounded :=
  .map h fun _ he => .parens he

theorem Bounded.unary {op : UnaryOp} (h : x.Bounded) : (unary start op x).Bounded :=
  .map h fun _ he => .unary he

theorem Bounded.binary {op : BinaryOp} (hx : x.Bounded) (hy : y.Bounded) :
    (binary x op y).Bounded :=
  .bind hx fun _ he => .bind hy fun _ hf => .ok (.binary he hf)

theorem Bounded.conditional (hx : x.Bounded) (hy : y.Bounded) (hz : z.Bounded) :
    (conditional x y z).Bounded :=
  .bind hx fun _ he => .bind hy fun _ hf => .bind hz fun _ hg => .ok (.conditional he hf hg)

theorem Bounded.tuple (hlength : xs.length ≤ itemLimit) (h : ∀ x ∈ xs, x.Bounded) :
    (tuple start stop xs).Bounded :=
  .map (.mapM h) fun _ hes => .tuple (hes.1.trans_le hlength) hes.2

theorem Bounded.call {spread : Bool} (h : ∀ x ∈ xs, x.Bounded) : (call t stop xs spread).Bounded :=
  .bind (.mapM h) fun _ hes => .ok (.call hes.2)

theorem Bounded.object {pairs : List (Operand × Operand)} (hlength : pairs.length ≤ itemLimit)
    (h : PairsBounded pairs) : (object start stop pairs).Bounded := by
  refine .map (.mapM fun p hp => ?_) fun _ hitems => .object (hitems.1.trans_le hlength) hitems.2
  exact .bind (h p hp).1 fun _ hkey => .bind (h p hp).2 fun _ hvalue => .ok (.mk hkey hvalue)

theorem delivers_condition {cond : Option Operand} (h : ∀ x, cond = some x → x.Bounded) :
    Delivers (fun e? => ∀ e, e? = some e → e.Bounded) ReadError.Worded (condition cond) := by
  cases cond with
  | none => exact .ok (by simp)
  | some x => exact .bind (h x rfl) fun e he => .ok (by simpa using he)

theorem Bounded.forTuple {head : ForHead} {cond : Option Operand} (hhead : head.collection.Bounded)
    (hx : x.Bounded) (hcond : ∀ y, cond = some y → y.Bounded) :
    (forTuple head stop x cond).Bounded :=
  .bind hhead fun _ hcollection => .bind hx fun _ hvalue =>
    .bind (delivers_condition hcond) fun _ hc => .ok (.forTuple hcollection hvalue hc)

theorem Bounded.forObject {head : ForHead} {cond : Option Operand} {grouping : Bool}
    (hhead : head.collection.Bounded) (hx : x.Bounded) (hy : y.Bounded)
    (hcond : ∀ y, cond = some y → y.Bounded) :
    (forObject head stop x y cond grouping).Bounded :=
  .bind hhead fun _ hcollection => .bind hx fun _ hkey => .bind hy fun _ hvalue =>
    .bind (delivers_condition hcond) fun _ hc => .ok (.forObject hcollection hkey hvalue hc)

/-- A heredoc holds its template. -/
theorem bounded_ofHeredoc {parts : Draft (List Part)}
    (h : Delivers (fun parts => ∀ p ∈ parts, p.Bounded) ReadError.Worded parts) :
    (ofHeredoc t parts).Bounded :=
  .map h fun _ hparts => .template hparts

end Operand

/-! ## Escapes -/

/-- The code points that the escapes between quotes name. -/
def codePoints : List Char → List Nat
  | '\\' :: c :: rest =>
    let width := if c = 'u' then 4 else if c = 'U' then 8 else 0
    if width ≠ 0 ∧ startsWithHex width rest then
      (Text.readHex? (rest.take width)).toList ++ codePoints rest
    else codePoints rest
  | _ :: rest => codePoints rest
  | [] => []

/-- No escape names a code point above the last one. -/
def EscapesInRange (cs : List Char) : Prop :=
  ∀ n ∈ codePoints cs, n < 0x110000

theorem codePoints_append {ds : List Char} (h : '\\' ∉ ds) (cs : List Char) :
    codePoints (ds ++ cs) = codePoints cs := by
  induction ds with
  | nil => rfl
  | cons d ds ih =>
    obtain ⟨hd, hds⟩ : '\\' ≠ d ∧ '\\' ∉ ds := by simpa using h
    rw [List.cons_append, codePoints.eq_2 _ _ fun _ _ heq => absurd heq.symm hd, ih hds]

theorem exists_readHex? {ds : List Char} (h : ∀ c ∈ ds, (Text.hexValue? c).isSome) :
    ∃ n, Text.readHex? ds = some n := by
  have hfrom : ∀ n, ∃ m, ds.foldlM (fun n c => (Text.hexValue? c).map (16 * n + ·)) n = some m := by
    induction ds with
    | nil => exact fun n => ⟨n, rfl⟩
    | cons c ds ih =>
      intro n
      obtain ⟨v, hv⟩ := Option.isSome_iff_exists.1 (h c (by simp))
      rw [List.foldlM_cons, hv]
      exact ih (fun d hd => h d (by simp [hd])) (16 * n + v)
  exact hfrom 0

/-- Behind an escape the text goes on after its digits. -/
theorem codePoints_escape {c : Char} {width : Nat} {rest : List Char}
    (hwidth : width = if c = 'u' then 4 else if c = 'U' then 8 else 0) (hne : width ≠ 0)
    (h : startsWithHex width rest) :
    ∃ n, Text.readHex? (rest.take width) = some n ∧
      codePoints ('\\' :: c :: rest) = n :: codePoints (rest.drop width) := by
  obtain ⟨-, hdigits⟩ : _ ∧ ∀ c ∈ rest.take width, (Text.hexValue? c).isSome := by
    simpa [startsWithHex] using h
  obtain ⟨n, hn⟩ := exists_readHex? hdigits
  have hslash : '\\' ∉ rest.take width := fun hmem => by
    have hvalue := hdigits _ hmem
    cases hvalue
  refine ⟨n, hn, ?_⟩
  rw [codePoints, ← hwidth, if_pos ⟨hne, h⟩, hn]
  conv_lhs => rw [← List.take_append_drop width rest]
  rw [codePoints_append hslash]
  rfl

/-- Literal characters between quotes have a meaning, or an escape is unknown. -/
theorem delivers_decodeQuotedFrom {fuel : Nat} {cs : List Char} (h : EscapesInRange cs) :
    Delivers (fun _ => True) (· ≠ .noCharacter) (decodeQuotedFrom fuel cs) := by
  fun_induction decodeQuotedFrom fuel cs with
  | case1 => exact .ok True.intro
  | case2 => exact .ok True.intro
  | case3 fuel c rest width hwidth _ _ ih =>
    obtain ⟨n, -, hpoints⟩ := codePoints_escape rfl hwidth.1 hwidth.2
    rw [EscapesInRange, hpoints, List.forall_mem_cons] at h
    exact .map (ih h.2) fun _ _ => True.intro
  | case4 fuel c rest width hwidth hnone =>
    -- The digits name a code point, and there is none for them only above the last one.
    obtain ⟨n, hn, hpoints⟩ := codePoints_escape rfl hwidth.1 hwidth.2
    have hlt : n < 0x110000 := h n (by rw [hpoints]; exact List.mem_cons_self)
    rw [charOfHex?, hn, Option.bind_some, if_pos hlt] at hnone
    cases hnone
  | case5 fuel c rest width hwidth _ _ ih =>
    rw [EscapesInRange, codePoints, if_neg hwidth] at h
    exact .map (ih h) fun _ _ => True.intro
  | case6 => exact .error (by simp)
  | case7 fuel rest ih => exact .map (ih h) fun _ _ => True.intro
  | case8 fuel rest ih => exact .map (ih h) fun _ _ => True.intro
  | case9 fuel c rest hescape _ _ ih =>
    rw [EscapesInRange, codePoints.eq_2 _ _ hescape] at h
    exact .map (ih h) fun _ _ => True.intro

/-- The item of a quoted text is bounded, and its literal characters have a meaning. -/
def TemplateItem.Readable : TemplateItem → Prop
  | .text raw => EscapesInRange raw.toList
  | item => item.Bounded

theorem delivers_decodeItem {item : TemplateItem} (h : item.Readable) (pos : Pos) :
    Delivers TemplateItem.Bounded ReadError.Worded (Operand.decodeItem pos item) := by
  cases item with
  | text raw =>
    have hdecode : Delivers (fun _ => True) (· ≠ .noCharacter) (decodeQuoted raw.toList) :=
      delivers_decodeQuotedFrom h
    unfold Operand.decodeItem
    dsimp only
    split
    · exact .ok True.intro
    · exact .error ReadError.worded_malformed
    · next hfault => exact absurd rfl (hdecode.failsWith _ hfault)
  | interp trim e => exact .ok h
  | directive trim pos d => exact .ok h

/-- A quoted text whose items are readable. -/
theorem Operand.bounded_ofQuoted {start : Mark} {stop : Nat} {items : List (Draft TemplateItem)}
    (h : ∀ d ∈ items, Delivers TemplateItem.Readable ReadError.Worded d) :
    (ofQuoted start stop items).Bounded := by
  refine .bind (.mapM h) fun read hread => ?_
  refine .bind (.mapM fun i hi => delivers_decodeItem (hread.2 i hi) start.pos)
    fun decoded hdecoded => ?_
  exact .bind (Part.delivers_ofItems hdecoded.2) fun parts hparts => .ok (.template hparts)

end Native

end ResourceTables
