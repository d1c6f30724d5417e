import ResourceTables.Config.Body
import ResourceTables.Native.Operand
import ResourceTables.Proofs.Ensures
import ResourceTables.Proofs.Writing.Atoms

/-!
# The quoted texts of an expression

Every quoted text at any depth of an expression or of a body, and what keeps a property that all of
them have.

* `Expr.EachQuoted`, `Item.EachQuoted`: each quoted text of the expression, or of the item, has the
  property;
* `Part.ensures_ofItems`: putting the items of a template together makes no quoted texts;
* `Part.ensures_hasSequence`, `Part.ofItems_texts`: what is put together is a literal text only if
  there is no interpolation and no directive, and then nothing of it is lost;
* `Operand.EachQuoted`: neither do the forms of expressions make quoted texts.
-/

namespace ResourceTables

/-- The expression is written between quotes. -/
def Origin.isQuoted (o : Origin) : Bool :=
  o.source.toList.head? == some '"'

mutual

/-- Each quoted text in the expression has the property. -/
inductive Expr.EachQuoted (P : Origin → List Part → Prop) : Expr → Prop
  | literal {o value} : Expr.EachQuoted P (.literal o value)
  | template {o parts} (h : o.isQuoted = true → P o parts)
      (hparts : ∀ p ∈ parts, Part.EachQuoted P p) : Expr.EachQuoted P (.template o parts)
  | variable {o name} : Expr.EachQuoted P (.variable o name)
  | getAttr {o target name} (h : Expr.EachQuoted P target) :
      Expr.EachQuoted P (.getAttr o target name)
  | index {o target key} (h : Expr.EachQuoted P target) (hkey : Expr.EachQuoted P key) :
      Expr.EachQuoted P (.index o target key)
  | splat {o target steps full} (h : Expr.EachQuoted P target)
      (hsteps : ∀ s ∈ steps, Step.EachQuoted P s) :
      Expr.EachQuoted P (.splat o target steps full)
  | call {o name args spread} (h : ∀ e ∈ args, Expr.EachQuoted P e) :
      Expr.EachQuoted P (.call o name args spread)
  | tuple {o items} (h : ∀ e ∈ items, Expr.EachQuoted P e) : Expr.EachQuoted P (.tuple o items)
  | object {o items} (h : ∀ i ∈ items, ObjectItem.EachQuoted P i) :
      Expr.EachQuoted P (.object o items)
  | forTuple {o vars collection value cond} (h : Expr.EachQuoted P collection)
      (hvalue : Expr.EachQuoted P value) (hcond : ∀ e, cond = some e → Expr.EachQuoted P e) :
      Expr.EachQuoted P (.forTuple o vars collection value cond)
  | forObject {o vars collection key value cond grouping} (h : Expr.EachQuoted P collection)
      (hkey : Expr.EachQuoted P key) (hvalue : Expr.EachQuoted P value)
      (hcond : ∀ e, cond = some e → Expr.EachQuoted P e) :
      Expr.EachQuoted P (.forObject o vars collection key value cond grouping)
  | conditional {o cond yes no} (h : Expr.EachQuoted P cond) (hyes : Expr.EachQuoted P yes)
      (hno : Expr.EachQuoted P no) : Expr.EachQuoted P (.conditional o cond yes no)
  | binary {o op left right} (h : Expr.EachQuoted P left) (hright : Expr.EachQuoted P right) :
      Expr.EachQuoted P (.binary o op left right)
  | unary {o op operand} (h : Expr.EachQuoted P operand) :
      Expr.EachQuoted P (.unary o op operand)
  | parens {o inner} (h : Expr.EachQuoted P inner) : Expr.EachQuoted P (.parens o inner)

/-- Each quoted text in the part of a template has the property. -/
inductive Part.EachQuoted (P : Origin → List Part → Prop) : Part → Prop
  | text {s} : Part.EachQuoted P (.text s)
  | interp {e} (h : Expr.EachQuoted P e) : Part.EachQuoted P (.interp e)
  | cond {test yes no} (h : Expr.EachQuoted P test) (hyes : ∀ p ∈ yes, Part.EachQuoted P p)
      (hno : ∀ p ∈ no, Part.EachQuoted P p) : Part.EachQuoted P (.cond test yes no)
  | loop {vars collection body} (h : Expr.EachQuoted P collection)
      (hbody : ∀ p ∈ body, Part.EachQuoted P p) : Part.EachQuoted P (.loop vars collection body)

/-- Each quoted text in the step has the property. -/
inductive Step.EachQuoted (P : Origin → List Part → Prop) : Step → Prop
  | attr {name} : Step.EachQuoted P (.attr name)
  | index {key} (h : Expr.EachQuoted P key) : Step.EachQuoted P (.index key)

/-- Each quoted text in the key and in the value has the property. -/
inductive ObjectItem.EachQuoted (P : Origin → List Part → Prop) : ObjectItem → Prop
  | mk {key value} (h : Expr.EachQuoted P key) (hvalue : Expr.EachQuoted P value) :
      ObjectItem.EachQuoted P (.mk key value)

end

section Parts

variable {P : Origin → List Part → Prop}

@[simp]
theorem Part.eachQuoted_text (s : String) : (Part.text s).EachQuoted P :=
  .text

@[simp]
theorem Part.eachQuoted_interp {e : Expr} : (Part.interp e).EachQuoted P ↔ e.EachQuoted P :=
  ⟨fun | .interp h => h, .interp⟩

@[simp]
theorem Part.eachQuoted_cond {test : Expr} {yes no : List Part} :
    (Part.cond test yes no).EachQuoted P ↔
      test.EachQuoted P ∧ (∀ p ∈ yes, p.EachQuoted P) ∧ ∀ p ∈ no, p.EachQuoted P :=
  ⟨fun | .cond h hyes hno => ⟨h, hyes, hno⟩, fun ⟨h, hyes, hno⟩ => .cond h hyes hno⟩

@[simp]
theorem Part.eachQuoted_loop {vars : LoopVars} {e : Expr} {body : List Part} :
    (Part.loop vars e body).EachQuoted P ↔ e.EachQuoted P ∧ ∀ p ∈ body, p.EachQuoted P :=
  ⟨fun | .loop h hbody => ⟨h, hbody⟩, fun ⟨h, hbody⟩ => .loop h hbody⟩

end Parts

/-- The label of a block is a name, or the literal text of a template with the property. -/
def IsLabel (P : Origin → List Part → Prop) (label : String) : Prop :=
  (∃ n : Native.Identifier, label = n.text) ∨
    ∃ o parts, P o parts ∧ Part.literal? parts = some label

/-- Each quoted text in the item and in the items inside of it has the property, be it a label or in
an expression. -/
inductive Item.EachQuoted (P : Origin → List Part → Prop) : Item → Prop
  | attribute {a : Attribute} (h : a.expr.EachQuoted P) : EachQuoted P (.attribute a)
  | block {type labels pos items} (hlabels : ∀ l ∈ labels, IsLabel P l)
      (hitems : ∀ item ∈ items, EachQuoted P item) : EachQuoted P (.block type labels pos items)

namespace Native

variable {P : Origin → List Part → Prop}

/-! ## Templates -/

/-- Each quoted text in the directive has the property. -/
def Directive.EachQuoted (P : Origin → List Part → Prop) : Directive → Prop
  | .cond e | .loop _ e => e.EachQuoted P
  | _ => True

/-- Each quoted text in the item of a template has the property. -/
def TemplateItem.EachQuoted (P : Origin → List Part → Prop) : TemplateItem → Prop
  | .text _ => True
  | .interp _ e => e.EachQuoted P
  | .directive _ _ d => d.EachQuoted P

/-- Each quoted text in what has been read of the directive has the property. -/
def OpenDirective.EachQuoted (P : Origin → List Part → Prop) : OpenDirective → Prop
  | .cond _ test outer => test.EachQuoted P ∧ ∀ p ∈ outer, p.EachQuoted P
  | .otherwise _ test yes outer =>
    test.EachQuoted P ∧ (∀ p ∈ yes, p.EachQuoted P) ∧ ∀ p ∈ outer, p.EachQuoted P
  | .loop _ _ e outer => e.EachQuoted P ∧ ∀ p ∈ outer, p.EachQuoted P

namespace Part

open ResourceTables.Part (EachQuoted)

theorem eachQuoted_addText {s : String} {parts : List Part} (h : ∀ p ∈ parts, p.EachQuoted P) :
    ∀ p ∈ addText s parts, p.EachQuoted P := by
  unfold addText
  split
  · exact h
  · split
    · next before rest =>
      intro p hp
      rcases List.mem_cons.1 hp with rfl | hp
      · exact .text
      · exact h p (by simp [hp])
    · intro p hp
      rcases List.mem_cons.1 hp with rfl | hp
      · exact .text
      · exact h p hp

/-- Directives are closed without making or changing quoted texts. -/
theorem ensures_nest {stack : List OpenDirective} {parts : List Part} {items : List TemplateItem}
    (hstack : ∀ d ∈ stack, d.EachQuoted P) (hparts : ∀ p ∈ parts, p.EachQuoted P)
    (hitems : ∀ i ∈ items, i.EachQuoted P) :
    Ensures (fun parts => ∀ p ∈ parts, p.EachQuoted P) (nest stack parts items) := by
  fun_induction nest stack parts items with
  | case1 parts => exact .ok (by simpa using hparts)
  | case2 | case3 | case4 | case13 => exact .error
  | case5 stack parts s rest ih =>
    exact ih hstack (eachQuoted_addText hparts) fun i hi => hitems i (by simp [hi])
  | case6 _ _ _ _ _ ih | case7 _ _ _ _ _ _ ih | case8 _ _ _ _ _ _ _ ih
  | case9 _ _ _ _ _ _ _ _ ih | case10 _ _ _ _ _ _ _ _ ih | case11 _ _ _ _ _ _ _ _ _ ih
  | case12 _ _ _ _ _ _ _ _ _ ih =>
    simp only [List.forall_mem_cons, OpenDirective.EachQuoted, TemplateItem.EachQuoted,
      Directive.EachQuoted, ResourceTables.Part.eachQuoted_interp] at *
    apply ih <;> simp_all

theorem eachQuoted_trimAll {after : Bool} {items : List TemplateItem}
    (h : ∀ i ∈ items, i.EachQuoted P) :
    ∀ i ∈ TemplateItem.trimAll after items, i.EachQuoted P := by
  fun_induction TemplateItem.trimAll after items with
  | case1 => exact h
  | case2 after s rest _ _ ih => simp_all [TemplateItem.EachQuoted]
  | case3 after item rest _ ih => simp_all

/-- Putting a template together makes no quoted texts and changes none. -/
theorem ensures_ofItems {items : List TemplateItem} (h : ∀ i ∈ items, i.EachQuoted P) :
    Ensures (fun parts => ∀ p ∈ parts, p.EachQuoted P) (ofItems items) :=
  ensures_nest (by simp) (by simp) (eachQuoted_trimAll h)

/-! ## Literal texts -/

/-- Not all of the parts are literal texts. -/
def HasSequence (parts : List Part) : Prop :=
  ∃ p ∈ parts, ∀ s, p ≠ .text s

theorem literal?_eq_none {parts : List Part} (h : HasSequence parts) :
    ResourceTables.Part.literal? parts = none := by
  obtain ⟨p, hp, hnot⟩ := h
  induction parts with
  | nil => cases hp
  | cons q parts ih =>
    cases q with
    | text s =>
      rcases List.mem_cons.1 hp with rfl | hp
      · exact absurd rfl (hnot s)
      · rw [ResourceTables.Part.literal?, ih hp, Option.map_none]
    | _ => rfl

theorem hasSequence_addText {s : String} {parts : List Part} (h : HasSequence parts) :
    HasSequence (addText s parts) := by
  obtain ⟨p, hp, hnot⟩ := h
  unfold addText
  split
  · exact ⟨p, hp, hnot⟩
  · split
    · next before rest =>
      rcases List.mem_cons.1 hp with rfl | hp
      · exact absurd rfl (hnot before)
      · exact ⟨p, by simp [hp], hnot⟩
    · exact ⟨p, by simp [hp], hnot⟩

/-- An interpolation or a directive leaves a part that is no literal text. -/
theorem ensures_hasSequence_nest {stack : List OpenDirective} {parts : List Part}
    {items : List TemplateItem}
    (h : stack ≠ [] ∨ HasSequence parts ∨ ∃ i ∈ items, ∀ s, i ≠ .text s) :
    Ensures HasSequence (nest stack parts items) := by
  fun_induction nest stack parts items with
  | case1 parts =>
    obtain ⟨p, hp, hnot⟩ : HasSequence parts := by simpa using h
    exact .ok ⟨p, List.mem_reverse.2 hp, hnot⟩
  | case2 | case3 | case4 | case13 => exact .error
  | case5 stack parts s rest ih =>
    refine ih (h.imp_right (Or.imp hasSequence_addText ?_))
    rintro ⟨i, hi, hnot⟩
    rcases List.mem_cons.1 hi with rfl | hi
    · exact absurd rfl (hnot s)
    · exact ⟨i, hi, hnot⟩
  | case6 _ _ _ _ _ ih | case10 _ _ _ _ _ _ _ _ ih | case11 _ _ _ _ _ _ _ _ _ ih
  | case12 _ _ _ _ _ _ _ _ _ ih =>
    exact ih (.inr (.inl ⟨_, List.mem_cons_self, by simp⟩))
  -- A directive that is open becomes a part when it ends.
  | case7 _ _ _ _ _ _ ih | case8 _ _ _ _ _ _ _ ih | case9 _ _ _ _ _ _ _ _ ih =>
    exact ih (.inl (List.cons_ne_nil _ _))

theorem exists_not_text_trimAll {after : Bool} {items : List TemplateItem}
    (h : ∃ i ∈ items, ∀ s, i ≠ .text s) :
    ∃ i ∈ TemplateItem.trimAll after items, ∀ s, i ≠ .text s := by
  obtain ⟨i, hi, hnot⟩ := h
  fun_induction TemplateItem.trimAll after items with
  | case1 => cases hi
  | case2 after s rest _ _ ih =>
    rcases List.mem_cons.1 hi with rfl | hi
    · exact absurd rfl (hnot s)
    · obtain ⟨j, hj, hnot⟩ := ih hi
      exact ⟨j, by simp [hj], hnot⟩
  | case3 after item rest _ ih =>
    rcases List.mem_cons.1 hi with rfl | hi
    · exact ⟨i, List.mem_cons_self, hnot⟩
    · obtain ⟨j, hj, hnot⟩ := ih hi
      exact ⟨j, by simp [hj], hnot⟩

/-- A template with an interpolation or a directive is no literal text. -/
theorem ensures_hasSequence {items : List TemplateItem} (h : ∃ i ∈ items, ∀ s, i ≠ .text s) :
    Ensures HasSequence (ofItems items) :=
  ensures_hasSequence_nest (.inr (.inr (exists_not_text_trimAll h)))

/-- The items are literal texts. -/
def texts (pieces : List (List Char)) : List TemplateItem :=
  pieces.map fun piece => .text (String.ofList piece)

theorem trimAll_texts (pieces : List (List Char)) :
    TemplateItem.trimAll false (texts pieces) = texts pieces := by
  induction pieces with
  | nil => rfl
  | cons piece pieces ih =>
    have hnext : (texts pieces).head?.any TemplateItem.trimsBefore = false := by
      cases pieces <;> rfl
    rw [texts, List.map_cons, ← texts, TemplateItem.trimAll, ih, hnext]
    rfl

theorem addText_addText (s s' : String) : addText s' (addText s []) = addText (s ++ s') [] := by
  by_cases hs : s = ""
  · subst hs
    rw [String.empty_append]
    rfl
  by_cases hs' : s' = ""
  · subst hs'
    rw [String.append_empty]
    rfl
  simp [addText, String.isEmpty_iff, hs, hs']

/-- Literal texts are joined, and nothing of them is lost. -/
theorem ofItems_texts (pieces : List (List Char)) :
    ofItems (texts pieces) = .ok (addText (String.ofList pieces.flatten) []) := by
  -- The text that has been joined so far is the only part in front of the items.
  have hnest : ∀ s, nest [] (addText s []) (texts pieces) =
      .ok (addText (s ++ String.ofList pieces.flatten) []) := by
    induction pieces with
    | nil =>
      intro s
      have hreverse : (addText s []).reverse = addText s [] := by
        unfold addText
        split <;> rfl
      rw [texts, List.map_nil, nest, hreverse, List.flatten_nil, String.ofList_nil,
        String.append_empty]
    | cons piece pieces ih =>
      intro s
      rw [texts, List.map_cons, ← texts, nest, addText_addText, ih, List.flatten_cons,
        String.ofList_append, String.append_assoc]
  rw [ofItems, trimAll_texts]
  exact (hnest "").trans (by rw [String.empty_append])

end Part

/-! ## Operands -/

/-- Each quoted text in what the operand says has the property. -/
def Operand.EachQuoted (P : Origin → List Part → Prop) (x : Operand) : Prop :=
  Ensures (Expr.EachQuoted P) x.expr

/-- What the operand says is a template with the property. -/
def Operand.IsQuoted (P : Origin → List Part → Prop) (x : Operand) : Prop :=
  Ensures (fun e => ∃ o parts, e = .template o parts ∧ P o parts ∧ ∀ p ∈ parts, p.EachQuoted P)
    x.expr

/-- Each quoted text in what the keys and their values say has the property. -/
def PairsQuoted (P : Origin → List Part → Prop) (pairs : List (Operand × Operand)) : Prop :=
  ∀ p ∈ pairs, p.1.EachQuoted P ∧ p.2.EachQuoted P

@[simp]
theorem pairsQuoted_nil : PairsQuoted P [] := by
  simp [PairsQuoted]

@[simp]
theorem pairsQuoted_cons {x y : Operand} {pairs : List (Operand × Operand)} :
    PairsQuoted P ((x, y) :: pairs) ↔
      (x.EachQuoted P ∧ y.EachQuoted P) ∧ PairsQuoted P pairs :=
  List.forall_mem_cons

theorem PairsQuoted.reverse {pairs : List (Operand × Operand)} (h : PairsQuoted P pairs) :
    PairsQuoted P pairs.reverse :=
  fun p hp => h p (List.mem_reverse.1 hp)

namespace Operand

variable {x y z : Operand} {xs : List Operand} {t : Token} {start : Mark} {stop : Nat}

theorem IsQuoted.eachQuoted (h : x.IsQuoted P) : x.EachQuoted P := by
  refine h.mono fun e he => ?_
  obtain ⟨o, parts, rfl, hP, hparts⟩ := he
  exact .template (fun _ => hP) hparts

@[simp]
theorem eachQuoted_ofName : (ofName t).EachQuoted P := by
  refine .ok ?_
  split
  · exact .literal
  · exact .literal
  · exact .literal
  · exact .variable

theorem ensures_numberExpr : Ensures (Expr.EachQuoted P) (numberExpr t) := by
  unfold numberExpr
  dsimp only
  split
  · exact .ok .literal
  · exact .error

@[simp]
theorem eachQuoted_ofNumber : (ofNumber t).EachQuoted P :=
  ensures_numberExpr

theorem EachQuoted.getAttr (h : x.EachQuoted P) : (x.getAttr t).EachQuoted P := by
  refine .map h fun e he => ?_
  split
  · next steps full =>
    cases he with
    | splat h hsteps =>
      refine .splat h fun s hs => ?_
      rcases List.mem_append.1 hs with hs | hs
      · exact hsteps s hs
      · obtain rfl := List.mem_singleton.1 hs
        exact .attr
  · exact .getAttr he

theorem EachQuoted.index {key : Draft Expr} (h : x.EachQuoted P)
    (hkey : Ensures (Expr.EachQuoted P) key) : (x.index stop key).EachQuoted P := by
  refine .bind h fun e he => .bind hkey fun k hk => ?_
  split
  · cases he with
    | splat h hsteps =>
      refine .ok (.splat h fun s hs => ?_)
      rcases List.mem_append.1 hs with hs | hs
      · exact hsteps s hs
      · obtain rfl := List.mem_singleton.1 hs
        exact .index hk
  · exact .ok (.index he hk)

theorem EachQuoted.indexDigits (h : x.EachQuoted P) : (x.indexDigits t).EachQuoted P :=
  h.index ensures_numberExpr

theorem EachQuoted.splat {full : Bool} (h : x.EachQuoted P) : (x.splat stop full).EachQuoted P :=
  .map h fun _ he => .splat he (by simp)

theorem EachQuoted.parens (h : x.EachQuoted P) : (parens start stop x).EachQuoted P :=
  .map h fun _ he => .parens he

theorem EachQuoted.unary {op : UnaryOp} (h : x.EachQuoted P) : (unary start op x).EachQuoted P :=
  .map h fun _ he => .unary he

theorem EachQuoted.binary {op : BinaryOp} (hx : x.EachQuoted P) (hy : y.EachQuoted P) :
    (binary x op y).EachQuoted P :=
  .bind hx fun _ he => .bind hy fun _ hf => .ok (.binary he hf)

theorem EachQuoted.conditional (hx : x.EachQuoted P) (hy : y.EachQuoted P) (hz : z.EachQuoted P) :
    (conditional x y z).EachQuoted P :=
  .bind hx fun _ he => .bind hy fun _ hf => .bind hz fun _ hg => .ok (.conditional he hf hg)

theorem EachQuoted.tuple (h : ∀ x ∈ xs, x.EachQuoted P) : (tuple start stop xs).EachQuoted P :=
  .map (.mapM h) fun _ hes => .tuple hes

theorem EachQuoted.call {spread : Bool} (h : ∀ x ∈ xs, x.EachQuoted P) :
    (call t stop xs spread).EachQuoted P :=
  .bind (.mapM h) fun _ hes => .ok (.call hes)

theorem EachQuoted.object {pairs : List (Operand × Operand)} (h : PairsQuoted P pairs) :
    (object start stop pairs).EachQuoted P := by
  refine .map (.mapM fun p hp => ?_) fun _ hitems => .object hitems
  exact .bind (h p hp).1 fun _ hkey => .bind (h p hp).2 fun _ hvalue => .ok (.mk hkey hvalue)

theorem ensures_condition {cond : Option Operand} (h : ∀ x, cond = some x → x.EachQuoted P) :
    Ensures (fun e? => ∀ e, e? = some e → e.EachQuoted P) (condition cond) := by
  cases cond with
  | none => exact .ok (by simp)
  | some x => exact .bind (h x rfl) fun e he => .ok (by simpa using he)

theorem EachQuoted.forTuple {head : ForHead} {cond : Option Operand}
    (hhead : head.collection.EachQuoted P) (hx : x.EachQuoted P)
    (hcond : ∀ y, cond = some y → y.EachQuoted P) :
    (forTuple head stop x cond).EachQuoted P :=
  .bind hhead fun _ hcollection => .bind hx fun _ hvalue =>
    .bind (ensures_condition hcond) fun _ hc => .ok (.forTuple hcollection hvalue hc)

theorem EachQuoted.forObject {head : ForHead} {cond : Option Operand} {grouping : Bool}
    (hhead : head.collection.EachQuoted P) (hx : x.EachQuoted P) (hy : y.EachQuoted P)
    (hcond : ∀ y, cond = some y → y.EachQuoted P) :
    (forObject head stop x y cond grouping).EachQuoted P :=
  .bind hhead fun _ hcollection => .bind hx fun _ hkey => .bind hy fun _ hvalue =>
    .bind (ensures_condition hcond) fun _ hc => .ok (.forObject hcollection hkey hvalue hc)

end Operand

end Native

end ResourceTables
