import ResourceTables.Proofs.Positions.Lines

/-!
# Expressions in their places

The forms of expressions put parts together that have their places in the file, from the place where
the first of them begins. So each expression, at any depth, begins on the line that its place
counts.

* `Expr.Stands`: the first line of the expression's source is found on the line of its place;
* `Expr.Each`, `Item.Stands`: so it is with all expressions in an expression, and in an item;
* `Operand.Stands`, `Operand.Stands.tuple` and the like: one lemma for each form;
* `Part.ensures_each_ofItems`: putting the items of a template together.
-/

namespace ResourceTables

/-- A name in the expression is a name. -/
def Expr.Named : Expr → Prop
  | .variable _ s | .getAttr _ _ s => ∃ n : Native.Identifier, s = n.text
  | _ => True

/-- The first line of the expression's source stands on the line of its place. -/
structure Expr.Stands (text : List Char) (e : Expr) : Prop where
  /-- It is found there. -/
  onLine : OnLine text e.pos.line (firstLine e.source.toList)
  /-- A name is one. -/
  named : e.Named

mutual

/-- The expression and all expressions in it have the property. -/
inductive Expr.Each (P : Expr → Prop) : Expr → Prop
  | literal {o value} (h : P (.literal o value)) : Expr.Each P (.literal o value)
  | template {o parts} (h : P (.template o parts)) (hparts : ∀ p ∈ parts, Part.Each P p) :
      Expr.Each P (.template o parts)
  | variable {o name} (h : P (.variable o name)) : Expr.Each P (.variable o name)
  | getAttr {o target name} (h : P (.getAttr o target name)) (htarget : Expr.Each P target) :
      Expr.Each P (.getAttr o target name)
  | index {o target key} (h : P (.index o target key)) (htarget : Expr.Each P target)
      (hkey : Expr.Each P key) : Expr.Each P (.index o target key)
  | splat {o target steps full} (h : P (.splat o target steps full))
      (htarget : Expr.Each P target) (hsteps : ∀ s ∈ steps, Step.Each P s) :
      Expr.Each P (.splat o target steps full)
  | call {o name args spread} (h : P (.call o name args spread))
      (hargs : ∀ e ∈ args, Expr.Each P e) : Expr.Each P (.call o name args spread)
  | tuple {o items} (h : P (.tuple o items)) (hitems : ∀ e ∈ items, Expr.Each P e) :
      Expr.Each P (.tuple o items)
  | object {o items} (h : P (.object o items)) (hitems : ∀ i ∈ items, ObjectItem.Each P i) :
      Expr.Each P (.object o items)
  | forTuple {o vars collection value cond} (h : P (.forTuple o vars collection value cond))
      (hcollection : Expr.Each P collection) (hvalue : Expr.Each P value)
      (hcond : ∀ e, cond = some e → Expr.Each P e) :
      Expr.Each P (.forTuple o vars collection value cond)
  | forObject {o vars collection key value cond grouping}
      (h : P (.forObject o vars collection key value cond grouping))
      (hcollection : Expr.Each P collection) (hkey : Expr.Each P key)
      (hvalue : Expr.Each P value) (hcond : ∀ e, cond = some e → Expr.Each P e) :
      Expr.Each P (.forObject o vars collection key value cond grouping)
  | conditional {o cond yes no} (h : P (.conditional o cond yes no)) (hcond : Expr.Each P cond)
      (hyes : Expr.Each P yes) (hno : Expr.Each P no) : Expr.Each P (.conditional o cond yes no)
  | binary {o op left right} (h : P (.binary o op left right)) (hleft : Expr.Each P left)
      (hright : Expr.Each P right) : Expr.Each P (.binary o op left right)
  | unary {o op operand} (h : P (.unary o op operand)) (hoperand : Expr.Each P operand) :
      Expr.Each P (.unary o op operand)
  | parens {o inner} (h : P (.parens o inner)) (hinner : Expr.Each P inner) :
      Expr.Each P (.parens o inner)

/-- All expressions in the part of a template have the property. -/
inductive Part.Each (P : Expr → Prop) : Part → Prop
  | text {s} : Part.Each P (.text s)
  | interp {e} (h : Expr.Each P e) : Part.Each P (.interp e)
  | cond {test yes no} (h : Expr.Each P test) (hyes : ∀ p ∈ yes, Part.Each P p)
      (hno : ∀ p ∈ no, Part.Each P p) : Part.Each P (.cond test yes no)
  | loop {vars collection body} (h : Expr.Each P collection)
      (hbody : ∀ p ∈ body, Part.Each P p) : Part.Each P (.loop vars collection body)

/-- All expressions in the step have the property. -/
inductive Step.Each (P : Expr → Prop) : Step → Prop
  | attr {name} : Step.Each P (.attr name)
  | index {key} (h : Expr.Each P key) : Step.Each P (.index key)

/-- All expressions in the key and in the value have the property. -/
inductive ObjectItem.Each (P : Expr → Prop) : ObjectItem → Prop
  | mk {key value} (h : Expr.Each P key) (hvalue : Expr.Each P value) :
      ObjectItem.Each P (.mk key value)

end

section Parts

variable {P : Expr → Prop}

@[simp]
theorem Part.each_text (s : String) : (Part.text s).Each P :=
  .text

@[simp]
theorem Part.each_interp {e : Expr} : (Part.interp e).Each P ↔ e.Each P :=
  ⟨fun | .interp h => h, .interp⟩

@[simp]
theorem Part.each_cond {test : Expr} {yes no : List Part} :
    (Part.cond test yes no).Each P ↔
      test.Each P ∧ (∀ p ∈ yes, p.Each P) ∧ ∀ p ∈ no, p.Each P :=
  ⟨fun | .cond h hyes hno => ⟨h, hyes, hno⟩, fun ⟨h, hyes, hno⟩ => .cond h hyes hno⟩

@[simp]
theorem Part.each_loop {vars : LoopVars} {e : Expr} {body : List Part} :
    (Part.loop vars e body).Each P ↔ e.Each P ∧ ∀ p ∈ body, p.Each P :=
  ⟨fun | .loop h hbody => ⟨h, hbody⟩, fun ⟨h, hbody⟩ => .loop h hbody⟩

end Parts

/-- The name of an attribute and the type of a block stand on the line of its place, and so do all
expressions in the item. -/
inductive Item.Stands (text : List Char) : Item → Prop
  | attribute {a : Attribute} (h : OnLine text a.pos.line a.name.toList)
      (hexpr : a.expr.Each (Expr.Stands text)) : Stands text (.attribute a)
  | block {type labels pos items} (h : OnLine text pos.line type.toList)
      (hitems : ∀ item ∈ items, Stands text item) : Stands text (.block type labels pos items)

namespace Native

variable {file text : String}

/-! ## Templates -/

/-- The expression behind the keyword of the directive. -/
def Directive.expr? : Directive → Option Expr
  | .cond e | .loop _ e => some e
  | .otherwise | .endCond | .endLoop => none

/-- The keyword of the directive is met at the place, and the expressions in the directive stand in
their places. -/
structure Directive.Stands (file text : String) (pos : Pos) (d : Directive) : Prop where
  /-- The keyword is met there. -/
  keyword : KeywordAt file text pos d.word
  /-- The expressions stand in their places. -/
  expr : ∀ e, d.expr? = some e → e.Each (Expr.Stands text.toList)

/-- The item of a template stands in its place. -/
def TemplateItem.Stands (file text : String) : TemplateItem → Prop
  | .text _ => True
  | .interp _ e => e.Each (Expr.Stands text.toList)
  | .directive _ pos d => d.Stands file text pos

/-- The expressions in what has been read of the directive have the property. -/
def OpenDirective.Each (P : Expr → Prop) : OpenDirective → Prop
  | .cond _ test outer => test.Each P ∧ ∀ p ∈ outer, p.Each P
  | .otherwise _ test yes outer =>
    test.Each P ∧ (∀ p ∈ yes, p.Each P) ∧ ∀ p ∈ outer, p.Each P
  | .loop _ _ e outer => e.Each P ∧ ∀ p ∈ outer, p.Each P

namespace Part

theorem each_addText {P : Expr → Prop} {s : String} {parts : List Part}
    (h : ∀ p ∈ parts, p.Each P) : ∀ p ∈ addText s parts, p.Each P := by
  unfold addText
  split
  · exact h
  · split
    · exact List.forall_mem_cons.2 ⟨.text, (List.forall_mem_cons.1 h).2⟩
    · exact List.forall_mem_cons.2 ⟨.text, h⟩

theorem ensures_each_nest {stack : List OpenDirective} {parts : List Part}
    {items : List TemplateItem} (hstack : ∀ d ∈ stack, d.Each (Expr.Stands text.toList))
    (hparts : ∀ p ∈ parts, p.Each (Expr.Stands text.toList))
    (hitems : ∀ i ∈ items, i.Stands file text) :
    Ensures (fun parts => ∀ p ∈ parts, p.Each (Expr.Stands text.toList))
      (nest stack parts items) := by
  fun_induction nest stack parts items with
  | case1 parts => exact .ok (by simpa using hparts)
  | case2 | case3 | case4 | case13 => exact .error
  | case5 stack parts s rest ih =>
    exact ih hstack (each_addText hparts) fun i hi => hitems i (by simp [hi])
  -- What is open keeps its own expression and the parts in front of it.
  | case7 stack parts trim pos rest test ih =>
    obtain ⟨hitem, hrest⟩ := List.forall_mem_cons.1 hitems
    exact ih (List.forall_mem_cons.2 ⟨⟨hitem.expr _ rfl, hparts⟩, hstack⟩) (by simp) hrest
  | case8 stack parts trim pos rest vars collection ih =>
    obtain ⟨hitem, hrest⟩ := List.forall_mem_cons.1 hitems
    exact ih (List.forall_mem_cons.2 ⟨⟨hitem.expr _ rfl, hparts⟩, hstack⟩) (by simp) hrest
  | case6 _ _ _ _ _ ih | case9 _ _ _ _ _ _ _ _ ih | case10 _ _ _ _ _ _ _ _ ih
  | case11 _ _ _ _ _ _ _ _ _ ih | case12 _ _ _ _ _ _ _ _ _ ih =>
    simp only [List.forall_mem_cons, OpenDirective.Each, TemplateItem.Stands,
      ResourceTables.Part.each_interp] at *
    apply ih <;> simp_all

theorem stands_trimAll {after : Bool} {items : List TemplateItem}
    (h : ∀ i ∈ items, i.Stands file text) :
    ∀ i ∈ TemplateItem.trimAll after items, i.Stands file text := by
  fun_induction TemplateItem.trimAll after items with
  | case1 => exact h
  | case2 after s rest _ _ ih => simp_all [TemplateItem.Stands]
  | case3 after item rest _ ih => simp_all

/-- Putting a template together leaves the expressions in their places. -/
theorem ensures_each_ofItems {items : List TemplateItem} (h : ∀ i ∈ items, i.Stands file text) :
    Ensures (fun parts => ∀ p ∈ parts, p.Each (Expr.Stands text.toList)) (ofItems items) :=
  ensures_each_nest (by simp) (by simp) (stands_trimAll h)

end Part

/-! ## Operands -/

/-- An expression that reaches from a place of the file stands there. -/
theorem Mark.Located.stands {m : Mark} (h : m.Located text.toList) {stop : Nat} {e : Expr}
    (ho : e.origin = m.originTo stop) (hnamed : e.Named) : e.Stands text.toList := by
  refine ⟨?_, hnamed⟩
  rw [Expr.pos, Expr.source, ho]
  exact h.onLine_originTo stop

/-- The draft is an expression that has its places in the file, or a fault that can be traced. -/
def ExprDraft (file text : String) (d : Draft Expr) : Prop :=
  Delivers (Expr.Each (Expr.Stands text.toList)) (ReadError.Traced file text) d

/-- The draft is parts of a template that have their places in the file, or a fault that can be
traced. -/
def PartsDraft (file text : String) (d : Draft (List Part)) : Prop :=
  Delivers (fun parts => ∀ p ∈ parts, p.Each (Expr.Stands text.toList))
    (ReadError.Traced file text) d

/-- The operand begins at a place of the file, and so do the expressions in it. -/
structure Operand.Stands (file text : String) (x : Operand) : Prop where
  /-- Where it begins. -/
  start : x.start.Located text.toList
  /-- What it says. -/
  expr : ExprDraft file text x.expr

/-- The keys and their values stand in their places. -/
def PairsStand (file text : String) (pairs : List (Operand × Operand)) : Prop :=
  ∀ p ∈ pairs, p.1.Stands file text ∧ p.2.Stands file text

@[simp]
theorem pairsStand_nil : PairsStand file text [] := by
  simp [PairsStand]

@[simp]
theorem pairsStand_cons {x y : Operand} {pairs : List (Operand × Operand)} :
    PairsStand file text ((x, y) :: pairs) ↔
      (x.Stands file text ∧ y.Stands file text) ∧ PairsStand file text pairs :=
  List.forall_mem_cons

theorem PairsStand.reverse {pairs : List (Operand × Operand)} (h : PairsStand file text pairs) :
    PairsStand file text pairs.reverse :=
  fun p hp => h p (List.mem_reverse.1 hp)

namespace Operand

variable {x y z : Operand} {xs : List Operand} {t : Token} {start : Mark} {stop : Nat}

/-- A constant or a variable. -/
theorem stands_ofName (h : t.start.Located text.toList) (ht : ∃ n : Identifier, t.text = n.text) :
    (ofName t).Stands file text := by
  refine ⟨h, .ok ?_⟩
  split
  · exact .literal (h.stands rfl True.intro)
  · exact .literal (h.stands rfl True.intro)
  · exact .literal (h.stands rfl True.intro)
  · exact .variable (h.stands rfl ht)

theorem stands_numberExpr (h : t.start.Located text.toList) :
    ExprDraft file text (numberExpr t) := by
  unfold numberExpr
  dsimp only
  split
  · exact .ok (.literal (h.stands rfl True.intro))
  · exact .error ReadError.traced_beyondLimits

theorem stands_ofNumber (h : t.start.Located text.toList) : (ofNumber t).Stands file text :=
  ⟨h, stands_numberExpr h⟩

/-- A heredoc holds its template. -/
theorem stands_ofHeredoc {parts : Draft (List Part)} (h : t.start.Located text.toList)
    (hparts : PartsDraft file text parts) : (ofHeredoc t parts).Stands file text :=
  ⟨h, .map hparts fun _ hparts => .template (h.stands rfl True.intro) hparts⟩

theorem Stands.getAttr (h : x.Stands file text) (ht : ∃ n : Identifier, t.text = n.text) :
    (x.getAttr t).Stands file text := by
  refine ⟨h.start, .map h.expr fun e he => ?_⟩
  split
  · next steps full =>
    cases he with
    | splat _ htarget hsteps =>
      exact .splat (h.start.stands rfl True.intro) htarget
        (List.forall_mem_append.2 ⟨hsteps, by simpa using .attr⟩)
  · exact .getAttr (h.start.stands rfl ht) he

theorem Stands.index {key : Draft Expr} (h : x.Stands file text) (hkey : ExprDraft file text key) :
    (x.index stop key).Stands file text := by
  refine ⟨h.start, .bind h.expr fun e he => .bind hkey fun k hk => ?_⟩
  split
  · cases he with
    | splat _ htarget hsteps =>
      exact .ok (.splat (h.start.stands rfl True.intro) htarget
        (List.forall_mem_append.2 ⟨hsteps, by simpa using .index hk⟩))
  · exact .ok (.index (h.start.stands rfl True.intro) he hk)

theorem Stands.splat {full : Bool} (h : x.Stands file text) :
    (x.splat stop full).Stands file text :=
  ⟨h.start, .map h.expr fun _ he => .splat (h.start.stands rfl True.intro) he (by simp)⟩

theorem Stands.parens (hstart : start.Located text.toList) (h : x.Stands file text) :
    (parens start stop x).Stands file text :=
  ⟨hstart, .map h.expr fun _ he => .parens (hstart.stands rfl True.intro) he⟩

theorem Stands.unary {op : UnaryOp} (hstart : start.Located text.toList) (h : x.Stands file text) :
    (unary start op x).Stands file text :=
  ⟨hstart, .map h.expr fun _ he => .unary (hstart.stands rfl True.intro) he⟩

theorem Stands.binary {op : BinaryOp} (hx : x.Stands file text) (hy : y.Stands file text) :
    (binary x op y).Stands file text :=
  ⟨hx.start, .bind hx.expr fun _ he => .bind hy.expr fun _ hf =>
    .ok (.binary (hx.start.stands rfl True.intro) he hf)⟩

theorem Stands.conditional (hx : x.Stands file text) (hy : y.Stands file text)
    (hz : z.Stands file text) : (conditional x y z).Stands file text :=
  ⟨hx.start, .bind hx.expr fun _ he => .bind hy.expr fun _ hf => .bind hz.expr fun _ hg =>
    .ok (.conditional (hx.start.stands rfl True.intro) he hf hg)⟩

theorem Stands.tuple (hstart : start.Located text.toList) (h : ∀ x ∈ xs, x.Stands file text) :
    (tuple start stop xs).Stands file text :=
  ⟨hstart, .map (.mapM fun x hx => (h x hx).expr) fun _ hes =>
    .tuple (hstart.stands rfl True.intro) hes.2⟩

theorem Stands.call {spread : Bool} (hstart : t.start.Located text.toList)
    (h : ∀ x ∈ xs, x.Stands file text) : (call t stop xs spread).Stands file text :=
  ⟨hstart, .bind (.mapM fun x hx => (h x hx).expr) fun _ hes =>
    .ok (.call (hstart.stands rfl True.intro) hes.2)⟩

theorem Stands.object {pairs : List (Operand × Operand)} (hstart : start.Located text.toList)
    (h : PairsStand file text pairs) : (object start stop pairs).Stands file text := by
  refine ⟨hstart, .map (.mapM fun p hp => ?_) fun _ hitems =>
    .object (hstart.stands rfl True.intro) hitems.2⟩
  exact .bind (h p hp).1.expr fun _ hkey => .bind (h p hp).2.expr fun _ hvalue =>
    .ok (.mk hkey hvalue)

theorem delivers_each_condition {cond : Option Operand}
    (h : ∀ x, cond = some x → x.Stands file text) :
    Delivers (fun e? => ∀ e, e? = some e → e.Each (Expr.Stands text.toList))
      (ReadError.Traced file text) (condition cond) := by
  cases cond with
  | none => exact .ok (by simp)
  | some x => exact .bind (h x rfl).expr fun e he => .ok (by simpa using he)

/-- The head of a `for` begins at a place of the file, and its collection stands in its place. -/
structure ForHead.Stands (file text : String) (head : ForHead) : Prop where
  /-- Where it begins. -/
  start : head.start.Located text.toList
  /-- The collection. -/
  collection : head.collection.Stands file text

@[simp]
theorem forHead_stands {vars : LoopVars} :
    (ForHead.mk start vars x).Stands file text ↔ start.Located text.toList ∧ x.Stands file text :=
  ⟨fun h => ⟨h.start, h.collection⟩, fun ⟨hstart, hx⟩ => ⟨hstart, hx⟩⟩

theorem Stands.forTuple {head : ForHead} {cond : Option Operand} (hhead : head.Stands file text)
    (hx : x.Stands file text) (hcond : ∀ y, cond = some y → y.Stands file text) :
    (forTuple head stop x cond).Stands file text :=
  ⟨hhead.start, .bind hhead.collection.expr fun _ hcollection => .bind hx.expr fun _ hvalue =>
    .bind (delivers_each_condition hcond) fun _ hc =>
      .ok (.forTuple (hhead.start.stands rfl True.intro) hcollection hvalue hc)⟩

theorem Stands.forObject {head : ForHead} {cond : Option Operand} {grouping : Bool}
    (hhead : head.Stands file text) (hx : x.Stands file text) (hy : y.Stands file text)
    (hcond : ∀ y, cond = some y → y.Stands file text) :
    (forObject head stop x y cond grouping).Stands file text :=
  ⟨hhead.start, .bind hhead.collection.expr fun _ hcollection => .bind hx.expr fun _ hkey =>
    .bind hy.expr fun _ hvalue => .bind (delivers_each_condition hcond) fun _ hc =>
      .ok (.forObject (hhead.start.stands rfl True.intro) hcollection hkey hvalue hc)⟩

end Operand

end Native

end ResourceTables
