import ResourceTables.Native.Template
import ResourceTables.Proofs.Quotes.Trees

/-!
# Which directives nest

The items of a template make a tree exactly if their directives form groups inside of each other,
each `if` with its `endif` and at most one `else` between them, and each `for` with its `endfor`.

A template whose directives are not well nested is refused because of one of them: an `if` or a
`for` that nothing behind it closes, or a directive that fits nothing in front of it. The error has
the line of its word.

* `Directive.WellNested`: directives that form such groups;
* `Completes`: what is missing behind directives that are open;
* `Part.exists_nest_iff`: with some directives open, the items make a tree exactly if they complete
  them;
* `Part.exists_ofItems_iff`: the items of a template;
* `TemplateItem.placed`: the directives of a template, each with the place of its word;
* `AtFault`: the directive, with those around it, is the cause of an error;
* `Opened`: where in a template the directives that are open have been opened;
* `Part.failsWith_blames_ofItems`: a template that is refused has a directive at fault.
-/

namespace ResourceTables.Native

/-- The directives form groups that are well nested: each group is an `if` with or without an
`else`, or a `for`. -/
inductive Directive.WellNested : List Directive → Prop
  | nil : WellNested []
  | cond {test yes rest} (hyes : WellNested yes) (hrest : WellNested rest) :
    WellNested (.cond test :: yes ++ .endCond :: rest)
  | otherwise {test yes no rest} (hyes : WellNested yes) (hno : WellNested no)
      (hrest : WellNested rest) :
    WellNested (.cond test :: yes ++ .otherwise :: no ++ .endCond :: rest)
  | loop {vars collection body rest} (hbody : WellNested body) (hrest : WellNested rest) :
    WellNested (.loop vars collection :: body ++ .endLoop :: rest)

open Directive (WellNested)

namespace TemplateItem

/-- The directive that the item is, if it is one. -/
def directive? : TemplateItem → Option Directive
  | text _ | interp _ _ => none
  | directive _ _ d => some d

/-- The directives among the items. -/
def directives (items : List TemplateItem) : List Directive :=
  items.filterMap directive?

@[simp]
theorem directives_nil : directives [] = [] := rfl

@[simp]
theorem directives_text {s : String} {items : List TemplateItem} :
    directives (.text s :: items) = directives items := rfl

@[simp]
theorem directives_interp {trim : Trim} {e : Expr} {items : List TemplateItem} :
    directives (.interp trim e :: items) = directives items := rfl

@[simp]
theorem directives_directive {trim : Trim} {pos : Pos} {d : Directive} {items : List TemplateItem} :
    directives (.directive trim pos d :: items) = d :: directives items := rfl

/-- Trimming texts leaves the directives. -/
theorem directives_trimAll (after : Bool) (items : List TemplateItem) :
    directives (trimAll after items) = directives items := by
  fun_induction trimAll after items with
  | case1 => rfl
  | case2 after s rest _ _ ih => simpa using ih
  | case3 after item rest _ ih => cases item <;> simp_all

end TemplateItem

open TemplateItem (directives)

/-- The directives close those that are open, the innermost one first, and are well nested in
between and in the end. -/
inductive Completes : List OpenDirective → List Directive → Prop
  | done {ds} (h : WellNested ds) : Completes [] ds
  | cond {pos test outer stack ds rest} (h : WellNested ds) (hrest : Completes stack rest) :
    Completes (.cond pos test outer :: stack) (ds ++ .endCond :: rest)
  | switch {pos test outer stack ds no rest} (h : WellNested ds) (hno : WellNested no)
      (hrest : Completes stack rest) :
    Completes (.cond pos test outer :: stack) (ds ++ .otherwise :: no ++ .endCond :: rest)
  | otherwise {pos test yes outer stack ds rest} (h : WellNested ds)
      (hrest : Completes stack rest) :
    Completes (.otherwise pos test yes outer :: stack) (ds ++ .endCond :: rest)
  | loop {pos vars collection outer stack ds rest} (h : WellNested ds)
      (hrest : Completes stack rest) :
    Completes (.loop pos vars collection outer :: stack) (ds ++ .endLoop :: rest)

namespace Completes

variable {stack : List OpenDirective} {ds group : List Directive}

/-- A group in front changes nothing. -/
theorem prepend (group : List Directive) (h : Completes stack ds)
    (hgroup : ∀ ds, WellNested ds → WellNested (group ++ ds)) : Completes stack (group ++ ds) := by
  cases h with
  | done h => exact .done (hgroup _ h)
  | cond h hrest => simpa using cond (hgroup _ h) hrest
  | switch h hno hrest => simpa using switch (hgroup _ h) hno hrest
  | otherwise h hrest => simpa using otherwise (hgroup _ h) hrest
  | loop h hrest => simpa using loop (hgroup _ h) hrest

/-- What completes an `if` behind its `else` completes it in front of it, with the `else`. -/
theorem of_otherwise {pos : Pos} {test : Expr} {yes outer : List Part}
    (h : Completes (.otherwise pos test yes outer :: stack) ds) :
    Completes (.cond pos test outer :: stack) (.otherwise :: ds) := by
  cases h with
  | otherwise hno hrest => exact .switch .nil hno hrest

/-- What completes an open `if` is a group with the `if` itself, and what completes the others. -/
theorem of_cond {pos : Pos} {test : Expr} {outer : List Part}
    (h : Completes (.cond pos test outer :: stack) ds) : Completes stack (.cond test :: ds) := by
  cases h with
  | @cond _ _ _ _ yes rest hyes hrest =>
    have hgroup : ∀ ds, WellNested ds →
        WellNested ((.cond test :: yes ++ [.endCond]) ++ ds) := fun ds hds => by
      simpa using WellNested.cond hyes hds
    simpa using hrest.prepend _ hgroup
  | @switch _ _ _ _ yes no _ hyes hno hrest =>
    have hgroup : ∀ ds, WellNested ds →
        WellNested ((.cond test :: yes ++ .otherwise :: no ++ [.endCond]) ++ ds) := fun ds hds => by
      simpa using WellNested.otherwise hyes hno hds
    simpa using hrest.prepend _ hgroup

theorem of_loop {pos : Pos} {vars : LoopVars} {collection : Expr} {outer : List Part}
    (h : Completes (.loop pos vars collection outer :: stack) ds) :
    Completes stack (.loop vars collection :: ds) := by
  cases h with
  | @loop _ _ _ _ _ body _ hbody hrest =>
    have hgroup : ∀ ds, WellNested ds →
        WellNested ((.loop vars collection :: body ++ [.endLoop]) ++ ds) := fun ds hds => by
      simpa using WellNested.loop hbody hds
    simpa using hrest.prepend _ hgroup

end Completes

namespace Part

variable {stack : List OpenDirective} {parts : List Part} {items : List TemplateItem}
  {d : Directive} {ds rest : List Directive}

/-- If items make a tree then their directives complete those that are open, and else there is a
fault in the template. -/
theorem delivers_nest_completes :
    Delivers (fun _ => Completes stack (directives items)) (fun e => ∃ fault, e = .malformed fault)
      (nest stack parts items) := by
  fun_induction nest stack parts items with
  | case1 parts => exact .ok (.done .nil)
  -- The items end while a directive is open, or a directive does not fit what is open.
  | case2 | case3 | case4 | case13 => exact .error ⟨_, rfl⟩
  | case5 stack parts s rest ih => exact ih
  | case6 stack parts trim e rest ih => exact ih
  -- A directive that opens a group is completed with the group itself, one that closes a group is
  -- what completes it.
  | case7 _ _ _ _ _ _ ih => exact ih.mono fun _ h => h.of_cond
  | case8 _ _ _ _ _ _ _ ih => exact ih.mono fun _ h => h.of_loop
  | case9 _ _ _ _ _ _ _ _ ih => exact ih.mono fun _ h => h.of_otherwise
  | case10 _ _ _ _ _ _ _ _ ih => exact ih.mono fun _ h => Completes.cond .nil h
  | case11 _ _ _ _ _ _ _ _ _ ih => exact ih.mono fun _ h => Completes.otherwise .nil h
  | case12 _ _ _ _ _ _ _ _ _ ih => exact ih.mono fun _ h => Completes.loop .nil h

/-- The items up to the first directive only add parts. -/
theorem exists_nest_directive (h : directives items = d :: ds) :
    ∃ parts' trim pos rest, directives rest = ds ∧
      nest stack parts items = nest stack parts' (.directive trim pos d :: rest) := by
  induction items generalizing parts with
  | nil => cases h
  | cons item items ih =>
    cases item with
    | text s =>
      obtain ⟨parts', trim, pos, rest, hrest, heq⟩ := @ih (addText s parts) h
      exact ⟨parts', trim, pos, rest, hrest, by rw [← heq, nest]⟩
    | interp trim e =>
      obtain ⟨parts', trim, pos, rest, hrest, heq⟩ := @ih (.interp e :: parts) h
      exact ⟨parts', trim, pos, rest, hrest, by rw [← heq, nest]⟩
    | directive trim pos d =>
      obtain ⟨rfl, rfl⟩ := List.cons.inj h
      exact ⟨parts, trim, pos, items, rfl, rfl⟩

theorem exists_nest_nil (h : directives items = []) :
    ∃ parts', nest stack parts items = nest stack parts' [] := by
  induction items generalizing parts with
  | nil => exact ⟨parts, rfl⟩
  | cons item items ih =>
    cases item with
    | text s => simpa [nest] using @ih (addText s parts) h
    | interp trim e => simpa [nest] using @ih (.interp e :: parts) h
    | directive trim pos d => cases h

/-- Reading the directives leaves the same ones open as before. -/
def Closed (ds : List Directive) : Prop :=
  ∀ stack parts items rest, directives items = ds ++ rest →
    ∃ parts' items', directives items' = rest ∧ nest stack parts items = nest stack parts' items'

/-- Behind closed directives comes the next one. -/
theorem Closed.exists_next (h : Closed ds) (hitems : directives items = ds ++ d :: rest) :
    ∃ parts' trim pos items', directives items' = rest ∧
      nest stack parts items = nest stack parts' (.directive trim pos d :: items') := by
  obtain ⟨parts₁, items₁, hitems₁, heq₁⟩ := h _ _ _ _ hitems
  obtain ⟨parts₂, trim, pos, items₂, hitems₂, heq₂⟩ := exists_nest_directive hitems₁
  exact ⟨parts₂, trim, pos, items₂, hitems₂, heq₁.trans heq₂⟩

theorem closed_of_wellNested (h : WellNested ds) : Closed ds := by
  induction h with
  | nil => exact fun stack parts items rest hitems => ⟨parts, items, hitems, rfl⟩
  -- The first directive of a group is put on the stack, what is between leaves it there, and the
  -- last one takes it off, so that the rest is read with the stack from before the group.
  | cond hyes hrest ihyes ihrest =>
    intro stack parts items rest hitems
    rw [List.append_assoc, List.cons_append, List.cons_append] at hitems
    obtain ⟨parts₁, trim₁, pos₁, items₁, hitems₁, heq₁⟩ := exists_nest_directive hitems
    obtain ⟨parts₂, trim₂, pos₂, items₂, hitems₂, heq₂⟩ := ihyes.exists_next hitems₁
    obtain ⟨parts₃, items₃, hitems₃, heq₃⟩ := ihrest _ _ _ _ hitems₂
    exact ⟨parts₃, items₃, hitems₃, by rw [heq₁, nest, heq₂, nest, heq₃]⟩
  | otherwise hyes hno hrest ihyes ihno ihrest =>
    intro stack parts items rest hitems
    simp only [List.append_assoc, List.cons_append] at hitems
    obtain ⟨parts₁, trim₁, pos₁, items₁, hitems₁, heq₁⟩ := exists_nest_directive hitems
    obtain ⟨parts₂, trim₂, pos₂, items₂, hitems₂, heq₂⟩ := ihyes.exists_next hitems₁
    obtain ⟨parts₃, trim₃, pos₃, items₃, hitems₃, heq₃⟩ := ihno.exists_next hitems₂
    obtain ⟨parts₄, items₄, hitems₄, heq₄⟩ := ihrest _ _ _ _ hitems₃
    exact ⟨parts₄, items₄, hitems₄, by rw [heq₁, nest, heq₂, nest, heq₃, nest, heq₄]⟩
  | loop hbody hrest ihbody ihrest =>
    intro stack parts items rest hitems
    rw [List.append_assoc, List.cons_append, List.cons_append] at hitems
    obtain ⟨parts₁, trim₁, pos₁, items₁, hitems₁, heq₁⟩ := exists_nest_directive hitems
    obtain ⟨parts₂, trim₂, pos₂, items₂, hitems₂, heq₂⟩ := ihbody.exists_next hitems₁
    obtain ⟨parts₃, items₃, hitems₃, heq₃⟩ := ihrest _ _ _ _ hitems₂
    exact ⟨parts₃, items₃, hitems₃, by rw [heq₁, nest, heq₂, nest, heq₃]⟩

/-- Directives that complete those that are open make a tree. -/
theorem exists_nest_of_completes (h : Completes stack ds) (hitems : directives items = ds) :
    ∃ tree, nest stack parts items = .ok tree := by
  induction h generalizing parts items with
  | done h =>
    -- Behind the groups there are no more directives, and nothing is open.
    obtain ⟨parts₁, items₁, hitems₁, heq₁⟩ :=
      closed_of_wellNested h _ _ _ _ (hitems.trans (List.append_nil _).symm)
    obtain ⟨parts₂, heq₂⟩ := exists_nest_nil hitems₁
    exact ⟨parts₂.reverse, by rw [heq₁, heq₂, nest]⟩
  | switch h hno hrest ih =>
    simp only [List.append_assoc, List.cons_append] at hitems
    obtain ⟨parts₁, trim₁, pos₁, items₁, hitems₁, heq₁⟩ :=
      (closed_of_wellNested h).exists_next hitems
    obtain ⟨parts₂, trim₂, pos₂, items₂, hitems₂, heq₂⟩ :=
      (closed_of_wellNested hno).exists_next hitems₁
    rw [heq₁, nest, heq₂, nest]
    exact ih hitems₂
  | cond h hrest ih | otherwise h hrest ih | loop h hrest ih =>
    obtain ⟨parts₁, trim, pos, items₁, hitems₁, heq₁⟩ :=
      (closed_of_wellNested h).exists_next hitems
    rw [heq₁, nest]
    exact ih hitems₁

/-- The items make a tree exactly if their directives complete those that are open. -/
theorem exists_nest_iff :
    (∃ tree, nest stack parts items = .ok tree) ↔ Completes stack (directives items) := by
  constructor
  · rintro ⟨tree, htree⟩
    exact delivers_nest_completes.ensures tree htree
  · exact fun h => exists_nest_of_completes h rfl

/-- The items of a template make a tree exactly if their directives are well nested. -/
theorem exists_ofItems_iff :
    (∃ tree, ofItems items = .ok tree) ↔ WellNested (directives items) := by
  rw [ofItems, exists_nest_iff, TemplateItem.directives_trimAll]
  constructor
  · rintro (h | _)
    exact h
  · exact .done

/-- What else there is is a fault in the template. -/
theorem failsWith_ofItems : FailsWith (fun e => ∃ fault, e = .malformed fault) (ofItems items) :=
  delivers_nest_completes.failsWith

end Part

/-! ## Directives with their places -/

namespace TemplateItem

/-- The directive that the item is, with the place of its word. -/
def placed? : TemplateItem → Option (Pos × Directive)
  | text _ | interp _ _ => none
  | directive _ pos d => some (pos, d)

/-- The directives among the items, with their places. -/
def placed (items : List TemplateItem) : List (Pos × Directive) :=
  items.filterMap placed?

@[simp]
theorem placed_nil : placed [] = [] := rfl

@[simp]
theorem placed_text {s : String} {items : List TemplateItem} :
    placed (.text s :: items) = placed items := rfl

@[simp]
theorem placed_interp {trim : Trim} {e : Expr} {items : List TemplateItem} :
    placed (.interp trim e :: items) = placed items := rfl

@[simp]
theorem placed_directive {trim : Trim} {pos : Pos} {d : Directive} {items : List TemplateItem} :
    placed (.directive trim pos d :: items) = (pos, d) :: placed items := rfl

@[simp]
theorem placed_append (items items' : List TemplateItem) :
    placed (items ++ items') = placed items ++ placed items' :=
  List.filterMap_append

theorem map_snd_placed (items : List TemplateItem) :
    (placed items).map Prod.snd = directives items := by
  rw [placed, directives, List.map_filterMap]
  congr 1
  funext i
  cases i <;> rfl

/-- Trimming texts leaves the directives where they are. -/
theorem placed_trimAll (after : Bool) (items : List TemplateItem) :
    placed (trimAll after items) = placed items := by
  fun_induction trimAll after items with
  | case1 => rfl
  | case2 after s rest _ _ ih => exact ih
  | case3 after item rest _ ih =>
    rw [placed, List.filterMap_cons, ← placed, ih, placed, placed, List.filterMap_cons]

/-- The directives as items, wherever they may stand. -/
def ofDirectives (ds : List Directive) : List TemplateItem :=
  ds.map (.directive default default)

theorem directives_ofDirectives (ds : List Directive) : directives (ofDirectives ds) = ds := by
  induction ds with
  | nil => rfl
  | cons d ds ih => exact congrArg (d :: ·) ih

end TemplateItem

open TemplateItem (placed ofDirectives)

/-- Of the directives of a template, the one behind `before` and in front of `after` is the cause of
the error. -/
inductive AtFault : List Directive → Directive → List Directive → ParseCause → Prop
  /-- Behind an `if` there are whole groups only, so that nothing closes it. -/
  | cond {before test after} (h : WellNested after) :
    AtFault before (.cond test) after .unterminatedCond
  /-- So there are in front of its `else` and behind it. -/
  | otherwise {before test yes no} (hyes : WellNested yes) (hno : WellNested no) :
    AtFault before (.cond test) (yes ++ .otherwise :: no) .unterminatedCond
  /-- Behind a `for` there are whole groups only. -/
  | loop {before vars collection after} (h : WellNested after) :
    AtFault before (.loop vars collection) after .unterminatedLoop
  /-- What is in front of the directive can be completed, but not with the directive behind it. -/
  | unexpected {before d after} (hbefore : ∃ more, WellNested (before ++ more))
    (h : ∀ more, ¬ WellNested (before ++ d :: more)) : AtFault before d after (.directive d.word)

/-! ## Open directives -/

theorem Directive.WellNested.append {ds ds' : List Directive} (h : WellNested ds)
    (h' : WellNested ds') : WellNested (ds ++ ds') := by
  induction h with
  | nil => exact h'
  | cond hyes _ _ ih => simpa using WellNested.cond hyes ih
  | otherwise hyes hno _ _ _ ih => simpa using WellNested.otherwise hyes hno ih
  | loop hbody _ _ ih => simpa using WellNested.loop hbody ih

/-- The directives leave those open, innermost first, each where it has been opened. In between they
are well nested. -/
inductive Opened : List (Pos × Directive) → List OpenDirective → Prop
  | nil {ds} (h : WellNested (ds.map Prod.snd)) : Opened ds []
  | cond {before pos test inner outer stack} (hbefore : Opened before stack)
      (h : WellNested (inner.map Prod.snd)) :
    Opened (before ++ (pos, .cond test) :: inner) (.cond pos test outer :: stack)
  | otherwise {before pos test yes pos' no parts outer stack} (hbefore : Opened before stack)
      (hyes : WellNested (yes.map Prod.snd)) (hno : WellNested (no.map Prod.snd)) :
    Opened (before ++ (pos, .cond test) :: yes ++ (pos', .otherwise) :: no)
      (.otherwise pos test parts outer :: stack)
  | loop {before pos vars collection inner outer stack} (hbefore : Opened before stack)
      (h : WellNested (inner.map Prod.snd)) :
    Opened (before ++ (pos, .loop vars collection) :: inner)
      (.loop pos vars collection outer :: stack)

namespace Opened

variable {ds more : List (Pos × Directive)} {stack : List OpenDirective} {pos pos' : Pos}
  {test collection : Expr} {vars : LoopVars} {yes outer : List Part}

/-- Whole groups leave the same directives open. -/
theorem append (h : Opened ds stack) (hmore : WellNested (more.map Prod.snd)) :
    Opened (ds ++ more) stack := by
  have hboth : ∀ {inner : List (Pos × Directive)}, WellNested (inner.map Prod.snd) →
      WellNested ((inner ++ more).map Prod.snd) := by
    intro inner hinner
    rw [List.map_append]
    exact hinner.append hmore
  cases h with
  | nil h => exact .nil (hboth h)
  | cond hbefore h => simpa using cond hbefore (hboth h)
  | otherwise hbefore hyes hno => simpa using otherwise hbefore hyes (hboth hno)
  | loop hbefore h => simpa using loop hbefore (hboth h)

/-- An `if` and a `for` are open behind their words. -/
theorem open_cond (h : Opened ds stack) :
    Opened (ds ++ [(pos, .cond test)]) (.cond pos test outer :: stack) :=
  @cond ds pos test [] outer stack h .nil

theorem open_loop (h : Opened ds stack) :
    Opened (ds ++ [(pos, .loop vars collection)]) (.loop pos vars collection outer :: stack) :=
  @loop ds pos vars collection [] outer stack h .nil

/-- An `else` belongs to the innermost `if`. -/
theorem switch (h : Opened ds (.cond pos test outer :: stack)) :
    Opened (ds ++ [(pos', .otherwise)]) (.otherwise pos test yes outer :: stack) := by
  cases h with
  | cond hbefore h => exact otherwise hbefore h .nil

/-- An `endif` makes a group of the innermost `if`. -/
theorem close_cond (h : Opened ds (.cond pos test outer :: stack)) :
    Opened (ds ++ [(pos', .endCond)]) stack := by
  cases h with
  | @cond before _ _ inner _ _ hbefore h =>
    have hgroup : WellNested (.cond test :: inner.map Prod.snd ++ [.endCond]) := .cond h .nil
    have hopen : Opened (before ++ ((pos, .cond test) :: inner ++ [(pos', .endCond)])) stack :=
      hbefore.append (by simpa using hgroup)
    simpa using hopen

/-- And of one that has an `else`. -/
theorem close_otherwise (h : Opened ds (.otherwise pos test yes outer :: stack)) :
    Opened (ds ++ [(pos', .endCond)]) stack := by
  cases h with
  | @otherwise before _ _ yes pos₁ no _ _ _ hbefore hyes hno =>
    have hgroup : WellNested (.cond test :: yes.map Prod.snd ++ .otherwise :: no.map Prod.snd ++
      [.endCond]) := .otherwise hyes hno .nil
    have hopen : Opened (before ++ ((pos, .cond test) :: yes ++ (pos₁, .otherwise) :: no ++
      [(pos', .endCond)])) stack := hbefore.append (by simpa using hgroup)
    simpa using hopen

/-- An `endfor` makes a group of the innermost `for`. -/
theorem close_loop (h : Opened ds (.loop pos vars collection outer :: stack)) :
    Opened (ds ++ [(pos', .endLoop)]) stack := by
  cases h with
  | @loop before _ _ _ inner _ _ hbefore h =>
    have hgroup : WellNested (.loop vars collection :: inner.map Prod.snd ++ [.endLoop]) :=
      .loop h .nil
    have hopen : Opened (before ++ ((pos, .loop vars collection) :: inner ++
      [(pos', .endLoop)])) stack := hbefore.append (by simpa using hgroup)
    simpa using hopen

end Opened

/-! ## The fault -/

namespace Part

/-- Whatever is open can be completed. -/
theorem exists_completes (stack : List OpenDirective) : ∃ ds, Completes stack ds := by
  induction stack with
  | nil => exact ⟨[], .done .nil⟩
  | cons d stack ih =>
    obtain ⟨ds, h⟩ := ih
    cases d with
    | cond pos test outer => exact ⟨[] ++ .endCond :: ds, .cond .nil h⟩
    | otherwise pos test yes outer => exact ⟨[] ++ .endCond :: ds, .otherwise .nil h⟩
    | loop pos vars collection outer => exact ⟨[] ++ .endLoop :: ds, .loop .nil h⟩

/-- The error is the fault of one of the directives. -/
def Blames (ds : List (Pos × Directive)) (e : ReadError) : Prop :=
  ∃ before pos d after cause, ds = before ++ (pos, d) :: after ∧
    AtFault (before.map Prod.snd) d (after.map Prod.snd) cause ∧ e = faultAt pos cause

variable {front items : List TemplateItem} {stack : List OpenDirective} {parts : List Part}
  {ds : List (Pos × Directive)} {d : OpenDirective}

/-- The error when the items end while the directive is open. -/
def unterminated : OpenDirective → ReadError
  | .cond pos _ _ | .otherwise pos _ _ _ => faultAt pos .unterminatedCond
  | .loop pos _ _ _ => faultAt pos .unterminatedLoop

/-- Where the items end the innermost directive that is open is at fault. -/
theorem blames_unterminated (h : Opened ds (d :: stack)) : Blames ds (unterminated d) := by
  cases h with
  | cond _ h => exact ⟨_, _, _, _, _, rfl, .cond h, rfl⟩
  | @otherwise before pos test yes pos' no _ _ _ _ hyes hno =>
    refine ⟨before, pos, .cond test, yes ++ (pos', .otherwise) :: no, .unterminatedCond, ?_, ?_,
      rfl⟩
    · rw [List.append_assoc, List.cons_append]
    · rw [List.map_append, List.map_cons]
      exact .otherwise hyes hno
  | loop _ h => exact ⟨_, _, _, _, _, rfl, .loop h, rfl⟩

/-- Reading the items from the start leaves the directives open, and the parts. -/
def Reads (front : List TemplateItem) (stack : List OpenDirective) (parts : List Part) : Prop :=
  ∀ rest, nest [] [] (front ++ rest) = nest stack parts rest

theorem Reads.snoc {item : TemplateItem} {stack' : List OpenDirective} {parts' : List Part}
    (h : Reads front stack parts)
    (hitem : ∀ rest, nest stack parts (item :: rest) = nest stack' parts' rest) :
    Reads (front ++ [item]) stack' parts' := by
  intro rest
  rw [List.append_assoc, h]
  exact hitem rest

/-- What completes the directives that the items have left open completes the items. -/
theorem Reads.wellNested_append_iff (h : Reads front stack parts) (ds : List Directive) :
    WellNested (directives front ++ ds) ↔ Completes stack ds := by
  have hdirectives : directives (front ++ ofDirectives ds) = directives front ++ ds := by
    rw [directives, List.filterMap_append, ← directives, ← directives,
      TemplateItem.directives_ofDirectives]
  have hwhole : (∃ tree, nest [] [] (front ++ ofDirectives ds) = .ok tree) ↔
      Completes [] (directives front ++ ds) := by
    rw [← hdirectives]
    exact exists_nest_iff
  have hrest : (∃ tree, nest stack parts (ofDirectives ds) = .ok tree) ↔ Completes stack ds := by
    conv_rhs => rw [← TemplateItem.directives_ofDirectives ds]
    exact exists_nest_iff
  rw [← hrest, ← h, hwhole]
  exact ⟨.done, fun | .done h => h⟩

/-- A directive that is refused whatever is behind it is at fault. -/
theorem Reads.blames {trim : Trim} {pos : Pos} {d : Directive} (h : Reads front stack parts)
    (hrefused : ∀ rest, nest stack parts (.directive trim pos d :: rest) =
      .error (faultAt pos (.directive d.word))) (after : List (Pos × Directive)) :
    Blames (placed front ++ (pos, d) :: after) (faultAt pos (.directive d.word)) := by
  refine ⟨_, pos, d, _, _, rfl, .unexpected ?_ fun more hmore => ?_, rfl⟩
  · obtain ⟨more, hmore⟩ := exists_completes stack
    refine ⟨more, ?_⟩
    rw [TemplateItem.map_snd_placed]
    exact (h.wellNested_append_iff more).2 hmore
  · rw [TemplateItem.map_snd_placed, h.wellNested_append_iff] at hmore
    have hitems : directives (.directive trim pos d :: ofDirectives more) = d :: more :=
      congrArg (d :: ·) (TemplateItem.directives_ofDirectives more)
    obtain ⟨tree, htree⟩ : ∃ tree, nest stack parts _ = .ok tree :=
      exists_nest_of_completes hmore hitems
    rw [hrefused] at htree
    cases htree

/-- If the items in front leave directives open, what goes wrong behind them is the fault of one of
all the directives. -/
theorem failsWith_nest (hopen : Opened (placed front) stack) (hreads : Reads front stack parts) :
    FailsWith (Blames (placed (front ++ items))) (nest stack parts items) := by
  fun_induction nest stack parts items generalizing front with
  | case1 parts => exact .ok
  | case2 | case3 | case4 =>
    rw [List.append_nil]
    exact .error (blames_unterminated hopen)
  | case5 stack parts s rest ih =>
    rw [List.append_cons]
    exact ih (by simpa using hopen) (hreads.snoc fun _ => by rw [nest])
  | case6 stack parts trim e rest ih =>
    rw [List.append_cons]
    exact ih (by simpa using hopen) (hreads.snoc fun _ => by rw [nest])
  | case7 stack parts trim pos rest test ih =>
    rw [List.append_cons]
    exact ih (by simpa using hopen.open_cond) (hreads.snoc fun _ => by rw [nest])
  | case8 stack parts trim pos rest vars collection ih =>
    rw [List.append_cons]
    exact ih (by simpa using hopen.open_loop) (hreads.snoc fun _ => by rw [nest])
  | case9 parts trim pos rest opened test outer stack ih =>
    rw [List.append_cons]
    exact ih (by simpa using hopen.switch) (hreads.snoc fun _ => rfl)
  | case10 parts trim pos rest opened test outer stack ih =>
    rw [List.append_cons]
    exact ih (by simpa using hopen.close_cond) (hreads.snoc fun _ => rfl)
  | case11 parts trim pos rest opened test yes outer stack ih =>
    rw [List.append_cons]
    exact ih (by simpa using hopen.close_otherwise) (hreads.snoc fun _ => rfl)
  | case12 parts trim pos rest opened vars collection outer stack ih =>
    rw [List.append_cons]
    exact ih (by simpa using hopen.close_loop) (hreads.snoc fun _ => rfl)
  | case13 stack parts trim pos rest d =>
    have hrefused : ∀ rest, nest stack parts (.directive trim pos d :: rest) =
        .error (faultAt pos (.directive d.word)) := by
      intro rest
      rw [nest] <;> assumption
    rw [TemplateItem.placed_append]
    exact .error (hreads.blames hrefused _)

/-- A template that is refused has a directive at fault. -/
theorem failsWith_blames_ofItems (items : List TemplateItem) :
    FailsWith (Blames (placed items)) (ofItems items) := by
  have hstart : Reads [] [] [] := fun _ => rfl
  have hopen : Opened (placed []) [] := .nil .nil
  rw [ofItems, ← TemplateItem.placed_trimAll false]
  exact failsWith_nest hopen hstart

end Part

end ResourceTables.Native
