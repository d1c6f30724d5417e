import Mathlib.Data.List.Forall2
import ResourceTables.Config.Content
import ResourceTables.Eval.Evaluate

/-!
# Configurations without places

Two configurations can differ in nothing but where things are written. To compare them, the places
are taken out of both, and what is read of them is compared up to the places that errors name.

* `AgreeUpTo f`: two computations have the same result, or errors that `f` does not tell apart;
* `Expr.unplaced`, `Item.unplaced`, `Block.unplaced`: the same without places. The source text of an
  expression stays, because a table can show it.
-/

namespace ResourceTables

/-! ## Computations that agree -/

/-- The computations have the same result, or errors that `f` does not tell apart. -/
def AgreeUpTo (f : ε → δ) (x x' : Except ε α) : Prop :=
  x.mapError f = x'.mapError f

namespace AgreeUpTo

variable {f : ε → δ} {x x' : Except ε α}

theorem refl : AgreeUpTo f x x :=
  rfl

theorem symm (h : AgreeUpTo f x x') : AgreeUpTo f x' x :=
  Eq.symm h

theorem trans {x'' : Except ε α} (h : AgreeUpTo f x x') (h' : AgreeUpTo f x' x'') :
    AgreeUpTo f x x'' :=
  Eq.trans h h'

theorem error {e e' : ε} (h : f e = f e') :
    AgreeUpTo f (.error e : Except ε α) (.error e') :=
  congrArg Except.error h

/-- Either both computations have the result, or both fail. -/
theorem cases (h : AgreeUpTo f x x') :
    (∃ a, x = .ok a ∧ x' = .ok a) ∨ ∃ e e', x = .error e ∧ x' = .error e' ∧ f e = f e' := by
  rcases x with e | a <;> rcases x' with e' | a'
  · exact .inr ⟨e, e', rfl, rfl, Except.error.inj h⟩
  · exact nomatch h
  · exact nomatch h
  · exact .inl ⟨a, rfl, by rw [Except.ok.inj h]⟩

theorem eq_ok_iff (h : AgreeUpTo f x x') {a : α} : x = .ok a ↔ x' = .ok a := by
  rcases h.cases with ⟨b, rfl, rfl⟩ | ⟨e, e', rfl, rfl, -⟩
  · exact .rfl
  · exact ⟨nofun, nofun⟩

/-- What agrees agrees all the more where fewer errors are told apart. -/
theorem coarsen {g : δ → γ} (h : AgreeUpTo f x x') : AgreeUpTo (g ∘ f) x x' := by
  rcases h.cases with ⟨a, rfl, rfl⟩ | ⟨e, e', rfl, rfl, he⟩
  · exact refl
  · exact error (congrArg g he)

/-- Changing the errors first leaves computations in agreement that cannot be told apart then. -/
theorem mapError {g : ε → γ} {k : γ → κ} (h : AgreeUpTo (k ∘ g) x x') :
    AgreeUpTo k (x.mapError g) (x'.mapError g) := by
  rcases h.cases with ⟨a, rfl, rfl⟩ | ⟨e, e', rfl, rfl, he⟩
  · exact refl
  · exact error he

theorem bind {g g' : α → Except ε β} (h : AgreeUpTo f x x') (hg : ∀ a, AgreeUpTo f (g a) (g' a)) :
    AgreeUpTo f (x >>= g) (x' >>= g') := by
  rcases h.cases with ⟨a, rfl, rfl⟩ | ⟨e, e', rfl, rfl, he⟩
  · exact hg a
  · exact error he

/-- Computations for corresponding elements agree if those for each two of them do. -/
theorem mapM {g : α → Except ε γ} {g' : β → Except ε γ} {as : List α} {bs : List β}
    (h : List.Forall₂ (fun a b => AgreeUpTo f (g a) (g' b)) as bs) :
    AgreeUpTo f (as.mapM g) (bs.mapM g') := by
  induction h with
  | nil => exact refl
  | cons ha _ ih =>
    rw [List.mapM_cons, List.mapM_cons]
    exact bind ha fun c => bind ih fun cs => refl

/-- Computations whose results correspond by `u` have corresponding continuations. -/
theorem bind_map {u : β → α} {v : γ → κ} {y : Except ε β} {g : α → Except ε κ}
    {g' : β → Except ε γ} (h : AgreeUpTo f x (y.map u))
    (hg : ∀ b, y = .ok b → AgreeUpTo f (g (u b)) ((g' b).map v)) :
    AgreeUpTo f (x >>= g) ((y >>= g').map v) := by
  cases y with
  | error e =>
    rcases h.cases with ⟨a, -, ha⟩ | ⟨e', e'', rfl, he, he'⟩
    · cases ha
    · cases he
      exact error he'
  | ok b =>
    rcases h.cases with ⟨a, rfl, ha⟩ | ⟨e', e'', -, he, -⟩
    · cases ha
      exact hg b rfl
    · cases he

/-- So have computations with the same result. -/
theorem bind_same {v : γ → κ} {y : Except ε α} {g : α → Except ε κ} {g' : α → Except ε γ}
    (h : AgreeUpTo f x y) (hg : ∀ a, AgreeUpTo f (g a) ((g' a).map v)) :
    AgreeUpTo f (x >>= g) ((y >>= g').map v) := by
  rcases h.cases with ⟨a, rfl, rfl⟩ | ⟨e, e', rfl, rfl, he⟩
  · exact hg a
  · exact error he

/-- Taking in corresponding elements keeps what is made of them corresponding. -/
theorem foldlM_map {u : α → α} {v : β → β} {g : β → α → Except ε β}
    (h : ∀ b a, AgreeUpTo f (g (v b) (u a)) ((g b a).map v)) (as : List α) (b : β) :
    AgreeUpTo f ((as.map u).foldlM g (v b)) ((as.foldlM g b).map v) := by
  induction as generalizing b with
  | nil => exact refl
  | cons a as ih =>
    rw [List.map_cons, List.foldlM_cons, List.foldlM_cons]
    exact bind_map (h b a) fun b' _ => ih b'

end AgreeUpTo

/-! ## Taking places out -/

/-- No place. -/
def Pos.nowhere : Pos :=
  ⟨"", 0, 0⟩

/-- The origin with its source text, but without its place. -/
def Origin.unplaced (o : Origin) : Origin :=
  ⟨.nowhere, o.source⟩

mutual

/-- The expression without the places of its parts. -/
def Expr.unplaced : Expr → Expr
  | .literal o value => .literal o.unplaced value
  | .template o parts => .template o.unplaced (Part.allUnplaced parts)
  | .variable o name => .variable o.unplaced name
  | .getAttr o target name => .getAttr o.unplaced target.unplaced name
  | .index o target key => .index o.unplaced target.unplaced key.unplaced
  | .splat o target steps full =>
    .splat o.unplaced target.unplaced (Step.allUnplaced steps) full
  | .call o name args spread => .call o.unplaced name (Expr.allUnplaced args) spread
  | .tuple o items => .tuple o.unplaced (Expr.allUnplaced items)
  | .object o items => .object o.unplaced (ObjectItem.allUnplaced items)
  | .forTuple o vars collection value cond =>
    .forTuple o.unplaced vars collection.unplaced value.unplaced (Expr.conditionUnplaced cond)
  | .forObject o vars collection key value cond grouping =>
    .forObject o.unplaced vars collection.unplaced key.unplaced value.unplaced
      (Expr.conditionUnplaced cond) grouping
  | .conditional o cond yes no => .conditional o.unplaced cond.unplaced yes.unplaced no.unplaced
  | .binary o op left right => .binary o.unplaced op left.unplaced right.unplaced
  | .unary o op operand => .unary o.unplaced op operand.unplaced
  | .parens o inner => .parens o.unplaced inner.unplaced

/-- The expressions without places. -/
def Expr.allUnplaced : List Expr → List Expr
  | [] => []
  | e :: rest => e.unplaced :: Expr.allUnplaced rest

/-- The condition of a loop without places. -/
def Expr.conditionUnplaced : Option Expr → Option Expr
  | none => none
  | some cond => some cond.unplaced

/-- The part of a template without places. -/
def Part.unplaced : Part → Part
  | .text s => .text s
  | .interp e => .interp e.unplaced
  | .cond test yes no => .cond test.unplaced (Part.allUnplaced yes) (Part.allUnplaced no)
  | .loop vars collection body => .loop vars collection.unplaced (Part.allUnplaced body)

/-- The parts of a template without places. -/
def Part.allUnplaced : List Part → List Part
  | [] => []
  | part :: rest => part.unplaced :: Part.allUnplaced rest

/-- The step of a splat without places. -/
def Step.unplaced : Step → Step
  | .attr name => .attr name
  | .index key => .index key.unplaced

/-- The steps of a splat without places. -/
def Step.allUnplaced : List Step → List Step
  | [] => []
  | step :: rest => step.unplaced :: Step.allUnplaced rest

/-- The items of an object constructor without places. -/
def ObjectItem.allUnplaced : List ObjectItem → List ObjectItem
  | [] => []
  | .mk key value :: rest => .mk key.unplaced value.unplaced :: ObjectItem.allUnplaced rest

end

/-- The attribute without places. -/
def Attribute.unplaced (a : Attribute) : Attribute :=
  ⟨a.name, a.expr.unplaced, .nowhere⟩

mutual

/-- The item of a native body without places. -/
def Item.unplaced : Item → Item
  | .attribute a => .attribute a.unplaced
  | .block type labels _ items => .block type labels .nowhere (Item.allUnplaced items)

/-- The items of a native body without places. -/
def Item.allUnplaced : List Item → List Item
  | [] => []
  | item :: rest => item.unplaced :: Item.allUnplaced rest

end

theorem Item.allUnplaced_eq_map (items : List Item) : allUnplaced items = items.map unplaced := by
  induction items with
  | nil => rfl
  | cons item rest ih => rw [allUnplaced, ih, List.map_cons]

/-- A native body without places. A JSON body stays as it is. -/
def Body.unplaced : Body → Body
  | .native items => .native (items.map Item.unplaced)
  | .json o pairs => .json o pairs

/-- The body is written in the native notation. -/
def Body.IsNative (body : Body) : Prop :=
  ∃ items, body = .native items

/-- The block without places. -/
def Block.unplaced (b : Block) : Block :=
  ⟨b.type, b.labels, b.body.unplaced, .nowhere⟩

/-- The content without places. -/
def Content.unplaced (c : Content) : Content :=
  ⟨c.attributes.map Attribute.unplaced, c.blocks.map Block.unplaced⟩

/-! ## What places do not change -/

@[simp]
theorem Attribute.name_unplaced (a : Attribute) : a.unplaced.name = a.name :=
  rfl

@[simp]
theorem Block.labels_unplaced (b : Block) : b.unplaced.labels = b.labels :=
  rfl

/-- The source text of an expression stays. -/
theorem Expr.source_unplaced (e : Expr) : e.unplaced.source = e.source := by
  cases e <;> rw [unplaced] <;> rfl

/-- A text in a template stays. -/
theorem Part.literal?_allUnplaced (parts : List Part) :
    literal? (allUnplaced parts) = literal? parts := by
  induction parts with
  | nil => rfl
  | cons part rest ih =>
    cases part with
    | text s => rw [allUnplaced, unplaced, literal?, literal?, ih]
    | interp | cond | loop => rfl

namespace Content

variable (c : Content)

theorem attribute?_unplaced (name : String) :
    c.unplaced.attribute? name = (c.attribute? name).map Attribute.unplaced :=
  List.find?_map ..

theorem blocksOfType_unplaced (type : String) :
    c.unplaced.blocksOfType type = (c.blocksOfType type).map Block.unplaced :=
  List.filter_map ..

end Content

end ResourceTables
