import Mathlib.Data.List.Forall2
import ResourceTables.Proofs.Layout.Places
import ResourceTables.Proofs.Quotes.Trees

/-!
# Saying the same in two places

Two computations match if both have a result, and the results are related, or if both fail, with
errors that a function does not tell apart. This follows the structure of both: where their steps
match one after the other, the whole of them does.

When the same characters are read in two places, what is said there differs in nothing but places,
and where the one reading is at fault, so is the other.

* `Matches f R`: the computations match, with results that `R` relates and errors that `f` does not
  tell apart;
* `Echoes f`: the computations have results that `f` does not tell apart, or both have none, and
  either for a fault in the text or for what is beyond the limits;
* `TemplateItem.unplaced`, `Directive.unplaced`: items of templates without places;
* `Part.echoes_ofItems`: templates with the same items have the same parts.
-/

namespace ResourceTables

/-! ## Computations that match -/

/-- Both computations have a result and the results are related, or both fail with errors that `f`
does not tell apart. -/
def Matches (f : ε → δ) (R : α → β → Prop) : Except ε α → Except ε β → Prop
  | .ok a, .ok b => R a b
  | .error e, .error e' => f e = f e'
  | _, _ => False

namespace Matches

variable {f : ε → δ} {R : α → β → Prop} {S : γ → κ → Prop} {x : Except ε α} {x' : Except ε β}

theorem ok {a : α} {b : β} (h : R a b) : Matches f R (.ok a) (.ok b) := h

theorem error {e e' : ε} (h : f e = f e') : Matches f R (.error e) (.error e') := h

theorem cases (h : Matches f R x x') :
    (∃ a b, x = .ok a ∧ x' = .ok b ∧ R a b) ∨
      ∃ e e', x = .error e ∧ x' = .error e' ∧ f e = f e' := by
  cases x with
  | ok a =>
    cases x' with
    | ok b => exact .inl ⟨a, b, rfl, rfl, h⟩
    | error e' => exact h.elim
  | error e =>
    cases x' with
    | ok b => exact h.elim
    | error e' => exact .inr ⟨e, e', rfl, rfl, h⟩

/-- A result of the first computation is related to one of the second. -/
theorem exists_ok {a : α} (h : Matches f R x x') (hx : x = .ok a) : ∃ b, x' = .ok b ∧ R a b := by
  rcases h.cases with ⟨a', b, rfl, rfl, hab⟩ | ⟨e, e', rfl, -, -⟩
  · cases hx
    exact ⟨b, rfl, hab⟩
  · cases hx

/-- What is related are the results. -/
theorem results (h : Matches f R x x') :
    Matches f (fun a b => R a b ∧ x = .ok a ∧ x' = .ok b) x x' := by
  rcases h.cases with ⟨a, b, rfl, rfl, hab⟩ | ⟨e, e', rfl, rfl, he⟩
  · exact ok ⟨hab, rfl, rfl⟩
  · exact error he

theorem refl {R : α → α → Prop} {x : Except ε α} (h : ∀ a, R a a) : Matches f R x x := by
  cases x with
  | ok a => exact ok (h a)
  | error e => exact error rfl

theorem symm (h : Matches f R x x') : Matches f (flip R) x' x := by
  rcases h.cases with ⟨a, b, rfl, rfl, hab⟩ | ⟨e, e', rfl, rfl, he⟩
  · exact ok hab
  · exact error he.symm

theorem mono {R' : α → β → Prop} (h : Matches f R x x') (himp : ∀ a b, R a b → R' a b) :
    Matches f R' x x' := by
  rcases h.cases with ⟨a, b, rfl, rfl, hab⟩ | ⟨e, e', rfl, rfl, he⟩
  · exact ok (himp a b hab)
  · exact error he

theorem mapError {g : ε → ζ} {k : ζ → η} (h : Matches f R x x')
    (hg : ∀ e e', f e = f e' → k (g e) = k (g e')) :
    Matches k R (x.mapError g) (x'.mapError g) := by
  rcases h.cases with ⟨a, b, rfl, rfl, hab⟩ | ⟨e, e', rfl, rfl, he⟩
  · exact ok hab
  · exact error (hg e e' he)

/-- Computations match if what is made of their results afterwards does. -/
theorem of_map {F : α → γ} {G : β → κ} (h : Matches f S (x.map F) (x'.map G)) :
    Matches f (fun a b => S (F a) (G b)) x x' := by
  cases x <;> cases x' <;> exact h

theorem map {F : α → γ} {G : β → κ} (h : Matches f R x x') (hg : ∀ a b, R a b → S (F a) (G b)) :
    Matches f S (x.map F) (x'.map G) := by
  rcases h.cases with ⟨a, b, rfl, rfl, hab⟩ | ⟨e, e', rfl, rfl, he⟩
  · exact ok (hg a b hab)
  · exact error he

theorem bind {F : α → Except ε γ} {G : β → Except ε κ} (h : Matches f R x x')
    (hg : ∀ a b, R a b → Matches f S (F a) (G b)) : Matches f S (x >>= F) (x' >>= G) := by
  rcases h.cases with ⟨a, b, rfl, rfl, hab⟩ | ⟨e, e', rfl, rfl, he⟩
  · exact hg a b hab
  · exact error he

/-- Computations for corresponding elements of two lists. -/
theorem mapM {F : ι → Except ε γ} {G : τ → Except ε κ} {as : List ι} {bs : List τ}
    (h : List.Forall₂ (fun a b => Matches f S (F a) (G b)) as bs) :
    Matches f (List.Forall₂ S) (as.mapM F) (bs.mapM G) := by
  induction h with
  | nil => exact ok .nil
  | cons hab _ ih =>
    rw [List.mapM_cons, List.mapM_cons]
    exact bind hab fun c d hcd => bind ih fun cs ds hcds => ok (.cons hcd hcds)

/-- Taking in corresponding elements keeps what is made of them related. -/
theorem foldlM {F : α → ι → Except ε α} {G : β → τ → Except ε β} {as : List ι} {bs : List τ}
    {T : ι → τ → Prop} (has : List.Forall₂ T as bs)
    (h : ∀ a b i j, R a b → T i j → Matches f R (F a i) (G b j)) {a : α} {b : β} (hab : R a b) :
    Matches f R (as.foldlM F a) (bs.foldlM G b) := by
  induction has generalizing a b with
  | nil => exact ok hab
  | cons hij _ ih =>
    rw [List.foldlM_cons, List.foldlM_cons]
    exact bind (h a b _ _ hab hij) fun a b hab => ih hab

end Matches

/-! ## Computations that say the same -/

/-- Whether the text is at fault. -/
def ReadError.isMalformed : ReadError → Bool
  | .malformed _ => true
  | .beyondLimits => false

/-- The computations have results that `f` does not tell apart, or none for reasons of one kind. -/
def Echoes (f : α → β) : Except ReadError α → Except ReadError α → Prop :=
  Matches ReadError.isMalformed fun a a' => f a' = f a

namespace Echoes

variable {f : α → γ} {g : β → δ} {x x' : Except ReadError α}

theorem ok {a a' : α} (h : f a' = f a) : Echoes f (.ok a) (.ok a') := h

theorem error {e e' : ReadError} (h : e.isMalformed = e'.isMalformed) :
    Echoes f (.error e) (.error e') := h

theorem symm (h : Echoes f x x') : Echoes f x' x :=
  (Matches.symm h).mono fun _ _ h => h.symm

theorem map {F F' : α → β} (h : Echoes f x x') (hg : ∀ a a', f a' = f a → g (F' a') = g (F a)) :
    Echoes g (x.map F) (x'.map F') :=
  Matches.map h hg

theorem bind {F F' : α → Except ReadError β} (h : Echoes f x x')
    (hg : ∀ a a', f a' = f a → Echoes g (F a) (F' a')) : Echoes g (x >>= F) (x' >>= F') :=
  Matches.bind h hg

/-- Computations for corresponding elements of two lists. -/
theorem mapM {F : ι → Except ReadError β} {G : κ → Except ReadError β} {as : List ι} {bs : List κ}
    (h : List.Forall₂ (fun a b => Echoes g (F a) (G b)) as bs) :
    Echoes (List.map g) (as.mapM F) (bs.mapM G) := by
  refine (Matches.mapM h).mono fun cs cs' hcs => ?_
  induction hcs with
  | nil => rfl
  | cons hc _ ih => rw [List.map_cons, List.map_cons, hc, ih]

/-- Results that are not told apart from those of one and the same computation. -/
theorem of_agree {y : Except ReadError γ} (h : AgreeUpTo ReadError.isMalformed y (x.map f))
    (h' : AgreeUpTo ReadError.isMalformed y (x'.map f)) : Echoes f x x' := by
  have hsame : (x.map f).mapError ReadError.isMalformed =
      (x'.map f).mapError ReadError.isMalformed := h.symm.trans h'
  cases x <;> cases x' <;> simp_all [Echoes, Matches, Except.map, Except.mapError]

end Echoes

/-! ## Lists without places -/

theorem Expr.allUnplaced_eq_map (es : List Expr) : allUnplaced es = es.map unplaced := by
  induction es with
  | nil => rfl
  | cons e es ih => rw [allUnplaced, ih, List.map_cons]

theorem Part.allUnplaced_eq_map (parts : List Part) : allUnplaced parts = parts.map unplaced := by
  induction parts with
  | nil => rfl
  | cons p parts ih => rw [allUnplaced, ih, List.map_cons]

theorem Step.allUnplaced_eq_map (steps : List Step) : allUnplaced steps = steps.map unplaced := by
  induction steps with
  | nil => rfl
  | cons s steps ih => rw [allUnplaced, ih, List.map_cons]

/-- The item of an object constructor without places. -/
def ObjectItem.unplaced : ObjectItem → ObjectItem
  | .mk key value => .mk key.unplaced value.unplaced

theorem ObjectItem.allUnplaced_eq_map (items : List ObjectItem) :
    allUnplaced items = items.map unplaced := by
  induction items with
  | nil => rfl
  | cons item items ih =>
    cases item
    rw [allUnplaced, ih, List.map_cons, unplaced]

theorem Expr.conditionUnplaced_eq_map (cond : Option Expr) :
    conditionUnplaced cond = cond.map unplaced := by
  cases cond <;> rfl

namespace Native

/-! ## Templates -/

/-- The directive without places. -/
def Directive.unplaced : Directive → Directive
  | .cond test => .cond test.unplaced
  | .otherwise => .otherwise
  | .endCond => .endCond
  | .loop vars collection => .loop vars collection.unplaced
  | .endLoop => .endLoop

/-- The item of a template without places. -/
def TemplateItem.unplaced : TemplateItem → TemplateItem
  | .text s => .text s
  | .interp trim e => .interp trim e.unplaced
  | .directive trim _ d => .directive trim .nowhere d.unplaced

/-- The open directive without places. -/
def OpenDirective.unplaced : OpenDirective → OpenDirective
  | .cond _ test outer => .cond .nowhere test.unplaced (outer.map Part.unplaced)
  | .otherwise _ test yes outer =>
    .otherwise .nowhere test.unplaced (yes.map Part.unplaced) (outer.map Part.unplaced)
  | .loop _ vars collection outer =>
    .loop .nowhere vars collection.unplaced (outer.map Part.unplaced)

theorem TemplateItem.trimAll_unplaced (after : Bool) (items : List TemplateItem) :
    trimAll after (items.map unplaced) = (trimAll after items).map unplaced := by
  -- Whether an item trims does not depend on its place.
  have hbefore : ∀ i : TemplateItem, i.unplaced.trimsBefore = i.trimsBefore := by
    rintro (_ | _ | _) <;> rfl
  have hhead : ∀ is : List TemplateItem,
      (is.map unplaced).head?.any trimsBefore = is.head?.any trimsBefore := by
    rintro (_ | ⟨i, is⟩)
    · rfl
    · exact hbefore i
  fun_induction trimAll after items with
  | case1 => rfl
  | case2 after s rest _ _ ih =>
    rw [List.map_cons, unplaced, trimAll, hhead, ih]
    rfl
  | case3 after item rest hnot ih =>
    cases item with
    | text s => exact absurd rfl (hnot s)
    | interp | directive =>
      rw [List.map_cons, List.map_cons, ← ih]
      rfl

namespace Part

open ResourceTables.Part (unplaced)

theorem map_unplaced_addText (s : String) (parts : List Part) :
    (addText s parts).map unplaced = addText s (parts.map unplaced) := by
  unfold addText
  split
  · rfl
  · cases parts with
    | nil => rfl
    | cons p parts => cases p <;> rfl

/-- Nesting directives does not look at places. -/
theorem agree_nest (stack : List OpenDirective) (parts : List Part) (items : List TemplateItem) :
    AgreeUpTo ReadError.isMalformed
      (nest (stack.map OpenDirective.unplaced) (parts.map unplaced)
        (items.map TemplateItem.unplaced))
      ((nest stack parts items).map (List.map unplaced)) := by
  fun_induction nest stack parts items with
  | case1 parts =>
    simp only [List.map_nil, nest, Except.map, List.map_reverse]
    exact .refl
  | case2 | case3 | case4 => exact .error rfl
  | case5 _ _ _ _ ih | case6 _ _ _ _ _ ih | case7 _ _ _ _ _ _ ih | case8 _ _ _ _ _ _ _ ih
  | case9 _ _ _ _ _ _ _ _ ih | case10 _ _ _ _ _ _ _ _ ih | case11 _ _ _ _ _ _ _ _ _ ih
  | case12 _ _ _ _ _ _ _ _ _ ih =>
    simpa [nest, OpenDirective.unplaced, TemplateItem.unplaced, Directive.unplaced, unplaced,
      Part.allUnplaced_eq_map, map_unplaced_addText] using ih
  | case13 stack parts trim pos rest d hcond hloop hotherwise hendCond hendCond' hendLoop =>
    -- The directive closes nothing that is open, with places or without.
    cases d <;> rcases stack with _ | ⟨_ | _ | _, stack⟩
    all_goals first
      | exact .error rfl
      | exact (hcond _ rfl).elim
      | exact (hloop _ _ rfl).elim
      | exact (hotherwise _ _ _ _ rfl rfl).elim
      | exact (hendCond _ _ _ _ rfl rfl).elim
      | exact (hendCond' _ _ _ _ _ rfl rfl).elim
      | exact (hendLoop _ _ _ _ _ rfl rfl).elim

/-- Templates with the same items have the same parts. -/
theorem echoes_ofItems {items items' : List TemplateItem}
    (h : items'.map TemplateItem.unplaced = items.map TemplateItem.unplaced) :
    Echoes (List.map unplaced) (ofItems items) (ofItems items') := by
  have hagree : ∀ is : List TemplateItem, AgreeUpTo ReadError.isMalformed
      (nest [] [] (TemplateItem.trimAll false (is.map TemplateItem.unplaced)))
      ((ofItems is).map (List.map unplaced)) := by
    intro is
    rw [TemplateItem.trimAll_unplaced]
    exact agree_nest [] [] (TemplateItem.trimAll false is)
  refine .of_agree (hagree items) ?_
  rw [← h]
  exact hagree items'

end Part

end Native

end ResourceTables
