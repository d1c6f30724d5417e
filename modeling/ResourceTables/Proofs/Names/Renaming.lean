import ResourceTables.Proofs.Knownness.Evaluate

/-!
# Renaming

An expression can be written with other names in the place of those that it reads, and anywhere
else. The variables of a loop keep their names, and so does a name that is a key of an object.

* `Expr.rename`: the expression with other names and at other places;
* `Expr.boundNames`: the names that the loops in an expression bind;
* `Scope.Renames`: a scope in which the new names stand for what the old ones stood for, none of
  them caught by a loop;
* `Expr.rename_id`: nothing changes where all names and places stay.
-/

namespace ResourceTables

/-- What becomes of names within a loop: its variables stay. -/
def LoopVars.shadow (vars : LoopVars) (ρ : String → String) : String → String :=
  fun name => if name ∈ vars.names then name else ρ name

mutual

/-- The expression at other places, with other names for those that it reads. -/
def Expr.rename (place : Origin → Origin) (ρ : String → String) : Expr → Expr
  | .literal o value => .literal (place o) value
  | .template o parts => .template (place o) (Part.renameAll place ρ parts)
  | .variable o name => .variable (place o) (ρ name)
  | .getAttr o target name => .getAttr (place o) (target.rename place ρ) name
  | .index o target key => .index (place o) (target.rename place ρ) (key.rename place ρ)
  | .splat o target steps full =>
    .splat (place o) (target.rename place ρ) (Step.renameAll place ρ steps) full
  | .call o name args spread => .call (place o) name (Expr.renameAll place ρ args) spread
  | .tuple o items => .tuple (place o) (Expr.renameAll place ρ items)
  | .object o items => .object (place o) (ObjectItem.renameAll place ρ items)
  | .forTuple o vars collection value cond =>
    .forTuple (place o) vars (collection.rename place ρ) (value.rename place (vars.shadow ρ))
      (Expr.renameCondition place (vars.shadow ρ) cond)
  | .forObject o vars collection key value cond grouping =>
    .forObject (place o) vars (collection.rename place ρ) (key.rename place (vars.shadow ρ))
      (value.rename place (vars.shadow ρ)) (Expr.renameCondition place (vars.shadow ρ) cond)
      grouping
  | .conditional o cond yes no =>
    .conditional (place o) (cond.rename place ρ) (yes.rename place ρ) (no.rename place ρ)
  | .binary o op left right => .binary (place o) op (left.rename place ρ) (right.rename place ρ)
  | .unary o op operand => .unary (place o) op (operand.rename place ρ)
  | .parens o inner => .parens (place o) (inner.rename place ρ)

/-- The expressions with other names. -/
def Expr.renameAll (place : Origin → Origin) (ρ : String → String) : List Expr → List Expr
  | [] => []
  | e :: rest => e.rename place ρ :: Expr.renameAll place ρ rest

/-- The condition of a loop with other names. -/
def Expr.renameCondition (place : Origin → Origin) (ρ : String → String) :
    Option Expr → Option Expr
  | none => none
  | some cond => some (cond.rename place ρ)

/-- The part of a template with other names. -/
def Part.rename (place : Origin → Origin) (ρ : String → String) : Part → Part
  | .text s => .text s
  | .interp e => .interp (e.rename place ρ)
  | .cond test yes no =>
    .cond (test.rename place ρ) (Part.renameAll place ρ yes) (Part.renameAll place ρ no)
  | .loop vars collection body =>
    .loop vars (collection.rename place ρ) (Part.renameAll place (vars.shadow ρ) body)

/-- The parts of a template with other names. -/
def Part.renameAll (place : Origin → Origin) (ρ : String → String) : List Part → List Part
  | [] => []
  | part :: rest => part.rename place ρ :: Part.renameAll place ρ rest

/-- The step of a splat with other names. -/
def Step.rename (place : Origin → Origin) (ρ : String → String) : Step → Step
  | .attr name => .attr name
  | .index key => .index (key.rename place ρ)

/-- The steps of a splat with other names. -/
def Step.renameAll (place : Origin → Origin) (ρ : String → String) : List Step → List Step
  | [] => []
  | step :: rest => step.rename place ρ :: Step.renameAll place ρ rest

/-- The items of an object constructor with other names. A name that is a key stays. -/
def ObjectItem.renameAll (place : Origin → Origin) (ρ : String → String) :
    List ObjectItem → List ObjectItem
  | [] => []
  | .mk (.variable o name) value :: rest =>
    .mk (.variable (place o) name) (value.rename place ρ) :: ObjectItem.renameAll place ρ rest
  | .mk key value :: rest =>
    .mk (key.rename place ρ) (value.rename place ρ) :: ObjectItem.renameAll place ρ rest

end

mutual

/-- The names that the loops in an expression bind. -/
def Expr.boundNames : Expr → List String
  | .literal _ _ | .variable _ _ => []
  | .template _ parts => Part.allBoundNames parts
  | .getAttr _ target _ => target.boundNames
  | .index _ target key => target.boundNames ++ key.boundNames
  | .splat _ target steps _ => target.boundNames ++ Step.allBoundNames steps
  | .call _ _ args _ => Expr.allBoundNames args
  | .tuple _ items => Expr.allBoundNames items
  | .object _ items => ObjectItem.allBoundNames items
  | .forTuple _ vars collection value cond =>
    collection.boundNames ++ (vars.names ++ (value.boundNames ++ Expr.conditionBoundNames cond))
  | .forObject _ vars collection key value cond _ =>
    collection.boundNames ++ (vars.names ++
      (value.boundNames ++ (key.boundNames ++ Expr.conditionBoundNames cond)))
  | .conditional _ cond yes no => cond.boundNames ++ (yes.boundNames ++ no.boundNames)
  | .binary _ _ left right => left.boundNames ++ right.boundNames
  | .unary _ _ operand => operand.boundNames
  | .parens _ inner => inner.boundNames

/-- The names that the loops in several expressions bind. -/
def Expr.allBoundNames : List Expr → List String
  | [] => []
  | e :: rest => e.boundNames ++ Expr.allBoundNames rest

/-- The names that the loops in the condition of a loop bind. -/
def Expr.conditionBoundNames : Option Expr → List String
  | none => []
  | some cond => cond.boundNames

/-- The names that the loops in a part of a template bind. -/
def Part.boundNames : Part → List String
  | .text _ => []
  | .interp e => e.boundNames
  | .cond test yes no => test.boundNames ++ (Part.allBoundNames yes ++ Part.allBoundNames no)
  | .loop vars collection body => collection.boundNames ++ (vars.names ++ Part.allBoundNames body)

/-- The names that the loops in several parts of a template bind. -/
def Part.allBoundNames : List Part → List String
  | [] => []
  | part :: rest => part.boundNames ++ Part.allBoundNames rest

/-- The names that the loops in a step of a splat bind. -/
def Step.boundNames : Step → List String
  | .attr _ => []
  | .index key => key.boundNames

/-- The names that the loops in the steps of a splat bind. -/
def Step.allBoundNames : List Step → List String
  | [] => []
  | step :: rest => step.boundNames ++ Step.allBoundNames rest

/-- The names that the loops in an object constructor bind. -/
def ObjectItem.allBoundNames : List ObjectItem → List String
  | [] => []
  | .mk key value :: rest =>
    key.boundNames ++ (value.boundNames ++ ObjectItem.allBoundNames rest)

end

/-- In the second scope each of the names stands, by its new name, for what it stands for in the
first. No new name is among the bound ones, unless it is the old one. -/
def Scope.Renames (ρ : String → String) (bound names : List String) (s s' : Scope) : Prop :=
  ∀ name ∈ names, s' (ρ name) = s name ∧ (ρ name = name ∨ ρ name ∉ bound)

/-! ## Scopes of loops -/

/-- What a name stands for in a round of a loop: the variable for the keys hides the one for the
elements. -/
theorem Loop.bind_apply (vars : LoopVars) (s : Scope) (item : Value × Value) (name : String) :
    Loop.bind vars s item name =
      if vars.key = some name then some item.1
      else if name = vars.value then some item.2 else s name := by
  unfold Loop.bind Scope.bind
  cases vars.key with
  | none => simp
  | some key => simp [eq_comm]

theorem LoopVars.mem_names {vars : LoopVars} {name : String} :
    name ∈ vars.names ↔ name = vars.value ∨ vars.key = some name := by
  simp [names]

namespace Scope.Renames

variable {ρ : String → String} {bound bound' names names' : List String} {s s' : Scope}

theorem append (h : Renames ρ (bound ++ bound') (names ++ names') s s') :
    Renames ρ bound names s s' ∧ Renames ρ bound' names' s s' := by
  constructor <;> intro name hname
  · obtain ⟨hvalue, hcaught⟩ := h name (List.mem_append_left _ hname)
    exact ⟨hvalue, hcaught.imp_right fun hnot hmem => hnot (List.mem_append_left _ hmem)⟩
  · obtain ⟨hvalue, hcaught⟩ := h name (List.mem_append_right _ hname)
    exact ⟨hvalue, hcaught.imp_right fun hnot hmem => hnot (List.mem_append_right _ hmem)⟩

/-- Names that stay need the same meaning in both scopes, and no more. -/
theorem of_id (h : ∀ name ∈ names, s' name = s name) : Renames id bound names s s' :=
  fun name hname => ⟨h name hname, .inl rfl⟩

/-- In corresponding rounds of a loop its variables stand for the same, and any other name for what
it stands for outside. -/
theorem loopBind {vars : LoopVars} (h : Renames ρ (vars.names ++ bound) (vars.unbound names) s s')
    (item : Value × Value) :
    Renames (vars.shadow ρ) bound names (Loop.bind vars s item) (Loop.bind vars s' item) := by
  intro name hname
  by_cases hbound : name ∈ vars.names
  · -- A variable of the loop stays and is bound anew in both rounds.
    rw [LoopVars.shadow, if_pos hbound]
    refine ⟨?_, .inl rfl⟩
    rcases LoopVars.mem_names.1 hbound with hvalue | hkey <;>
      simp [Loop.bind_apply, *]
  · obtain ⟨hsame, hcaught⟩ := h name (List.mem_filter.2 ⟨hname, by simpa using hbound⟩)
    have hfree : ρ name ∉ vars.names := by
      rcases hcaught with heq | hnot
      · rwa [heq]
      · exact fun hmem => hnot (List.mem_append_left _ hmem)
    rw [LoopVars.shadow, if_neg hbound]
    refine ⟨?_, hcaught.imp_right fun hnot hmem => hnot (List.mem_append_right _ hmem)⟩
    rw [LoopVars.mem_names, not_or] at hbound hfree
    simp [Loop.bind_apply, hbound, hfree, hsame]

end Scope.Renames

/-- What an object constructor reads, item by item: a name as a key is not read. -/
theorem ObjectItem.renames_cons {ρ : String → String} {s s' : Scope} {key value : Expr}
    {rest : List ObjectItem}
    (h : Scope.Renames ρ (ObjectItem.allBoundNames (.mk key value :: rest))
      (ObjectItem.allFreeNames (.mk key value :: rest)) s s') :
    ((∀ o name, key ≠ .variable o name) → Scope.Renames ρ key.boundNames key.freeNames s s') ∧
      Scope.Renames ρ value.boundNames value.freeNames s s' ∧
        Scope.Renames ρ (ObjectItem.allBoundNames rest) (ObjectItem.allFreeNames rest) s s' := by
  rw [ObjectItem.allBoundNames] at h
  by_cases hvariable : ∃ o name, key = .variable o name
  · obtain ⟨o, name, rfl⟩ := hvariable
    exact ⟨fun hne => absurd rfl (hne o name), Scope.Renames.append h⟩
  · have hne : ∀ o name, key ≠ .variable o name := fun o name h => hvariable ⟨o, name, h⟩
    rw [ObjectItem.allFreeNames.eq_3 key value rest hne] at h
    exact ⟨fun _ => h.append.1, h.append.2.append⟩

/-! ## Names that stay -/

theorem Expr.origin_rename (place : Origin → Origin) (ρ : String → String) (e : Expr) :
    (e.rename place ρ).origin = place e.origin := by
  cases e <;> rfl

theorem LoopVars.shadow_id (vars : LoopVars) : vars.shadow id = id := by
  funext name
  simp [shadow]

mutual

/-- Nothing changes where all names and places stay. -/
theorem Expr.rename_id (e : Expr) : e.rename id id = e := by
  match e with
  | .literal _ _ | .variable _ _ => rfl
  | .template _ parts => simp only [Expr.rename, Part.renameAll_id parts, id]
  | .getAttr _ target _ => simp only [Expr.rename, target.rename_id, id]
  | .index _ target key => simp only [Expr.rename, target.rename_id, key.rename_id, id]
  | .splat _ target steps _ =>
    simp only [Expr.rename, target.rename_id, Step.renameAll_id steps, id]
  | .call _ _ args _ => simp only [Expr.rename, Expr.renameAll_id args, id]
  | .tuple _ items => simp only [Expr.rename, Expr.renameAll_id items, id]
  | .object _ items => simp only [Expr.rename, ObjectItem.renameAll_id items, id]
  | .forTuple _ vars collection value cond =>
    simp only [Expr.rename, LoopVars.shadow_id, collection.rename_id, value.rename_id,
      Expr.renameCondition_id cond, id]
  | .forObject _ vars collection key value cond _ =>
    simp only [Expr.rename, LoopVars.shadow_id, collection.rename_id, key.rename_id,
      value.rename_id, Expr.renameCondition_id cond, id]
  | .conditional _ cond yes no =>
    simp only [Expr.rename, cond.rename_id, yes.rename_id, no.rename_id, id]
  | .binary _ _ left right => simp only [Expr.rename, left.rename_id, right.rename_id, id]
  | .unary _ _ operand => simp only [Expr.rename, operand.rename_id, id]
  | .parens _ inner => simp only [Expr.rename, inner.rename_id, id]

theorem Expr.renameAll_id (es : List Expr) : Expr.renameAll id id es = es := by
  match es with
  | [] => rfl
  | e :: rest => rw [Expr.renameAll, e.rename_id, Expr.renameAll_id rest]

theorem Expr.renameCondition_id (cond : Option Expr) : Expr.renameCondition id id cond = cond := by
  match cond with
  | none => rfl
  | some cond => rw [Expr.renameCondition, cond.rename_id]

theorem Part.rename_id (part : Part) : part.rename id id = part := by
  match part with
  | .text _ => rfl
  | .interp e => rw [Part.rename, e.rename_id]
  | .cond test yes no =>
    rw [Part.rename, test.rename_id, Part.renameAll_id yes, Part.renameAll_id no]
  | .loop vars collection body =>
    rw [Part.rename, vars.shadow_id, collection.rename_id, Part.renameAll_id body]

theorem Part.renameAll_id (parts : List Part) : Part.renameAll id id parts = parts := by
  match parts with
  | [] => rfl
  | part :: rest => rw [Part.renameAll, part.rename_id, Part.renameAll_id rest]

theorem Step.renameAll_id (steps : List Step) : Step.renameAll id id steps = steps := by
  match steps with
  | [] => rfl
  | .attr _ :: rest => rw [Step.renameAll, Step.rename, Step.renameAll_id rest]
  | .index key :: rest =>
    rw [Step.renameAll, Step.rename, key.rename_id, Step.renameAll_id rest]

theorem ObjectItem.renameAll_id (items : List ObjectItem) :
    ObjectItem.renameAll id id items = items := by
  match items with
  | [] => rfl
  | .mk key value :: rest =>
    have hkey := key.rename_id
    have hvalue := value.rename_id
    have hrest := ObjectItem.renameAll_id rest
    cases key <;> simp only [ObjectItem.renameAll, hkey, hvalue, hrest, id]

end

end ResourceTables
