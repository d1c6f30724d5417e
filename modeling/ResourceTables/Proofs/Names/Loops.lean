import ResourceTables.Proofs.Names.Evaluation

/-!
# What evaluation reads

An expression reads the names that are free in it and no others. So the variables of a loop can have
any names that are not in use in the loop already.

* `Expr.renameVariable`, `Part.renameVariable`: a loop with another name for one of its variables;
* `Scope.renames_loopBind`: in each round the new name stands for what the old one stood for;
* `Expr.evaluate_of_freeNames`: neither names that are not free nor the names of the variables of a
  loop matter.
-/

namespace ResourceTables

/-- One of the variables of a loop. -/
inductive LoopVariable where
  /-- The variable for keys. -/
  | key
  /-- The variable for elements. -/
  | value

namespace LoopVars

variable (vars : LoopVars)

/-- The variables with another name for one of them. -/
def rename : LoopVariable → String → LoopVars
  | .key, new => ⟨vars.key.map fun _ => new, vars.value⟩
  | .value, new => ⟨vars.key, new⟩

/-- What becomes of a name in the rounds of a loop when one of its variables gets the name `new`.
Where both variables have one name, it stands for the key and not for the element. -/
def renamed : LoopVariable → String → String → String
  | .key, new, name => if vars.key = some name then new else name
  | .value, new, name => if name = vars.value ∧ vars.key ≠ some name then new else name

end LoopVars

/-- A `for` expression with another name for one of its variables, there and wherever it is read.
Any other expression has no variables to rename. -/
def Expr.renameVariable (place : Origin → Origin) (which : LoopVariable) (new : String) :
    Expr → Expr
  | .forTuple o vars collection value cond =>
    .forTuple (place o) (vars.rename which new) (collection.rename place id)
      (value.rename place (vars.renamed which new))
      (Expr.renameCondition place (vars.renamed which new) cond)
  | .forObject o vars collection key value cond grouping =>
    .forObject (place o) (vars.rename which new) (collection.rename place id)
      (key.rename place (vars.renamed which new)) (value.rename place (vars.renamed which new))
      (Expr.renameCondition place (vars.renamed which new) cond) grouping
  | e => e.rename place id

/-- The same of a `for` directive. -/
def Part.renameVariable (place : Origin → Origin) (which : LoopVariable) (new : String) :
    Part → Part
  | .loop vars collection body =>
    .loop (vars.rename which new) (collection.rename place id)
      (Part.renameAll place (vars.renamed which new) body)
  | part => part.rename place id

/-- In a round of a loop a variable stands for the same by any name that is new to the loop. -/
theorem Scope.renames_loopBind {vars : LoopVars} {new : String} {names bound : List String}
    (which : LoopVariable) (hfree : new ∉ vars.unbound names) (hvars : new ∉ vars.names)
    (hbound : new ∉ bound) (s : Scope) (item : Value × Value) :
    Renames (vars.renamed which new) bound names (Loop.bind vars s item)
      (Loop.bind (vars.rename which new) s item) := by
  intro name hname
  have hne : name ≠ new := by
    rintro rfl
    exact hfree (List.mem_filter.2 ⟨hname, by simpa using hvars⟩)
  rw [LoopVars.mem_names, not_or] at hvars
  cases which with
  | key =>
    by_cases hkey : vars.key = some name
    · simp [LoopVars.renamed, LoopVars.rename, Loop.bind_apply, hkey, hbound]
    · have hother : vars.key.map (fun _ => new) ≠ some name := by
        cases vars.key <;> simp [hne.symm]
      simp [LoopVars.renamed, LoopVars.rename, Loop.bind_apply, hkey, hother]
  | value =>
    -- A variable for keys of the same name hides this one, which is not read then.
    by_cases hread : name = vars.value ∧ vars.key ≠ some name
    · obtain ⟨rfl, hkey⟩ := hread
      simp [LoopVars.renamed, LoopVars.rename, Loop.bind_apply, hkey, hvars.2, hbound]
    · simp only [LoopVars.renamed, LoopVars.rename, Loop.bind_apply, if_neg hread]
      by_cases hkey : vars.key = some name
      · simp [hkey]
      · have hvalue : name ≠ vars.value := fun heq => hread ⟨heq, hkey⟩
        simp [hkey, hne, hvalue]

/-! ## Loops with another variable -/

section Loops

variable {place : Origin → Origin} {new : String} {vars : LoopVars} {collection : Expr} {s : Scope}

/-- At other places the collection of a loop is the same. -/
theorem Expr.moves_evaluate_id (e : Expr) :
    Moves place (e.evaluate s) ((e.rename place id).evaluate s) :=
  e.moves_evaluate place (.of_id fun _ _ => rfl)

theorem Expr.moves_renameVariable (which : LoopVariable) (e : Expr) (hfree : new ∉ e.freeNames)
    (hbound : new ∉ e.boundNames) :
    Moves place (e.evaluate s) ((e.renameVariable place which new).evaluate s) := by
  cases e with
  | forTuple o vars collection value cond =>
    rw [Expr.freeNames, List.mem_append, not_or] at hfree
    rw [Expr.boundNames, List.mem_append, not_or, List.mem_append, not_or] at hbound
    -- Each round binds the two names to one value, and what is evaluated in it knows no other
    -- difference.
    have hround := fun item =>
      (Scope.renames_loopBind which hfree.2 hbound.2.1 hbound.2.2 s item).append
    exact moves_forTuple o collection.moves_evaluate_id
      (fun item => value.moves_evaluate place (hround item).1)
      (fun item => moves_holds place cond (hround item).2)
  | forObject o vars collection key value cond grouping =>
    rw [Expr.freeNames, List.mem_append, not_or] at hfree
    rw [Expr.boundNames, List.mem_append, not_or, List.mem_append, not_or] at hbound
    have hround := fun item =>
      (Scope.renames_loopBind which hfree.2 hbound.2.1 hbound.2.2 s item).append
    exact moves_forObject o grouping collection.moves_evaluate_id
      (fun item => key.moves_evaluate place (hround item).2.append.1)
      (fun item => value.moves_evaluate place (hround item).1)
      (fun item => moves_holds place cond (hround item).2.append.2)
  | _ => exact moves_evaluate_id _

theorem Part.moves_renameVariable (which : LoopVariable) (part : Part)
    (hfree : new ∉ part.freeNames) (hbound : new ∉ part.boundNames) :
    Moves place (part.render s) ((part.renameVariable place which new).render s) := by
  cases part with
  | loop vars collection body =>
    rw [Part.freeNames, List.mem_append, not_or] at hfree
    rw [Part.boundNames, List.mem_append, not_or, List.mem_append, not_or] at hbound
    exact moves_loop collection.moves_evaluate_id fun item =>
      moves_renderAll place body
        (Scope.renames_loopBind which hfree.2 hbound.2.1 hbound.2.2 s item)
  | _ => exact moves_render place _ (.of_id fun _ _ => rfl)

/-- A part of a template can be changed into one with the same text. -/
theorem Part.moves_renderAll_append {part part' : Part} (before after : List Part)
    (h : Moves place (part.render s) (part'.render s)) :
    Moves place (Part.renderAll s (before ++ part :: after))
      (Part.renderAll s
        (Part.renameAll place id before ++ part' :: Part.renameAll place id after)) := by
  induction before with
  | nil =>
    rw [Part.renameAll, List.nil_append, List.nil_append, Part.renderAll, Part.renderAll]
    refine .bind h fun _ => .bind ?_ fun _ => .ok
    exact moves_renderAll place after (.of_id fun _ _ => rfl)
  | cons first before ih =>
    rw [Part.renameAll, List.cons_append, List.cons_append, Part.renderAll, Part.renderAll]
    refine .bind ?_ fun _ => .bind ih fun _ => .ok
    exact first.moves_render place (.of_id fun _ _ => rfl)

/-- A template with a loop in it is not a single interpolation. -/
theorem Part.append_loop_ne_interp (before after : List Part) (body : List Part) (e : Expr) :
    before ++ .loop vars collection body :: after ≠ [.interp e] := by
  cases before <;> simp

end Loops

/-- An expression has the same value, or fails with the same error, in scopes in which its free
names stand for the same. With another name for one of its variables, which is neither free nor
bound in it already, a loop has the same value, or the same error at the place to which the part at
fault has moved. The same holds of a template with a loop in it. -/
theorem Expr.evaluate_of_freeNames :
    (∀ (e : Expr) (s s' : Scope), (∀ name ∈ e.freeNames, s name = s' name) →
      e.evaluate s = e.evaluate s') ∧
    (∀ (place : Origin → Origin) (which : LoopVariable) (new : String) (e : Expr) (s : Scope),
      new ∉ e.freeNames → new ∉ e.boundNames →
      (e.renameVariable place which new).evaluate s =
        (e.evaluate s).mapError (EvalError.moved place)) ∧
    (∀ (place : Origin → Origin) (which : LoopVariable) (new : String) (o : Origin)
        (before after body : List Part) (vars : LoopVars) (collection : Expr) (s : Scope),
      new ∉ (Part.loop vars collection body).freeNames →
      new ∉ (Part.loop vars collection body).boundNames →
      (Expr.template (place o) (Part.renameAll place id before ++
          (Part.loop vars collection body).renameVariable place which new ::
            Part.renameAll place id after)).evaluate s =
        ((Expr.template o (before ++ .loop vars collection body :: after)).evaluate s).mapError
          (EvalError.moved place)) := by
  refine ⟨fun e s s' hsame => ?_, fun place which new e s hfree hbound => ?_, ?_⟩
  · -- Renaming each name to itself is a renaming too, and it moves no error.
    have hmoves : Moves id (e.evaluate s) ((e.rename id id).evaluate s') :=
      e.moves_evaluate id (.of_id fun name hname => (hsame name hname).symm)
    have hid : EvalError.moved id = id := by
      funext err
      cases err <;> rfl
    rw [e.rename_id] at hmoves
    rw [hmoves, hid]
    cases e.evaluate s <;> rfl
  · exact e.moves_renameVariable which hfree hbound
  · intro place which new o before after body vars collection s hfree hbound
    rw [Part.renameVariable, Expr.evaluate_template _ _ _ (Part.append_loop_ne_interp _ _ _),
      Expr.evaluate_template _ _ _ (Part.append_loop_ne_interp _ _ _)]
    exact Moves.bind (Part.moves_renderAll_append before after
      (Part.moves_renameVariable which _ hfree hbound)) fun _ => .ok

/-- `[for k, v in c : [for v in v : v]]` reads `c` alone, and `w` can stand for the outer `v`. -/
theorem Expr.evaluate_of_freeNames_nested :
    let inner := fun name =>
      Expr.forTuple default ⟨none, "v"⟩ (.variable default name) (.variable default "v") none
    let loop := Expr.forTuple default ⟨some "k", "v"⟩ (.variable default "c") (inner "v") none
    let directive :=
      Part.loop ⟨some "k", "v"⟩ (.variable default "c") [.interp (.variable default "k")]
    let s := Scope.empty.bind "c" (.tuple [.tuple [.bool true, .unknown .dynamic]])
    let s' := s.bind "v" (.bool false)
    (loop.freeNames = ["c"] ∧ loop.evaluate s = loop.evaluate s') ∧
      (loop.renameVariable id .value "w" =
          .forTuple default ⟨some "k", "w"⟩ (.variable default "c") (inner "w") none ∧
        ("w" ∉ loop.freeNames ∧ "w" ∉ loop.boundNames) ∧
        (loop.renameVariable id .value "w").evaluate s =
          (loop.evaluate s).mapError (EvalError.moved id)) ∧
      ("w" ∉ directive.freeNames ∧ "w" ∉ directive.boundNames) ∧
        (Expr.template default [.text "a", directive.renameVariable id .key "w"]).evaluate s =
          ((Expr.template default [.text "a", directive]).evaluate s).mapError
            (EvalError.moved id) := by
  intro inner loop directive s s'
  have hfree : loop.freeNames = ["c"] := by rfl
  -- The second scope has a value for the variable of the loop, which is not free in it.
  have hscopes : ∀ name ∈ loop.freeNames, s name = s' name := by
    intro name hname
    obtain rfl : name = "c" := by simpa [hfree] using hname
    rfl
  have hloop : "w" ∉ loop.freeNames ∧ "w" ∉ loop.boundNames := by decide
  have hdirective : "w" ∉ directive.freeNames ∧ "w" ∉ directive.boundNames := by decide
  refine ⟨⟨hfree, evaluate_of_freeNames.1 loop s s' hscopes⟩, ⟨by rfl, hloop, ?_⟩, hdirective, ?_⟩
  · exact evaluate_of_freeNames.2.1 id .value "w" loop s hloop.1 hloop.2
  · exact evaluate_of_freeNames.2.2 id .key "w" default [.text "a"] [] _ _ _ s hdirective.1
      hdirective.2

end ResourceTables
