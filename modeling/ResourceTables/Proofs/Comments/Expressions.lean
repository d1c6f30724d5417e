import ResourceTables.Proofs.Comments.Trees
import ResourceTables.Proofs.Layout.Items
import ResourceTables.Proofs.Sources.Lockstep

/-!
# Expressions of trees with other comments

A JSON value stands for the same expression whatever comments are in it, apart from the places in
the expression and from the source text of its tuples and objects. Neither can be told from an
attribute: a table shows the source text of an expression only where its value is unknown, and that
of a tuple or an object is of a kind that no table shows.

* `Expr.Alike`: expressions that cannot be told apart in an attribute;
* `JsonNode.Recommented.matches_expr`: values that differ in nothing but comments and places stand
  for such expressions, or are both refused.
-/

namespace ResourceTables

/-! ## Expressions in an attribute -/

/-- In an attribute the expressions cannot be told apart. -/
structure Expr.Alike (e e' : Expr) : Prop where
  /-- They have the same value, or none for the same cause. -/
  value : AgreeUpTo EvalError.cause? (e.evaluate Scope.empty) (e'.evaluate Scope.empty)
  /-- They name the same provider, or none. -/
  provider : Module.providerOfExpr? e = Module.providerOfExpr? e'
  /-- They are written the same, unless their value has parts. -/
  source : e.source = e'.source ∨
    Ensures (fun v => v.kind = .tuple ∨ v.kind = .object) (e.evaluate Scope.empty)

/-- In an object constructor the items cannot be told apart. -/
inductive ObjectItem.Alike : ObjectItem → ObjectItem → Prop
  | mk {key key' value value' : Expr}
      (hkey : AgreeUpTo EvalError.cause? (key.keyText Scope.empty) (key'.keyText Scope.empty))
      (hvalue : value.Alike value') : Alike (.mk key value) (.mk key' value')

namespace Expr

variable {e e' : Expr} {o o' : Origin}

/-- Expressions that differ in nothing but places are alike. -/
theorem Alike.of_unplaced (h : e'.unplaced = e.unplaced) : e.Alike e' where
  value := by
    have hvalue' := e'.agree_evaluate_unplaced Scope.empty
    rw [h] at hvalue'
    exact (e.agree_evaluate_unplaced Scope.empty).symm.trans hvalue'
  provider := by
    rw [← Module.providerOfExpr?_unplaced e, ← h, Module.providerOfExpr?_unplaced]
  source := by
    rw [← e.source_unplaced, ← h, e'.source_unplaced]
    exact .inl rfl

theorem agree_keyText_of_unplaced (h : e'.unplaced = e.unplaced) :
    AgreeUpTo EvalError.cause? (e.keyText Scope.empty) (e'.keyText Scope.empty) := by
  have hkey' := e'.agree_keyText_unplaced Scope.empty
  rw [h] at hkey'
  exact (e.agree_keyText_unplaced Scope.empty).symm.trans hkey'

theorem Alike.agree_evaluateAll {es es' : List Expr} (h : List.Forall₂ Alike es es') :
    AgreeUpTo EvalError.cause? (evaluateAll Scope.empty es) (evaluateAll Scope.empty es') := by
  induction h with
  | nil => exact .refl
  | cons he _ ih =>
    rw [evaluateAll, evaluateAll]
    exact .bind he.value fun v => .bind ih fun vs => .refl

theorem Alike.tuple {es es' : List Expr} (h : List.Forall₂ Alike es es') :
    (Expr.tuple o es).Alike (.tuple o' es') where
  value := by
    rw [evaluate, evaluate]
    exact .bind (agree_evaluateAll h) fun _ => .refl
  provider := rfl
  source := by
    rw [evaluate]
    exact .inr (.bind .trivial fun _ _ => .ok (.inl rfl))

end Expr

theorem ObjectItem.Alike.agree_evaluateAll {items items' : List ObjectItem}
    (h : List.Forall₂ Alike items items') (made : Fields Value) :
    AgreeUpTo EvalError.cause? (evaluateAll Scope.empty made items)
      (evaluateAll Scope.empty made items') := by
  induction h generalizing made with
  | nil => exact .refl
  | cons hitem _ ih =>
    cases hitem with
    | mk hkey hvalue =>
      rw [evaluateAll_cons, evaluateAll_cons]
      refine .bind hkey fun name => .bind hvalue.value fun v => ?_
      cases name with
      | some name => exact ih _
      | none => exact .bind (ih made) fun _ => .refl

theorem Expr.Alike.object {o o' : Origin} {items items' : List ObjectItem}
    (h : List.Forall₂ ObjectItem.Alike items items') :
    (Expr.object o items).Alike (.object o' items') where
  value := by
    rw [evaluate_object, evaluate_object]
    exact .bind (ObjectItem.Alike.agree_evaluateAll h []) fun _ => .refl
  provider := rfl
  source := by
    rw [evaluate_object]
    -- With a key that is not known the value is unknown, but its kind is still that of an object.
    refine .inr (.bind .trivial fun fields _ => ?_)
    cases fields with
    | some fields => exact .ok (.inr rfl)
    | none => exact .ok (.inr rfl)

/-! ## Expressions of JSON values -/

namespace Json

variable {o o' : Origin} {pos pos' : Pos}

/-- A text is the same template at any place. -/
theorem echoes_template (h : o.source = o'.source) (s : String) :
    Echoes Expr.unplaced ((templateParts o.pos s).map (.template o))
      ((templateParts o'.pos s).map (.template o')) := by
  refine (Native.echoes_parseTemplate o.pos.file o'.pos.file o.pos.line o'.pos.line s).map
    fun parts parts' hparts => ?_
  simp only [Expr.unplaced, Part.allUnplaced_eq_map, Origin.unplaced, h, hparts]

theorem matches_scalarExpr (h : o.source = o'.source) (value : JsonScalar) :
    Matches ReadError.isMalformed Expr.Alike (scalarExpr o value) (scalarExpr o' value) := by
  have horigin : o'.unplaced = o.unplaced := by rw [Origin.unplaced, Origin.unplaced, h]
  cases value with
  | text s => exact (echoes_template h s).mono fun _ _ => .of_unplaced
  | null | bool | number => exact .ok (.of_unplaced (by rw [Expr.unplaced, Expr.unplaced, horigin]))

theorem matches_keyExpr (key : String) :
    Matches ReadError.isMalformed (fun e e' => AgreeUpTo EvalError.cause? (e.keyText Scope.empty)
      (e'.keyText Scope.empty)) (keyExpr pos key) (keyExpr pos' key) := by
  have hechoes : Echoes Expr.unplaced (keyExpr pos key) (keyExpr pos' key) :=
    echoes_template (by rfl) key
  exact hechoes.mono fun _ _ => Expr.agree_keyText_of_unplaced

end Json

mutual

/-- Values that differ in nothing but comments and places stand for expressions that cannot be told
apart, or are both refused for a reason of one class. -/
theorem JsonNode.Recommented.matches_expr {node node' : JsonNode} :
    node.Recommented node' →
      Matches ReadError.isMalformed Expr.Alike (Json.expr node) (Json.expr node')
  | .scalar h => Json.matches_scalarExpr h _
  | .array h => h.matches_exprs.map fun _ _ => .tuple
  | .object h => h.matches_objectItems.map fun _ _ => .object

theorem JsonNode.AllRecommented.matches_exprs {items items' : List JsonNode} :
    JsonNode.AllRecommented items items' → Matches ReadError.isMalformed
      (List.Forall₂ Expr.Alike) (Json.exprs items) (Json.exprs items')
  | .nil => .ok .nil
  | .cons h hitems =>
    .bind h.matches_expr fun _ _ he => .bind hitems.matches_exprs fun _ _ hes => .ok (.cons he hes)

theorem JsonPair.AllRecommented.matches_objectItems {pairs pairs' : List JsonPair} :
    JsonPair.AllRecommented pairs pairs' → Matches ReadError.isMalformed
      (List.Forall₂ ObjectItem.Alike) (Json.objectItems pairs) (Json.objectItems pairs')
  | .nil => .ok .nil
  | .taken hpairs => hpairs.matches_objectItems
  | .put hpairs => hpairs.matches_objectItems
  | .cons _ h hpairs => by
    rw [Json.objectItems, Json.objectItems]
    -- The keys are the same, so that both members are comments or neither is.
    split
    · exact hpairs.matches_objectItems
    · refine .bind (Json.matches_keyExpr _) fun k k' hk => ?_
      refine .bind h.matches_expr fun v v' hv => ?_
      refine .bind hpairs.matches_objectItems fun items items' hitems => ?_
      exact .ok (.cons (.mk hk hv) hitems)

end

end ResourceTables
