import ResourceTables.Proofs.Encodings.Agreement
import ResourceTables.Proofs.Layout.Places
import ResourceTables.Proofs.Names.Evaluation

/-!
# Neither evaluation nor decoding looks at places

The value of an expression does not depend on where the expression is written. An error names the
place of the part that is invalid, but its cause is the same wherever this is. What a schema finds
in a native body is the same wherever the body is written, and so are the cells of a resource.

* `EvalError.cause?`: an error without the place;
* `Expr.rename_unplaced`: taking the places out is moving all of them to nowhere;
* `Expr.agree_evaluate_unplaced`: evaluating an expression without places gives the same value, or
  an error with the same cause;
* `Body.IsNative.agree_partialContent`, `Body.IsNative.agree_justAttributes`: decoding a body
  without places gives the content without places, or an error of the same class;
* `Resource.agree_resolve_unplaced`: a block without places gives the same cells.
-/

namespace ResourceTables

/-- The cause of an error, without the place; nothing when a number is beyond limits. -/
def EvalError.cause? : EvalError → Option EvalCause
  | .invalid _ cause => some cause
  | .beyondLimits => none

theorem EvalError.cause?_moved (place : Origin → Origin) (e : EvalError) :
    (e.moved place).cause? = e.cause? := by
  cases e <;> rfl

/-- An error has the same cause at another place. -/
theorem Moves.agree {place : Origin → Origin} {x x' : Eval α} (h : Moves place x x') :
    AgreeUpTo EvalError.cause? x' x := by
  obtain rfl := h
  cases x with
  | error e => exact .error (e.cause?_moved place)
  | ok a => exact .refl

theorem Value.agree_toText (v : Value) (o o' : Origin) (role : Role) :
    AgreeUpTo EvalError.cause? (v.toText o role) (v.toText o' role) :=
  (v.moves_toText (fun _ => o) o' role).agree

mutual

/-- Taking the places out of an expression is moving all of them to nowhere. -/
theorem Expr.rename_unplaced (e : Expr) : e.rename Origin.unplaced id = e.unplaced := by
  match e with
  | .literal _ _ | .variable _ _ => rfl
  | .template _ parts => rw [Expr.rename, Expr.unplaced, Part.renameAll_unplaced parts]
  | .getAttr _ target _ => rw [Expr.rename, Expr.unplaced, target.rename_unplaced]
  | .index _ target key =>
    rw [Expr.rename, Expr.unplaced, target.rename_unplaced, key.rename_unplaced]
  | .splat _ target steps _ =>
    rw [Expr.rename, Expr.unplaced, target.rename_unplaced, Step.renameAll_unplaced steps]
  | .call _ _ args _ => rw [Expr.rename, Expr.unplaced, Expr.renameAll_unplaced args]
  | .tuple _ items => rw [Expr.rename, Expr.unplaced, Expr.renameAll_unplaced items]
  | .object _ items => rw [Expr.rename, Expr.unplaced, ObjectItem.renameAll_unplaced items]
  | .forTuple _ vars collection value cond =>
    rw [Expr.rename, Expr.unplaced, vars.shadow_id, collection.rename_unplaced,
      value.rename_unplaced, Expr.renameCondition_unplaced cond]
  | .forObject _ vars collection key value cond _ =>
    rw [Expr.rename, Expr.unplaced, vars.shadow_id, collection.rename_unplaced,
      key.rename_unplaced, value.rename_unplaced, Expr.renameCondition_unplaced cond]
  | .conditional _ cond yes no =>
    rw [Expr.rename, Expr.unplaced, cond.rename_unplaced, yes.rename_unplaced, no.rename_unplaced]
  | .binary _ _ left right =>
    rw [Expr.rename, Expr.unplaced, left.rename_unplaced, right.rename_unplaced]
  | .unary _ _ operand => rw [Expr.rename, Expr.unplaced, operand.rename_unplaced]
  | .parens _ inner => rw [Expr.rename, Expr.unplaced, inner.rename_unplaced]

theorem Expr.renameAll_unplaced (es : List Expr) :
    Expr.renameAll Origin.unplaced id es = Expr.allUnplaced es := by
  match es with
  | [] => rfl
  | e :: rest =>
    rw [Expr.renameAll, Expr.allUnplaced, e.rename_unplaced, Expr.renameAll_unplaced rest]

theorem Expr.renameCondition_unplaced (cond : Option Expr) :
    Expr.renameCondition Origin.unplaced id cond = Expr.conditionUnplaced cond := by
  match cond with
  | none => rfl
  | some cond => rw [Expr.renameCondition, Expr.conditionUnplaced, cond.rename_unplaced]

theorem Part.rename_unplaced (part : Part) : part.rename Origin.unplaced id = part.unplaced := by
  match part with
  | .text _ => rfl
  | .interp e => rw [Part.rename, Part.unplaced, e.rename_unplaced]
  | .cond test yes no =>
    rw [Part.rename, Part.unplaced, test.rename_unplaced, Part.renameAll_unplaced yes,
      Part.renameAll_unplaced no]
  | .loop vars collection body =>
    rw [Part.rename, Part.unplaced, vars.shadow_id, collection.rename_unplaced,
      Part.renameAll_unplaced body]

theorem Part.renameAll_unplaced (parts : List Part) :
    Part.renameAll Origin.unplaced id parts = Part.allUnplaced parts := by
  match parts with
  | [] => rfl
  | part :: rest =>
    rw [Part.renameAll, Part.allUnplaced, part.rename_unplaced, Part.renameAll_unplaced rest]

theorem Step.renameAll_unplaced (steps : List Step) :
    Step.renameAll Origin.unplaced id steps = Step.allUnplaced steps := by
  match steps with
  | [] => rfl
  | .attr _ :: rest =>
    rw [Step.renameAll, Step.allUnplaced, Step.renameAll_unplaced rest]
    rfl
  | .index key :: rest =>
    rw [Step.renameAll, Step.allUnplaced, Step.rename, Step.unplaced, key.rename_unplaced,
      Step.renameAll_unplaced rest]

theorem ObjectItem.renameAll_unplaced (items : List ObjectItem) :
    ObjectItem.renameAll Origin.unplaced id items = ObjectItem.allUnplaced items := by
  match items with
  | [] => rfl
  | .mk key value :: rest =>
    have hkey := key.rename_unplaced
    have hvalue := value.rename_unplaced
    have hrest := ObjectItem.renameAll_unplaced rest
    cases key <;> simp only [ObjectItem.renameAll, ObjectItem.allUnplaced, hkey, hvalue, hrest]
    rfl

end

namespace Expr

variable (e : Expr) (s : Scope)

/-- An expression without places has the same value, or no value for the same cause. -/
theorem agree_evaluate_unplaced :
    AgreeUpTo EvalError.cause? (e.unplaced.evaluate s) (e.evaluate s) := by
  rw [← e.rename_unplaced]
  exact (e.moves_evaluate Origin.unplaced (.of_id fun _ _ => rfl)).agree

theorem agree_keyText_unplaced :
    AgreeUpTo EvalError.cause? (e.unplaced.keyText s) (e.keyText s) := by
  have hvalue := e.agree_evaluate_unplaced s
  cases e with
  | «variable» o name => exact .refl
  | _ => exact .bind hvalue fun v => v.agree_toText _ _ _

end Expr

/-! ## Decoding -/

/-- The class of an error that is met when a block is decoded. -/
def ContentError.errorClass : ContentError → ErrorClass
  | .decode _ => .decode
  | .read e => (ResolveError.read e).errorClass

namespace Body

variable {schema : BodySchema}

theorem agree_checkLabels (b : Block) (header : BlockHeader) :
    AgreeUpTo ContentError.errorClass (b.unplaced.checkLabels header) (b.checkLabels header) := by
  unfold Block.checkLabels
  dsimp only [Block.labels_unplaced]
  split <;> rfl

theorem agree_addItem (c : Content) (item : Item) :
    AgreeUpTo ContentError.errorClass (addItem schema c.unplaced item.unplaced)
      ((addItem schema c item).map Content.unplaced) := by
  cases item with
  | «attribute» a =>
    rw [Item.unplaced, addItem, addItem, Attribute.name_unplaced, Content.attribute?_unplaced]
    split
    · cases c.attribute? a.name with
      | some first => rfl
      | none =>
        -- Taking the places out, before or after, makes the same content.
        have hadded : (c.addAttribute a).unplaced = c.unplaced.addAttribute a.unplaced := by
          simp [Content.unplaced, Content.addAttribute]
        exact congrArg Except.ok hadded.symm
    · split <;> rfl
  | block type labels pos items =>
    have hblock : (⟨type, labels, .native (Item.allUnplaced items), .nowhere⟩ : Block) =
        Block.unplaced ⟨type, labels, .native items, pos⟩ := by
      rw [Item.allUnplaced_eq_map]
      rfl
    have hadded : ∀ b, (c.addBlocks [b]).unplaced = c.unplaced.addBlocks [b.unplaced] := by
      intro b
      simp [Content.unplaced, Content.addBlocks]
    rw [Item.unplaced, addItem, addItem, hblock]
    split
    · split <;> rfl
    · exact .bind_same (agree_checkLabels ..) fun _ => congrArg Except.ok (hadded _).symm

/-- A native body without places holds the same content, without places, or is refused for a reason
of the same class. -/
theorem IsNative.agree_partialContent {body : Body} (h : body.IsNative) (schema : BodySchema) :
    AgreeUpTo ContentError.errorClass (body.unplaced.partialContent schema)
      ((body.partialContent schema).map Content.unplaced) := by
  obtain ⟨items, rfl⟩ := h
  exact .foldlM_map agree_addItem items {}

theorem agree_addArgument (found : List Attribute) (item : Item) :
    AgreeUpTo ContentError.errorClass
      (addArgument (found.map Attribute.unplaced) item.unplaced)
      ((addArgument found item).map (List.map Attribute.unplaced)) := by
  cases item with
  | block => rfl
  | «attribute» a =>
    rw [Item.unplaced, addArgument, addArgument, List.any_map]
    show AgreeUpTo _ (if found.any (·.name == a.name) then _ else _) _
    split
    · rfl
    · exact congrArg Except.ok (by simp)

/-- So it is for a body that holds arguments only. -/
theorem IsNative.agree_justAttributes {body : Body} (h : body.IsNative) :
    AgreeUpTo ContentError.errorClass body.unplaced.justAttributes
      (body.justAttributes.map (List.map Attribute.unplaced)) := by
  obtain ⟨items, rfl⟩ := h
  exact .foldlM_map agree_addArgument items []

end Body

/-! ## Cells -/

namespace Resource

theorem agree_cellOf_unplaced (a : Attribute) (v : Value) (name : String) :
    Agree ((cellOf a.unplaced v).mapError (ResolveError.cell name))
      ((cellOf a v).mapError (ResolveError.cell name)) := by
  have hsource : a.unplaced.expr.source = a.expr.source := a.expr.source_unplaced
  unfold cellOf
  split
  · rfl
  · rfl
  · rw [hsource]
    cases v <;> rfl

theorem agree_resolveCell_unplaced (schema : ResourceSchema) (c : Content) (name : String) :
    Agree (resolveCell schema c.unplaced name) (resolveCell schema c name) := by
  unfold resolveCell
  rw [Content.attribute?_unplaced]
  cases c.attribute? name with
  | none => exact .refl
  | some a =>
    rcases (a.expr.agree_evaluate_unplaced Scope.empty).cases with
      ⟨v, hv, hv'⟩ | ⟨e, e', he, he', hcause⟩
    · simp only [Option.map_some, Attribute.unplaced, hv, hv']
      exact agree_cellOf_unplaced a v name
    -- The errors have one cause: either both are invalid or both are beyond limits.
    · simp only [Option.map_some, Attribute.unplaced, he, he']
      cases e <;> cases e' <;> first | rfl | cases hcause

/-- A block without places gives the same cells, or none for a reason of the same class. -/
theorem agree_resolve_unplaced (r : Resource) {b : Block} (hb : b.body.IsNative)
    (names : List String) (registry : Registry) (required : List (String × RequiredProvider)) :
    Agree (r.resolve b.unplaced names registry required)
      (r.resolve b names registry required) := by
  unfold resolve
  refine .bind .refl fun schema => ?_
  have hcontent := hb.agree_partialContent ⟨schema.attributes.map (·.1), []⟩
  dsimp only [Block.unplaced]
  -- Both bodies are refused for reasons of one class, or hold the same content up to places.
  cases hdecoded : b.body.partialContent ⟨schema.attributes.map (·.1), []⟩ with
  | error e =>
    rw [hdecoded] at hcontent
    rcases hcontent.cases with ⟨_, _, h⟩ | ⟨e', e'', he', he'', hclass⟩
    · cases h
    · cases he''
      rw [he']
      rcases e' with _ | (_ | _) <;> rcases e with _ | (_ | _) <;> first | rfl | cases hclass
  | ok content =>
    rw [hdecoded] at hcontent
    rw [hcontent.eq_ok_iff.2 rfl]
    refine .foldlM (fun cells name => ?_) names []
    exact .bind (agree_resolveCell_unplaced schema content name) fun _ => .refl

end Resource

end ResourceTables
