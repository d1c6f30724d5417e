import Mathlib.Data.List.Forall2
import ResourceTables.Config.Json

/-!
# Trees with other comments

A comment in a JSON configuration is a pair with a key of its own. Comments can be put in and taken
out in any object at any depth, and have any values. What else is written stays the same, but its
places and the source text around comments do not.

* `JsonNode.Recommented`, `JsonPair.AllRecommented`: values and members that differ in nothing but
  comments and places;
* `JsonPair.AllRecommented.forall₂`: the members that are no comments correspond one by one.
-/

namespace ResourceTables

mutual

/-- The values differ in nothing but comments and places. -/
inductive JsonNode.Recommented : JsonNode → JsonNode → Prop
  /-- A value without parts holds no comments, so it is still written the same. -/
  | scalar {o o' : Origin} {value : JsonScalar} (h : o.source = o'.source) :
      JsonNode.Recommented (.scalar o value) (.scalar o' value)
  | array {o o' : Origin} {items items' : List JsonNode}
      (h : JsonNode.AllRecommented items items') :
      JsonNode.Recommented (.array o items) (.array o' items')
  | object {o o' : Origin} {pairs pairs' : List JsonPair}
      (h : JsonPair.AllRecommented pairs pairs') :
      JsonNode.Recommented (.object o pairs) (.object o' pairs')

/-- The values differ one by one in nothing but comments and places. -/
inductive JsonNode.AllRecommented : List JsonNode → List JsonNode → Prop
  | nil : JsonNode.AllRecommented [] []
  | cons {node node' : JsonNode} {items items' : List JsonNode}
      (h : JsonNode.Recommented node node') (hitems : JsonNode.AllRecommented items items') :
      JsonNode.AllRecommented (node :: items) (node' :: items')

/-- The members of two objects differ in nothing but comments and places. -/
inductive JsonPair.AllRecommented : List JsonPair → List JsonPair → Prop
  | nil : JsonPair.AllRecommented [] []
  /-- A comment is taken out, whatever its value is. -/
  | taken {pos : Pos} {value : JsonNode} {pairs pairs' : List JsonPair}
      (hpairs : JsonPair.AllRecommented pairs pairs') :
      JsonPair.AllRecommented (.mk JsonPair.commentKey pos value :: pairs) pairs'
  /-- A comment is put in, whatever its value is. -/
  | put {pos : Pos} {value : JsonNode} {pairs pairs' : List JsonPair}
      (hpairs : JsonPair.AllRecommented pairs pairs') :
      JsonPair.AllRecommented pairs (.mk JsonPair.commentKey pos value :: pairs')
  /-- A member stays, in the same file. -/
  | cons {key : String} {pos pos' : Pos} {value value' : JsonNode} {pairs pairs' : List JsonPair}
      (hfile : pos.file = pos'.file) (h : JsonNode.Recommented value value')
      (hpairs : JsonPair.AllRecommented pairs pairs') :
      JsonPair.AllRecommented (.mk key pos value :: pairs) (.mk key pos' value' :: pairs')

end

/-- The members have the same name, stand in the same file, and have values that differ in nothing
but comments and places. -/
structure JsonPair.Recommented (p p' : JsonPair) : Prop where
  /-- They have the same name. -/
  key : p.key = p'.key
  /-- They stand in the same file. -/
  file : p.pos.file = p'.pos.file
  /-- Their values differ in nothing but comments and places. -/
  value : p.value.Recommented p'.value

theorem JsonPair.Recommented.isComment_eq {p p' : JsonPair} (h : p.Recommented p') :
    p.isComment = p'.isComment := by
  rw [isComment, isComment, h.key]

/-- Values that differ in nothing but comments and places correspond one by one. -/
theorem JsonNode.AllRecommented.forall₂ {items items' : List JsonNode} :
    JsonNode.AllRecommented items items' → List.Forall₂ JsonNode.Recommented items items'
  | .nil => .nil
  | .cons h hitems => .cons h hitems.forall₂

/-- The members that are no comments correspond one by one. -/
theorem JsonPair.AllRecommented.forall₂ {pairs pairs' : List JsonPair} :
    JsonPair.AllRecommented pairs pairs' →
      List.Forall₂ JsonPair.Recommented (pairs.filter (!·.isComment)) (pairs'.filter (!·.isComment))
  | .nil => .nil
  | .taken hpairs => hpairs.forall₂
  | .put hpairs => hpairs.forall₂
  | @JsonPair.AllRecommented.cons key _ _ _ _ _ _ hfile h hpairs => by
    rw [List.filter_cons, List.filter_cons]
    by_cases hkey : key = JsonPair.commentKey
    · simp only [JsonPair.isComment, JsonPair.key, hkey]
      exact hpairs.forall₂
    · simp only [JsonPair.isComment, JsonPair.key, beq_eq_false_iff_ne.2 hkey]
      exact .cons ⟨rfl, hfile, h⟩ hpairs.forall₂

end ResourceTables
