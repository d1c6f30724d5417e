import ResourceTables.Proofs.JsonBlocks.Ways
import ResourceTables.Proofs.Layout.Places

/-!
# Spelling JSON blocks differently

The blocks of a type are the ways through a JSON body, and there are other bodies with the same
ones: what is one object can be several ones in an array as long as labels are to come, and one
object can always stand alone in an array.

* `JsonNode.Respelled`: values that differ in how their blocks are spelled, and in their places;
* `JsonNode.Respelled.alike`: they have the same blocks;
* `Body.partialContent_ways`: what a body gives for one block type, and when it gives nothing.
-/

namespace ResourceTables

/-! ## JSON trees without places -/

mutual

/-- The value without places. Source texts stay. -/
def JsonNode.unplaced : JsonNode → JsonNode
  | .scalar o value => .scalar o.unplaced value
  | .array o items => .array o.unplaced (JsonNode.allUnplaced items)
  | .object o pairs => .object o.unplaced (JsonPair.allUnplaced pairs)

/-- The values without places. -/
def JsonNode.allUnplaced : List JsonNode → List JsonNode
  | [] => []
  | node :: rest => node.unplaced :: JsonNode.allUnplaced rest

/-- The pair without places. -/
def JsonPair.unplaced : JsonPair → JsonPair
  | .mk key _ value => .mk key .nowhere value.unplaced

/-- The pairs without places. -/
def JsonPair.allUnplaced : List JsonPair → List JsonPair
  | [] => []
  | p :: rest => p.unplaced :: JsonPair.allUnplaced rest

end

theorem JsonNode.allUnplaced_eq_map (items : List JsonNode) :
    allUnplaced items = items.map unplaced := by
  induction items with
  | nil => rfl
  | cons item items ih => rw [allUnplaced, ih, List.map_cons]

theorem JsonPair.allUnplaced_eq_map (pairs : List JsonPair) :
    allUnplaced pairs = pairs.map unplaced := by
  induction pairs with
  | nil => rfl
  | cons p pairs ih => rw [allUnplaced, ih, List.map_cons]

namespace JsonPair

@[simp]
theorem key_unplaced (p : JsonPair) : p.unplaced.key = p.key := by
  cases p
  rfl

@[simp]
theorem pos_unplaced (p : JsonPair) : p.unplaced.pos = .nowhere := by
  cases p
  rfl

@[simp]
theorem value_unplaced (p : JsonPair) : p.unplaced.value = p.value.unplaced := by
  cases p
  rfl

@[simp]
theorem isComment_unplaced (p : JsonPair) : p.unplaced.isComment = p.isComment := by
  rw [isComment, key_unplaced, isComment]

end JsonPair

/-- The body without places, in either notation. -/
def Body.placeless : Body → Body
  | .native items => .native (items.map Item.unplaced)
  | .json o pairs => .json o.unplaced (pairs.map JsonPair.unplaced)

/-- The block without places, in either notation. -/
def Block.placeless (b : Block) : Block :=
  ⟨b.type, b.labels, b.body.placeless, .nowhere⟩

/-- The content without places, in either notation. -/
def Content.placeless (c : Content) : Content :=
  ⟨c.attributes.map Attribute.unplaced, c.blocks.map Block.placeless⟩

namespace JsonNode

variable {n : Nat} {node node' node'' : JsonNode}

theorem objects_unplaced (node : JsonNode) :
    node.unplaced.objects = node.objects.map fun object =>
      (object.1.unplaced, object.2.map JsonPair.unplaced) := by
  cases node with
  | scalar => rfl
  | object o pairs => simp [unplaced, objects, JsonPair.allUnplaced_eq_map]
  | array o items =>
    rw [unplaced, objects, allUnplaced_eq_map, objects]
    induction items with
    | nil => rfl
    | cons item items ih =>
      cases item <;> simp [unplaced, JsonPair.allUnplaced_eq_map, ih]

theorem isObjects_unplaced (node : JsonNode) : node.unplaced.IsObjects ↔ node.IsObjects := by
  cases node with
  | scalar | object => rfl
  | array o items =>
    simp only [unplaced, IsObjects, allUnplaced_eq_map, List.forall_mem_map]
    refine forall₂_congr fun item _ => ?_
    cases item <;> simp [unplaced]

/-- The members of the objects of a value, one object after the other. -/
def objectMembers (node : JsonNode) : List JsonPair :=
  node.objects.flatMap Prod.snd

theorem objectMembers_unplaced (node : JsonNode) :
    node.unplaced.objectMembers = node.objectMembers.map JsonPair.unplaced := by
  rw [objectMembers, objects_unplaced, objectMembers, List.flatMap_map, List.map_flatMap]

/-- As long as labels are to come, only the members matter and not which objects they are in. -/
theorem fits_succ_iff_objectMembers :
    node.Fits (n + 1) ↔ node.IsObjects ∧ ∀ p ∈ node.objectMembers.filter (!·.isComment),
      p.value.Fits n := by
  rw [fits_succ_iff, objectMembers, List.filter_flatMap]
  refine and_congr_right fun _ => ?_
  simp only [List.mem_flatMap]
  exact ⟨fun h p ⟨o, ho, hp⟩ => h o ho p hp, fun h o ho p hp => h p ⟨o, ho, hp⟩⟩

theorem blocks_succ (type : String) (n : Nat) (found : List String) (pos : Pos)
    (node : JsonNode) :
    node.blocks type (n + 1) found pos = (node.objectMembers.filter (!·.isComment)).flatMap fun p =>
      p.value.blocks type n (found ++ [p.key]) p.pos := by
  rw [blocks, objectMembers, List.filter_flatMap, List.flatMap_assoc]

/-- Places do not matter for whether a value fits. -/
theorem fits_unplaced (n : Nat) (node : JsonNode) : node.unplaced.Fits n ↔ node.Fits n := by
  induction n generalizing node with
  | zero => rw [fits_zero_iff, fits_zero_iff, isObjects_unplaced]
  | succ n ih =>
    rw [fits_succ_iff_objectMembers, fits_succ_iff_objectMembers, isObjects_unplaced,
      objectMembers_unplaced]
    simp [ih]

theorem blocks_unplaced (type : String) (n : Nat) (found : List String) (pos : Pos)
    (node : JsonNode) :
    node.unplaced.blocks type n found .nowhere =
      (node.blocks type n found pos).map Block.placeless := by
  induction n generalizing found pos node with
  | zero => simp [blocks, objects_unplaced, Block.placeless, Body.placeless, Function.comp_def]
  | succ n ih =>
    have hfilter : (!·.isComment) ∘ JsonPair.unplaced = (!·.isComment) := by
      funext p
      rw [Function.comp_apply, JsonPair.isComment_unplaced]
    rw [blocks_succ, blocks_succ, objectMembers_unplaced, List.filter_map, hfilter,
      List.flatMap_map, List.map_flatMap]
    refine List.flatMap_congr fun p _ => ?_
    rw [JsonPair.key_unplaced, JsonPair.pos_unplaced, JsonPair.value_unplaced, ← ih]

/-! ## Values with the same blocks -/

/-- The values have the same blocks, places apart, when a number of labels is to come. -/
structure Alike (n : Nat) (node node' : JsonNode) : Prop where
  /-- Either both fit or neither of them does. -/
  fits : node.Fits n ↔ node'.Fits n
  /-- The blocks are the same but for their places. -/
  blocks : ∀ type found pos pos', (node.blocks type n found pos).map Block.placeless =
    (node'.blocks type n found pos').map Block.placeless

namespace Alike

theorem symm (h : Alike n node node') : Alike n node' node where
  fits := h.fits.symm
  blocks type found pos pos' := (h.blocks type found pos' pos).symm

theorem trans (h : Alike n node node') (h' : Alike n node' node'') : Alike n node node'' where
  fits := h.fits.trans h'.fits
  blocks type found pos pos' :=
    (h.blocks type found pos pos').trans (h'.blocks type found pos' pos')

theorem of_unplaced (h : node.unplaced = node'.unplaced) : Alike n node node' where
  fits := by rw [← fits_unplaced, h, fits_unplaced]
  blocks type found pos pos' := by rw [← blocks_unplaced, h, blocks_unplaced]

/-- Values that are made of the same objects. -/
theorem of_objects (hshape : node.IsObjects ↔ node'.IsObjects)
    (hobjects : node.objects = node'.objects) : Alike n node node' where
  fits := by
    cases n with
    | zero => rw [fits_zero_iff, fits_zero_iff, hshape]
    | succ n =>
      rw [fits_succ_iff_objectMembers, fits_succ_iff_objectMembers, hshape, objectMembers, hobjects,
        objectMembers]
  blocks type found pos pos' := by
    cases n with
    | zero => simp [JsonNode.blocks, hobjects, Block.placeless, Function.comp_def]
    | succ n => rw [blocks_succ, blocks_succ, objectMembers, hobjects, objectMembers]

/-- Values whose members correspond, while labels are to come. -/
theorem of_objectMembers (hshape : node.IsObjects ↔ node'.IsObjects)
    (hmembers : List.Forall₂ (fun p p' : JsonPair => p.key = p'.key ∧ Alike n p.value p'.value)
      node.objectMembers node'.objectMembers) : Alike (n + 1) node node' where
  -- Comments are told by their keys, which both members have.
  fits := by
    rw [fits_succ_iff_objectMembers, fits_succ_iff_objectMembers, hshape]
    refine and_congr_right fun _ => ?_
    simp only [List.mem_filter, and_imp]
    generalize node.objectMembers = members, node'.objectMembers = members' at hmembers
    induction hmembers with
    | nil => simp
    | cons hp _ ih =>
      rw [List.forall_mem_cons, List.forall_mem_cons, ih, hp.2.fits, JsonPair.isComment,
        JsonPair.isComment, hp.1]
  blocks type found pos pos' := by
    rw [blocks_succ, blocks_succ]
    generalize node.objectMembers = members, node'.objectMembers = members' at hmembers
    induction hmembers with
    | nil => rfl
    | @cons p p' _ _ hp _ ih =>
      have hcomment : p.isComment = p'.isComment := by
        rw [JsonPair.isComment, hp.1, JsonPair.isComment]
      rw [List.filter_cons, List.filter_cons, hcomment]
      split
      · simp only [List.flatMap_cons, List.map_append, ih]
        rw [hp.1, hp.2.blocks]
      · exact ih

end Alike

/-! ## Respelling -/

/-- The values differ in places and in how blocks are spelled, when a number of labels is to come:
an object may stand alone in an array, and while labels are to come the pairs of an object may be
split among several objects. -/
inductive Respelled : Nat → JsonNode → JsonNode → Prop
  | moved {n : Nat} {node node' : JsonNode} (h : node.unplaced = node'.unplaced) :
    Respelled n node node'
  | wrapped {n : Nat} {o a pairs} : Respelled n (.object o pairs) (.array a [.object o pairs])
  | split {n : Nat} {o a} {pieces : List (Origin × List JsonPair)} :
    Respelled (n + 1) (.object o (pieces.flatMap Prod.snd))
      (.array a (pieces.map fun piece => .object piece.1 piece.2))
  /-- The value of a member of an object is respelled. -/
  | member {n : Nat} {o o' before p p' after} (hkey : p.key = p'.key)
      (hvalue : Respelled n p.value p'.value) :
    Respelled (n + 1) (.object o (before ++ p :: after)) (.object o' (before ++ p' :: after))
  /-- The value of a member of an object in an array is respelled. -/
  | item {n : Nat} {a a' items o o' before p p' after items'} (hkey : p.key = p'.key)
      (hvalue : Respelled n p.value p'.value) :
    Respelled (n + 1) (.array a (items ++ .object o (before ++ p :: after) :: items'))
      (.array a' (items ++ .object o' (before ++ p' :: after) :: items'))
  | symm {n : Nat} {node node' : JsonNode} (h : Respelled n node node') : Respelled n node' node
  | trans {n : Nat} {node node' node'' : JsonNode} (h : Respelled n node node')
      (h' : Respelled n node' node'') : Respelled n node node''

theorem objectMembers_array_split (a : Origin) (pieces : List (Origin × List JsonPair)) :
    (JsonNode.array a (pieces.map fun piece => .object piece.1 piece.2)).objectMembers =
      pieces.flatMap Prod.snd := by
  simp [objectMembers, objects, List.filterMap_map]

theorem objectMembers_array_append (a o : Origin) (pairs : List JsonPair)
    (items items' : List JsonNode) :
    (JsonNode.array a (items ++ .object o pairs :: items')).objectMembers =
      (JsonNode.array default items).objectMembers ++ pairs ++
        (JsonNode.array default items').objectMembers := by
  simp [objectMembers, objects]

theorem isObjects_array_append (a o : Origin) (pairs : List JsonPair)
    (items items' : List JsonNode) :
    (JsonNode.array a (items ++ .object o pairs :: items')).IsObjects ↔
      (JsonNode.array default items).IsObjects ∧ (JsonNode.array default items').IsObjects := by
  simp only [IsObjects, List.forall_mem_append, List.forall_mem_cons]
  simp

theorem forall₂_alike_refl (pairs : List JsonPair) :
    List.Forall₂ (fun p p' : JsonPair => p.key = p'.key ∧ Alike n p.value p'.value) pairs pairs :=
  List.forall₂_same.2 fun _ _ => ⟨rfl, .of_unplaced rfl⟩

/-- A member in the place of another one with a value like it. -/
theorem forall₂_replace {p p' : JsonPair} (before after : List JsonPair) (hkey : p.key = p'.key)
    (h : Alike n p.value p'.value) :
    List.Forall₂ (fun p p' : JsonPair => p.key = p'.key ∧ Alike n p.value p'.value)
      (before ++ p :: after) (before ++ p' :: after) :=
  List.rel_append (forall₂_alike_refl before) (.cons ⟨hkey, h⟩ (forall₂_alike_refl after))

/-- Values that are spelled differently have the same blocks. -/
theorem Respelled.alike (h : Respelled n node node') : Alike n node node' := by
  induction h with
  | moved h => exact .of_unplaced h
  | wrapped => exact .of_objects (by simp [IsObjects]) rfl
  | split =>
    -- The object and the array have the same members, but not the same objects.
    refine .of_objectMembers (iff_of_true .intro (List.forall_mem_map.2 fun _ _ => ⟨_, _, rfl⟩)) ?_
    rw [objectMembers_array_split]
    simpa only [objectMembers, objects, List.flatMap_singleton] using forall₂_alike_refl _
  | member hkey _ ih =>
    refine .of_objectMembers (by simp [IsObjects]) ?_
    simpa [objectMembers, objects] using forall₂_replace _ _ hkey ih
  | item hkey _ ih =>
    refine .of_objectMembers (by rw [isObjects_array_append, isObjects_array_append]) ?_
    rw [objectMembers_array_append, objectMembers_array_append]
    simpa using forall₂_replace (_ ++ _) (_ ++ _) hkey ih
  | symm _ ih => exact ih.symm
  | trans _ _ ih ih' => exact ih.trans ih'

end JsonNode

theorem AgreeUpTo.map {f : ε → δ} {x x' : Except ε α} (h : AgreeUpTo f x x') (g : α → β) :
    AgreeUpTo f (x.map g) (x'.map g) := by
  rcases h.cases with ⟨a, rfl, rfl⟩ | ⟨e, e', rfl, rfl, he⟩
  · exact .refl
  · exact .error he

/-- Computations that can have one result only, and have it together, agree. -/
theorem AgreeUpTo.of_result {x x' : Except ε α} {a : α} (hx : Ensures (· = a) x)
    (hx' : Ensures (· = a) x') (hiff : (∃ b, x = .ok b) ↔ ∃ b, x' = .ok b) :
    AgreeUpTo (fun _ => ()) x x' := by
  cases x with
  | ok b =>
    obtain ⟨b', rfl⟩ := hiff.1 ⟨b, rfl⟩
    rw [hx b rfl, hx' b' rfl]
    exact .refl
  | error e =>
    cases x' with
    | ok b' =>
      obtain ⟨b, hb⟩ := hiff.2 ⟨b', rfl⟩
      cases hb
    | error e' => exact .error rfl

namespace Body

variable {type : String} {labels : List String} {pairs pairs' : List JsonPair} {o o' : Origin}

/-! ## Bodies -/

/-- The members have the same keys, and their values are spelled differently when the given number
of labels is to come. -/
def Respelled (n : Nat) (pairs pairs' : List JsonPair) : Prop :=
  List.Forall₂ (fun p p' : JsonPair => p.key = p'.key ∧ p.value.Respelled n p'.value) pairs pairs'

theorem Respelled.filter_holdsBlocks {n : Nat} (h : Respelled n pairs pairs') :
    List.Forall₂ (fun p p' : JsonPair => p.value.Alike n p'.value)
      (pairs.filter (holdsBlocks type)) (pairs'.filter (holdsBlocks type)) := by
  induction h with
  | nil => exact .nil
  | @cons p p' _ _ hp _ ih =>
    have hholds : holdsBlocks type p = holdsBlocks type p' := by
      rw [holdsBlocks, JsonPair.isComment, hp.1, holdsBlocks, JsonPair.isComment]
    rw [List.filter_cons, List.filter_cons, hholds]
    split
    · exact .cons hp.2.alike ih
    · exact ih

/-- Bodies that are spelled differently have the same blocks of a type, places apart. -/
theorem Respelled.agree_blocksIn (h : Respelled labels.length pairs pairs') :
    AgreeUpTo (fun _ => ()) ((blocksIn type labels pairs).map (List.map Block.placeless))
      ((blocksIn type labels pairs').map (List.map Block.placeless)) := by
  -- Only the members that blocks of the type are looked for in matter.
  have hkept : List.Forall₂ (fun p p' : JsonPair => p.value.Alike labels.length p'.value)
      (pairs.filter (holdsBlocks type)) (pairs'.filter (holdsBlocks type)) := h.filter_holdsBlocks
  have hfits : (∀ p ∈ pairs.filter (holdsBlocks type), p.value.Fits labels.length) ↔
      ∀ p ∈ pairs'.filter (holdsBlocks type), p.value.Fits labels.length := by
    generalize pairs.filter (holdsBlocks type) = kept, pairs'.filter (holdsBlocks type) = kept'
      at hkept
    induction hkept with
    | nil => simp
    | cons hp _ ih => rw [List.forall_mem_cons, List.forall_mem_cons, ih, hp.fits]
  have hblocks : (((pairs.filter (holdsBlocks type)).flatMap fun p : JsonPair =>
        p.value.blocks type labels.length [] p.pos).map Block.placeless) =
      ((pairs'.filter (holdsBlocks type)).flatMap fun p : JsonPair =>
        p.value.blocks type labels.length [] p.pos).map Block.placeless := by
    generalize pairs.filter (holdsBlocks type) = kept, pairs'.filter (holdsBlocks type) = kept'
      at hkept
    induction hkept with
    | nil => rfl
    | @cons p p' _ _ hp _ ih =>
      rw [List.flatMap_cons, List.map_append, ih, hp.blocks type [] p.pos p'.pos,
        List.flatMap_cons, List.map_append]
  refine .of_result (ensures_blocksIn.map fun bs hbs => congrArg _ hbs)
    (ensures_blocksIn.map fun bs hbs => ?_) ?_
  · rw [hbs, hblocks]
  · rw [exists_map_iff, exists_map_iff, exists_blocksIn_iff, exists_blocksIn_iff, hfits]

/-- The way leads from the body, through a member with the name of the type that is no comment and
then through as many further keys as there are labels, to the body of the block. -/
def LeadsToBlock (type : String) (labels : Nat) (pairs : List JsonPair) (way : List Nat)
    (b : Block) : Prop :=
  ∃ i p way', pairs[i]? = some p ∧ p.isComment = false ∧ p.key = type ∧ way = i :: way' ∧
    p.value.LeadsToBlock type labels [] p.pos way' b

/-- The blocks that are found are what the ways through the body lead to. -/
theorem ensures_listedBy_blocksIn :
    Ensures (ListedBy (LeadsToBlock type labels.length pairs)) (blocksIn type labels pairs) := by
  refine ensures_blocksIn.mono ?_
  rintro _ rfl
  refine (ListedBy.flatMap_filter fun p _ _ =>
    JsonNode.listedBy_blocks labels.length [] p.pos p.value).congr fun way b => ?_
  simp only [LeadsToBlock, holdsBlocks, Bool.and_eq_true, Bool.not_eq_true', beq_iff_eq, and_assoc]

/-- They are refused exactly if a value on the way is not made of objects. -/
theorem exists_error_blocksIn_iff :
    (∃ e, blocksIn type labels pairs = .error e) ↔
      ∃ p ∈ pairs, p.isComment = false ∧ p.key = type ∧
        ∃ v, p.value.Meets labels.length v ∧ ¬ v.IsObjects := by
  have herror : (∃ e, blocksIn type labels pairs = .error e) ↔
      ¬ ∃ bs, blocksIn type labels pairs = .ok bs := by
    cases blocksIn type labels pairs <;> simp
  rw [herror, exists_blocksIn_iff]
  simp only [JsonNode.Fits, List.mem_filter, holdsBlocks, Bool.and_eq_true, Bool.not_eq_true',
    beq_iff_eq, not_forall, exists_prop, and_assoc]

/-- What a JSON body gives for one block type. The blocks are, in source order, one for each way
through a member with the name of the type down one further key for each label to an object, with
these keys as labels and the object as body. The body is refused, and then as not fitting the
schema, exactly if a value that is met on the way is neither an object nor an array of objects.
Comments are no members in this, so there are no blocks of a type with their name, and nothing to
refuse. How the blocks are spelled changes nothing but places. -/
theorem partialContent_ways (type : String) (labels : List String) (o : Origin)
    (pairs : List JsonPair) :
    ((∃ e, (Body.json o pairs).partialContent (single type labels) = .error e) ↔
        ∃ p ∈ pairs, p.isComment = false ∧ p.key = type ∧
          ∃ v, p.value.Meets labels.length v ∧ ¬ v.IsObjects) ∧
      (∀ e, (Body.json o pairs).partialContent (single type labels) = .error e →
        ∃ fault, e = .decode fault) ∧
      (∀ content, (Body.json o pairs).partialContent (single type labels) = .ok content →
        content.attributes = [] ∧
          ListedBy (LeadsToBlock type labels.length pairs) content.blocks) ∧
      ∀ o' pairs', Respelled labels.length pairs pairs' →
        AgreeUpTo (fun _ => ())
          (((Body.json o pairs).partialContent (single type labels)).map Content.placeless)
          (((Body.json o' pairs').partialContent (single type labels)).map Content.placeless) := by
  simp only [partialContent_single]
  -- Blocks are all that the schema asks for, so nothing else is refused.
  have hrefused : ∀ e, (blocksIn type labels pairs).map (fun bs => (⟨[], bs⟩ : Content)) =
      .error e ↔ blocksIn type labels pairs = .error e := by
    intro e
    cases blocksIn type labels pairs <;> simp [Except.map]
  simp only [hrefused]
  refine ⟨exists_error_blocksIn_iff, failsWith_blocksIn, ?_, fun _ pairs' h => ?_⟩
  · rintro content hcontent
    obtain ⟨bs, hbs, rfl⟩ := map_eq_ok_iff.1 hcontent
    exact ⟨rfl, ensures_listedBy_blocksIn bs hbs⟩
  · -- The places are in the blocks only.
    have hplaceless : ∀ pairs, ((blocksIn type labels pairs).map fun bs => (⟨[], bs⟩ : Content)).map
          Content.placeless =
        ((blocksIn type labels pairs).map (List.map Block.placeless)).map fun bs => ⟨[], bs⟩ := by
      intro pairs
      cases blocksIn type labels pairs <;> rfl
    rw [hplaceless, hplaceless]
    exact h.agree_blocksIn.map _

/-- A body with two blocks under one label, whose value is an array, and a comment next to them that
would be no block. -/
def arrayBody : List JsonPair :=
  [.mk "a" default (.object default
    [.mk "//" default (.scalar default .null),
      .mk "x" default (.array default [.object default [], .object default []])])]

/-- Both blocks are found, each by its way. -/
theorem partialContent_ways_array :
    ∃ content, (Body.json default arrayBody).partialContent (single "a" ["name"]) = .ok content ∧
      content.attributes = [] ∧ ListedBy (LeadsToBlock "a" 1 arrayBody) content.blocks ∧
      content.blocks.map Block.labels = [["x"], ["x"]] := by
  obtain ⟨-, -, hfound, -⟩ := partialContent_ways "a" ["name"] default arrayBody
  obtain ⟨hattributes, hlisted⟩ := hfound _ rfl
  exact ⟨_, rfl, hattributes, hlisted, rfl⟩

/-- Ways through a comment are not taken: for its name the object behind it is no block. -/
theorem not_forall_leadsTo_mem_blocks :
    ¬ ∀ (type : String) (labels : List String) (o : Origin) (pairs : List JsonPair)
      (content : Content),
      (Body.json o pairs).partialContent (single type labels) = .ok content →
        ∀ p ∈ pairs, p.key = type → ∀ way found pos o' inner, found.length = labels.length →
          p.value.LeadsTo p.pos way found pos o' inner →
            (⟨type, found, .json o' inner, pos⟩ : Block) ∈ content.blocks := by
  intro h
  have hmem := h "//" [] default [.mk "//" default (.object default [])] {} rfl _
    List.mem_cons_self rfl [0] [] default default [] rfl (.here rfl)
  exact absurd hmem (by simp)

end Body

end ResourceTables
