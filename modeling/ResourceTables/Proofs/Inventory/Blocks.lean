import ResourceTables.Inventory.Load
import ResourceTables.Proofs.Inventory.Additions
import ResourceTables.Proofs.Positions.Json

/-!
# The blocks of a file

What a schema finds in the body of a file fits the schema and has its place in that file, in both
notations.

* `Body.In file body`: everything in the body has its place in the file;
* `Block.Labelled schema b`: the block has as many labels as the schema asks for;
* `Block.Fits schema file b`: it has, and its place is in the file;
* `Body.ensures_partialContent_labelled`: whatever the body is, all blocks of the content have their
  labels;
* `Body.ensures_partialContent`: in the body of a file, all blocks of the content fit.
-/

namespace ResourceTables

/-- Everything in the body has its place in the file. -/
def Body.In (file : String) : Body → Prop
  | .native items => ∀ item ∈ items, item.In file
  | .json _ pairs => ∀ p ∈ pairs, p.In file

/-- Everything that is read from a file has its place in it. -/
theorem ensures_parseConfig (path text : String) :
    Ensures (Body.In path) (parseConfig path text) := by
  unfold parseConfig
  split
  · refine .bind (Json.ensures_parseNode path text) fun node hnode => ?_
    cases hnode with
    | object _ hpairs => exact .ok hpairs
    | scalar | array => exact .error
  · exact .map (Native.ensures_parseItems path text) fun _ hitems => hitems

/-- What holds of all that is read from a text holds of what is read from a file. -/
theorem Disk.ensures_readConfig_of {P : Body → Prop} {path : String}
    (h : ∀ text, Ensures P (parseConfig path text)) (d : Disk) :
    Ensures P (d.readConfig path) := by
  unfold Disk.readConfig
  split
  · exact .error
  · exact h _
  · exact .error

theorem Disk.ensures_readConfig (d : Disk) (path : String) :
    Ensures (Body.In path) (d.readConfig path) :=
  d.ensures_readConfig_of (ensures_parseConfig path)

/-- The block has as many labels as the header of its type names. -/
def Block.Labelled (schema : BodySchema) (b : Block) : Prop :=
  ∃ header, schema.block? b.type = some header ∧ b.labels.length = header.labels.length

/-- The block has the labels that the schema names, and its place in the file. -/
structure Block.Fits (schema : BodySchema) (file : String) (b : Block) : Prop where
  /-- The schema names the block's type, with as many labels as the block has. -/
  labels : ∃ header, schema.block? b.type = some header ∧ b.labels.length = header.labels.length
  /-- The block stands in the file. -/
  pos : b.pos.file = file

namespace Body

variable {schema : BodySchema} {file : String}

/-! ## Labels -/

/-- A header's check lets a block pass only if their labels are equally many. -/
theorem length_of_checkLabels {b : Block} {header : BlockHeader}
    (h : b.checkLabels header = .ok ()) : b.labels.length = header.labels.length := by
  simp only [Block.checkLabels] at h
  split at h
  · cases h
  · cases h
  · next hmissing hextra =>
    rw [List.drop_eq_nil_iff] at hmissing hextra
    exact Nat.le_antisymm hextra hmissing

/-- Below a value each level of members gives one label. -/
theorem ensures_jsonBlocks_labels (type : String) (labels found : List String) (pos : Pos)
    (node : JsonNode) :
    Ensures (fun bs => ∀ b ∈ bs, b.type = type ∧ b.labels.length = found.length + labels.length)
      (jsonBlocks type labels found pos node) := by
  induction labels generalizing found pos node with
  | nil =>
    rw [jsonBlocks]
    exact .mapM fun _ _ => .bind .trivial fun _ _ => .ok ⟨rfl, rfl⟩
  | cons label labels ih =>
    rw [jsonBlocks]
    refine .flatten fun _ _ => .bind .trivial fun _ _ => .flatten fun p _ => ?_
    refine (ih (found ++ [p.key]) p.pos p.value).mono fun bs hbs b hb => ?_
    obtain ⟨htype, hlength⟩ := hbs b hb
    refine ⟨htype, ?_⟩
    simp only [List.length_append, List.length_cons, List.length_nil] at hlength ⊢
    omega

/-- All blocks of the content have the labels that the schema asks for. -/
def AllLabelled (schema : BodySchema) (content : Content) : Prop :=
  ∀ b ∈ content.blocks, b.Labelled schema

theorem allLabelled_addBlocks {content : Content} {bs : List Block}
    (h : AllLabelled schema content) (hbs : ∀ b ∈ bs, b.Labelled schema) :
    AllLabelled schema (content.addBlocks bs) := by
  intro b hb
  rcases List.mem_append.1 hb with hb | hb
  · exact h b hb
  · exact hbs b hb

theorem ensures_addItem_labelled {content : Content} (h : AllLabelled schema content)
    (item : Item) : Ensures (AllLabelled schema) (addItem schema content item) := by
  intro content' hadded
  cases addItem_eq_ok_iff.1 hadded with
  | «attribute» | otherAttribute | otherBlock => exact h
  | block named checked =>
    refine allLabelled_addBlocks h fun b hb => ?_
    obtain rfl := List.mem_singleton.1 hb
    exact ⟨_, named, length_of_checkLabels checked⟩

theorem ensures_addPair_labelled {content : Content} (h : AllLabelled schema content)
    (p : JsonPair) : Ensures (AllLabelled schema) (addPair schema content p) := by
  intro content' hadded
  cases addPair_eq_ok_iff.1 hadded with
  | comment | «attribute» | other => exact h
  | @blocks header bs _ _ named read =>
    refine allLabelled_addBlocks h fun b hb => ?_
    obtain ⟨htype, hlength⟩ :=
      ensures_jsonBlocks_labels p.key header.labels [] p.pos p.value bs read b hb
    refine ⟨header, ?_, ?_⟩
    · rw [htype]
      exact named
    · simpa using hlength

/-- What a schema finds in any body has the labels that the schema asks for. -/
theorem ensures_partialContent_labelled (body : Body) :
    Ensures (AllLabelled schema) (body.partialContent schema) := by
  have hnone : AllLabelled schema {} := fun b hb => nomatch hb
  cases body with
  | native items => exact .foldlM (fun _ h item _ => ensures_addItem_labelled h item) hnone
  | json o pairs => exact .foldlM (fun _ h p _ => ensures_addPair_labelled h p) hnone

/-! ## Places -/

/-- The objects of a value of a file have their members in the file. -/
theorem in_of_mem_objectsOf {cause : DecodeCause} {node : JsonNode} (hnode : node.In file)
    {object : Except ContentError (Origin × List JsonPair)} (h : object ∈ objectsOf cause node) :
    Ensures (fun object => ∀ p ∈ object.2, JsonPair.In file p) object := by
  cases hnode with
  | scalar =>
    obtain rfl := List.mem_singleton.1 h
    exact .error
  | object _ hpairs =>
    obtain rfl := List.mem_singleton.1 h
    exact .ok hpairs
  | array _ hitems =>
    obtain ⟨item, hitem, rfl⟩ := List.mem_map.1 h
    cases hitems item hitem with
    | object _ hpairs => exact .ok hpairs
    | scalar | array => exact .error

/-- Below a value the blocks have the places of the last keys. -/
theorem ensures_jsonBlocks_in (type : String) (labels found : List String) {pos : Pos}
    {node : JsonNode} (hpos : pos.file = file) (hnode : node.In file) :
    Ensures (fun bs => ∀ b ∈ bs, b.pos.file = file) (jsonBlocks type labels found pos node) := by
  induction labels generalizing found pos node with
  | nil =>
    rw [jsonBlocks]
    refine .mapM fun object hobject => ?_
    exact .bind (in_of_mem_objectsOf hnode hobject) fun _ _ => .ok hpos
  | cons label labels ih =>
    rw [jsonBlocks]
    refine .flatten fun object hobject => ?_
    refine .bind (in_of_mem_objectsOf hnode hobject) fun object hpairs => ?_
    refine .flatten fun p hp => ?_
    cases hpairs p (List.mem_filter.1 hp).1 with
    | mk hpos hvalue => exact ih (found ++ [_]) hpos hvalue

/-- All blocks of the content stand in the file. -/
def AllIn (file : String) (content : Content) : Prop :=
  ∀ b ∈ content.blocks, b.pos.file = file

theorem allIn_addBlocks {content : Content} {bs : List Block} (h : AllIn file content)
    (hbs : ∀ b ∈ bs, b.pos.file = file) : AllIn file (content.addBlocks bs) := by
  intro b hb
  rcases List.mem_append.1 hb with hb | hb
  · exact h b hb
  · exact hbs b hb

theorem ensures_addItem_in {content : Content} {item : Item} (hitem : item.In file)
    (h : AllIn file content) : Ensures (AllIn file) (addItem schema content item) := by
  intro content' hadded
  cases addItem_eq_ok_iff.1 hadded with
  | «attribute» | otherAttribute | otherBlock => exact h
  | block =>
    cases hitem with
    | block hpos =>
      refine allIn_addBlocks h fun b hb => ?_
      obtain rfl := List.mem_singleton.1 hb
      exact hpos

theorem ensures_addPair_in {content : Content} {p : JsonPair} (hp : p.In file)
    (h : AllIn file content) : Ensures (AllIn file) (addPair schema content p) := by
  intro content' hadded
  cases addPair_eq_ok_iff.1 hadded with
  | comment | «attribute» | other => exact h
  | blocks _ _ _ read =>
    cases hp with
    | mk hpos hvalue =>
      exact allIn_addBlocks h (ensures_jsonBlocks_in _ _ [] hpos hvalue _ read)

/-- The content's blocks fit the schema. -/
def Fitting (schema : BodySchema) (file : String) (content : Content) : Prop :=
  ∀ b ∈ content.blocks, b.Fits schema file

/-- What a schema finds in the body of a file fits the schema and has its place in the file. -/
theorem ensures_partialContent {body : Body} (hbody : body.In file) :
    Ensures (Fitting schema file) (body.partialContent schema) := by
  have hnone : AllIn file {} := fun b hb => nomatch hb
  have hin : Ensures (AllIn file) (body.partialContent schema) := by
    cases body with
    | native items =>
      exact .foldlM (fun _ h item hitem => ensures_addItem_in (hbody item hitem) h) hnone
    | json o pairs => exact .foldlM (fun _ h p hp => ensures_addPair_in (hbody p hp) h) hnone
  exact Ensures.mono (.and body.ensures_partialContent_labelled hin)
    fun _ h b hb => ⟨h.1 b hb, h.2 b hb⟩

end Body

/-- The blocks that declare resources have two labels each. -/
theorem Module.length_labels {b : Block} (h : b.Labelled schema) (htype : b.type = "resource") :
    b.labels.length = 2 := by
  obtain ⟨header, hheader, hlength⟩ := h
  rw [htype] at hheader
  obtain rfl : header = ⟨"resource", ["type", "name"]⟩ := by
    simpa [BodySchema.block?, schema] using hheader.symm
  exact hlength

end ResourceTables
