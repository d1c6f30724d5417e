import Mathlib.Data.List.Nodup
import ResourceTables.Proofs.Inventory.Blocks

/-!
# Decoding less

A body is decoded with different schemas for different purposes. A schema that names less finds
less, but nothing else: what it finds is a part of what the larger schema finds, and where the
larger one succeeds it succeeds too.

* `BodySchema.Within`, `BodySchema.Clear`: a schema names no more than another; a schema gives each
  name one meaning;
* `Content.restrict schema c`: what the schema names of a content;
* `Body.ensures_addItem_restrict`, `Body.ensures_addPair_restrict`: taking in one more item keeps
  the smaller content a part of the larger one;
* `Body.partialContent_restrict`: decoding with the smaller schema gives the part of the content
  that it names, and all blocks have the labels that their headers name.
-/

namespace ResourceTables

namespace BodySchema

/-- The schema names only arguments and block headers that the larger one names. -/
structure Within (schema larger : BodySchema) : Prop where
  /-- The arguments are among those of the larger schema. -/
  attributes : schema.attributes ⊆ larger.attributes
  /-- The block headers are among those of the larger schema. -/
  blocks : schema.blocks ⊆ larger.blocks

/-- Each name has one meaning: no block type is named twice, and none is an argument too. -/
structure Clear (schema : BodySchema) : Prop where
  /-- No block type is named twice. -/
  types : (schema.blocks.map BlockHeader.type).Nodup
  /-- No block type is the name of an argument. -/
  apart : ∀ header ∈ schema.blocks, header.type ∉ schema.attributes

variable {schema larger : BodySchema} {type : String} {header : BlockHeader}

theorem mem_of_block? (h : schema.block? type = some header) :
    header ∈ schema.blocks ∧ header.type = type :=
  ⟨List.mem_of_find?_eq_some h, by simpa using List.find?_some h⟩

/-- In a clear schema a header is found under its type. -/
theorem Clear.block?_of_mem (h : schema.Clear) (hmem : header ∈ schema.blocks) :
    schema.block? header.type = some header := by
  have hfound : (schema.block? header.type).isSome := by
    rw [block?, List.find?_isSome]
    exact ⟨header, hmem, by simp⟩
  obtain ⟨other, hother⟩ := Option.isSome_iff_exists.1 hfound
  obtain ⟨hmem', htype⟩ := mem_of_block? hother
  rw [hother, List.inj_on_of_nodup_map h.types hmem' hmem htype]

/-- In a clear schema a block type is not the name of an argument. -/
theorem Clear.contains_of_block? (h : schema.Clear) (hheader : schema.block? type = some header) :
    schema.attributes.contains type = false := by
  obtain ⟨hmem, rfl⟩ := mem_of_block? hheader
  exact Bool.eq_false_iff.2 fun hcontains => h.apart header hmem (List.contains_iff_mem.1 hcontains)

namespace Within

/-- An argument that the schema names, the larger one names. -/
theorem contains (h : schema.Within larger) {name : String}
    (hname : schema.attributes.contains name = true) : larger.attributes.contains name = true :=
  List.contains_iff_mem.2 (h.attributes (List.contains_iff_mem.1 hname))

/-- A name that is no argument of a larger schema is none of the schema. -/
theorem not_contains (h : schema.Within larger) {name : String}
    (hname : larger.attributes.contains name = false) :
    schema.attributes.contains name = false :=
  Bool.eq_false_iff.2 fun hcontains => Bool.eq_false_iff.1 hname (h.contains hcontains)

/-- A block type has the same header in a larger schema that is clear. -/
theorem block? (h : schema.Within larger) (hclear : larger.Clear)
    (hheader : schema.block? type = some header) : larger.block? type = some header := by
  obtain ⟨hmem, rfl⟩ := mem_of_block? hheader
  exact hclear.block?_of_mem (h.blocks hmem)

/-- A schema within a clear one is clear about each of its block types. -/
theorem contains_of_block? (h : schema.Within larger) (hclear : larger.Clear)
    (hheader : larger.block? type = some header) : schema.attributes.contains type = false :=
  h.not_contains (hclear.contains_of_block? hheader)

/-- What is no block type of a larger schema is none of the schema. -/
theorem block?_eq_none (h : schema.Within larger) (hclear : larger.Clear)
    (hnone : larger.block? type = none) : schema.block? type = none := by
  cases hheader : schema.block? type with
  | none => rfl
  | some header =>
    rw [h.block? hclear hheader] at hnone
    cases hnone

/-- What is an argument of a larger schema is no block type of the schema. -/
theorem block?_eq_none_of_contains (h : schema.Within larger) (hclear : larger.Clear)
    (hname : larger.attributes.contains type = true) : schema.block? type = none := by
  refine Option.eq_none_iff_forall_ne_some.2 fun header hheader => ?_
  have hapart := hclear.contains_of_block? (h.block? hclear hheader)
  rw [hname] at hapart
  cases hapart

end Within

end BodySchema

namespace Content

variable {schema : BodySchema}

/-- What the schema names of a content, in the same order. -/
def restrict (schema : BodySchema) (c : Content) : Content where
  attributes := c.attributes.filter fun a => schema.attributes.contains a.name
  blocks := c.blocks.filter fun b => (schema.block? b.type).isSome

/-- An argument that the schema does not name is left out. -/
theorem restrict_addAttribute_of_not {a : Attribute} (c : Content)
    (h : schema.attributes.contains a.name = false) :
    (c.addAttribute a).restrict schema = c.restrict schema := by
  simp only [restrict, addAttribute, List.filter_append, List.filter_cons, h, List.filter_nil,
    Bool.false_eq_true, if_false, List.append_nil]

theorem restrict_addAttribute {a : Attribute} (c : Content)
    (h : schema.attributes.contains a.name = true) :
    (c.addAttribute a).restrict schema = (c.restrict schema).addAttribute a := by
  simp only [restrict, addAttribute, List.filter_append, List.filter_cons, h, List.filter_nil,
    if_true]

/-- Blocks of a type that the schema does not name are left out. -/
theorem restrict_addBlocks_of_none {type : String} {bs : List Block} (c : Content)
    (htype : ∀ b ∈ bs, b.type = type) (h : schema.block? type = none) :
    (c.addBlocks bs).restrict schema = c.restrict schema := by
  have hnone : bs.filter (fun b => (schema.block? b.type).isSome) = [] := by
    refine List.filter_eq_nil_iff.2 fun b hb => ?_
    rw [htype b hb, h]
    exact Bool.false_ne_true
  simp only [restrict, addBlocks, List.filter_append, hnone, List.append_nil]

theorem restrict_addBlocks {type : String} {header : BlockHeader} {bs : List Block} (c : Content)
    (htype : ∀ b ∈ bs, b.type = type) (h : schema.block? type = some header) :
    (c.addBlocks bs).restrict schema = (c.restrict schema).addBlocks bs := by
  have hall : bs.filter (fun b => (schema.block? b.type).isSome) = bs := by
    refine List.filter_eq_self.2 fun b hb => ?_
    rw [htype b hb, h]
    rfl
  simp only [restrict, addBlocks, List.filter_append, hall]

/-- An argument that is not in the content is not in a part of it. -/
theorem attribute?_restrict_of_none {c : Content} {name : String} (h : c.attribute? name = none) :
    (c.restrict schema).attribute? name = none := by
  rw [attribute?, List.find?_eq_none] at h ⊢
  exact fun a ha => h a (List.mem_filter.1 ha).1

end Content

namespace Body

variable {schema larger : BodySchema}

/-- Where an item of a native body is taken in, it is taken in or passed over by the smaller schema,
which leads to a part of the same content. -/
theorem ensures_addItem_restrict (hwithin : schema.Within larger) (hclear : larger.Clear)
    (c : Content) (item : Item) :
    Ensures (fun c' => addItem schema (c.restrict schema) item = .ok (c'.restrict schema))
      (addItem larger c item) := by
  intro c' hadded
  rw [addItem_eq_ok_iff]
  cases addItem_eq_ok_iff.1 hadded with
  | @«attribute» a named new =>
    by_cases hwanted : schema.attributes.contains a.name = true
    · rw [c.restrict_addAttribute hwanted]
      exact .attribute hwanted (Content.attribute?_restrict_of_none new)
    -- The smaller schema cannot take the argument for a block: for the larger one it is none.
    · have hunwanted := Bool.eq_false_iff.2 hwanted
      rw [c.restrict_addAttribute_of_not hunwanted]
      exact .otherAttribute hunwanted (hwithin.block?_eq_none_of_contains hclear named)
  | otherAttribute unnamed noBlock =>
    exact .otherAttribute (hwithin.not_contains unnamed) (hwithin.block?_eq_none hclear noBlock)
  | @block type labels pos items header named checked =>
    have htype : ∀ b ∈ [(⟨type, labels, .native items, pos⟩ : Block)], b.type = type := by
      simp
    cases hsmaller : schema.block? type with
    | none =>
      rw [c.restrict_addBlocks_of_none htype hsmaller]
      exact .otherBlock hsmaller (hwithin.contains_of_block? hclear named)
    | some header' =>
      -- Both schemas name one header for the type, so the labels pass its check again.
      obtain rfl : header' = header :=
        Option.some.inj ((hwithin.block? hclear hsmaller).symm.trans named)
      rw [c.restrict_addBlocks htype hsmaller]
      exact .block hsmaller checked
  | otherBlock unnamed noArgument =>
    exact .otherBlock (hwithin.block?_eq_none hclear unnamed) (hwithin.not_contains noArgument)

/-- So it is for a member of a JSON body. -/
theorem ensures_addPair_restrict (hwithin : schema.Within larger) (hclear : larger.Clear)
    (c : Content) (p : JsonPair) :
    Ensures (fun c' => addPair schema (c.restrict schema) p = .ok (c'.restrict schema))
      (addPair larger c p) := by
  intro c' hadded
  rw [addPair_eq_ok_iff]
  cases addPair_eq_ok_iff.1 hadded with
  | comment comment => exact .comment comment
  | @«attribute» a noComment named new read =>
    have hname : a.name = p.key := by
      rw [memberAttribute] at read
      split at read
      · cases read
        rfl
      · cases read
    by_cases hwanted : schema.attributes.contains p.key = true
    · rw [c.restrict_addAttribute (hname ▸ hwanted)]
      exact .attribute noComment hwanted (Content.attribute?_restrict_of_none new) read
    · have hunwanted := Bool.eq_false_iff.2 hwanted
      rw [c.restrict_addAttribute_of_not (hname ▸ hunwanted)]
      exact .other noComment hunwanted (hwithin.block?_eq_none_of_contains hclear named)
  | @blocks header bs noComment noArgument named read =>
    -- All blocks of a member have its name as their type, so they stay or go together.
    have htype : ∀ b ∈ bs, b.type = p.key := fun b hb =>
      (ensures_jsonBlocks_labels p.key header.labels [] p.pos p.value bs read b hb).1
    cases hsmaller : schema.block? p.key with
    | none =>
      rw [c.restrict_addBlocks_of_none htype hsmaller]
      exact .other noComment (hwithin.not_contains noArgument) hsmaller
    | some header' =>
      obtain rfl : header' = header :=
        Option.some.inj ((hwithin.block? hclear hsmaller).symm.trans named)
      rw [c.restrict_addBlocks htype hsmaller]
      exact .blocks noComment (hwithin.not_contains noArgument) hsmaller read
  | other noComment noArgument noBlock =>
    exact .other noComment (hwithin.not_contains noArgument) (hwithin.block?_eq_none hclear noBlock)

/-- What holds of one item or member holds of all that are taken in one after the other. -/
theorem ensures_foldlM_restrict {α : Type}
    {add : BodySchema → Content → α → Except ContentError Content}
    (h : ∀ c a, Ensures (fun c' => add schema (c.restrict schema) a = .ok (c'.restrict schema))
      (add larger c a)) (as : List α) :
    Ensures (fun c => as.foldlM (add schema) {} = .ok (c.restrict schema))
      (as.foldlM (add larger) {}) := by
  refine .foldlM_taken
    (I := fun taken (c : Content) => taken.foldlM (add schema) {} = .ok (c.restrict schema))
    (fun taken c a _ htaken => ?_) rfl
  rw [List.foldlM_append, htaken]
  refine (h c a).mono fun c' hc' => ?_
  show ([a].foldlM (add schema) (c.restrict schema)) = _
  rw [List.foldlM_cons, hc']
  rfl

/-- Where the larger schema finds a content, the smaller one finds the part of it that it names. -/
theorem ensures_partialContent_restrict (hwithin : schema.Within larger) (hclear : larger.Clear)
    (body : Body) :
    Ensures (fun c => body.partialContent schema = .ok (c.restrict schema))
      (body.partialContent larger) := by
  cases body with
  | native items => exact ensures_foldlM_restrict (ensures_addItem_restrict hwithin hclear) items
  | json o pairs => exact ensures_foldlM_restrict (ensures_addPair_restrict hwithin hclear) pairs

/-- Decoding with a schema that names less succeeds where the larger schema does, and gives of its
content what it names, in the same order and unchanged. The blocks that either finds have as many
labels as their headers name, so a `resource` block of a file has a type and a name. -/
theorem partialContent_restrict {body : Body} {content : Content} (hwithin : schema.Within larger)
    (hclear : larger.Clear) (h : body.partialContent larger = .ok content) :
    body.partialContent schema = .ok (content.restrict schema) ∧
      (∀ b ∈ content.blocks, b.Labelled larger) ∧
      (∀ b ∈ (content.restrict schema).blocks, b.Labelled schema) ∧
      (larger = Module.schema → ∀ b ∈ content.blocksOfType "resource",
        ∃ type name, b.labels = [type, name]) := by
  have hpart := ensures_partialContent_restrict hwithin hclear body content h
  have hlabelled := body.ensures_partialContent_labelled content h
  refine ⟨hpart, hlabelled, body.ensures_partialContent_labelled _ hpart, ?_⟩
  rintro rfl b hb
  obtain ⟨hmem, htype⟩ := List.mem_filter.1 hb
  exact List.length_eq_two.1 (Module.length_labels (hlabelled b hmem) (beq_iff_eq.1 htype))

/-- The smaller schema passes over the second argument and over the blocks of the other type, one
of which stands between those that it finds. -/
theorem partialContent_restrict_settings :
    let e : Expr := .literal default (.bool true)
    let block := fun (type name : String) (line : Nat) =>
      Item.block type ["t", name] ⟨"m.tf", line, 1⟩ []
    let body : Body := .native [.attribute ⟨"a", e, ⟨"m.tf", 1, 1⟩⟩, block "resource" "x" 2,
      .attribute ⟨"b", e, ⟨"m.tf", 3, 1⟩⟩, block "data" "y" 4, block "resource" "z" 5]
    let header : BlockHeader := ⟨"resource", ["type", "name"]⟩
    body.partialContent ⟨["a"], [header]⟩ = .ok ⟨[⟨"a", e, ⟨"m.tf", 1, 1⟩⟩],
      [⟨"resource", ["t", "x"], .native [], ⟨"m.tf", 2, 1⟩⟩,
        ⟨"resource", ["t", "z"], .native [], ⟨"m.tf", 5, 1⟩⟩]⟩ := by
  intro e block body header
  have hwithin : BodySchema.Within ⟨["a"], [header]⟩
      ⟨["b", "a"], [⟨"data", ["type", "name"]⟩, header]⟩ :=
    ⟨by decide, by decide⟩
  have hlarger : body.partialContent ⟨["b", "a"], [⟨"data", ["type", "name"]⟩, header]⟩ =
      .ok ⟨[⟨"a", e, ⟨"m.tf", 1, 1⟩⟩, ⟨"b", e, ⟨"m.tf", 3, 1⟩⟩],
        [⟨"resource", ["t", "x"], .native [], ⟨"m.tf", 2, 1⟩⟩,
          ⟨"data", ["t", "y"], .native [], ⟨"m.tf", 4, 1⟩⟩,
          ⟨"resource", ["t", "z"], .native [], ⟨"m.tf", 5, 1⟩⟩]⟩ := rfl
  exact (partialContent_restrict hwithin ⟨by decide, by decide⟩ hlarger).1

end Body

end ResourceTables
