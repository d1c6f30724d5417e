import ResourceTables.Proofs.Inventory.Blocks
import ResourceTables.Proofs.Inventory.Declarations

/-!
# What files contribute to a module

Which blocks of a type a body holds can be read off its tree, without a schema and without a chance
of failure: in a native body they are items, and in a JSON body they are the ways from a member with
the type's name down one member for each label to an object. Decoding finds exactly these.

Loading takes in one declaration after the other and compares each with those before it. Here the
declarations are read without comparing anything, so that what a file contributes does not depend on
any other file.

* `JsonNode.blocks`, `Body.blocks`: the blocks of a type in the tree, in source order;
* `Body.ensures_blocksOfType`: when a body is decoded, the content's blocks of a type that the
  schema asks for are those of the tree;
* `Contribution`, `Disk.contribution`: what the configuration files of a directory contribute;
* `collect`: what the elements of a list contribute, with the rules for what holds of all of it;
* `Disk.ensures_contribution`: the resources that a directory contributes are what the `resource`
  blocks of its files declare, as these are written.
-/

namespace ResourceTables

namespace JsonNode

/-- The objects that a value stands for: itself, or those among the items of an array. -/
def objects : JsonNode → List (Origin × List JsonPair)
  | .object o pairs => [(o, pairs)]
  | .array _ items => items.filterMap fun
    | .object o pairs => some (o, pairs)
    | _ => none
  | .scalar _ _ => []

/-- The blocks below a value, with `missing` labels still to come behind the labels `found`. Each
member of an object is one more label, comments apart. -/
def blocks (type : String) : Nat → List String → Pos → JsonNode → List Block
  | 0, found, pos, node => node.objects.map fun (o, pairs) => ⟨type, found, .json o pairs, pos⟩
  | missing + 1, found, _, node => node.objects.flatMap fun (_, pairs) =>
      (pairs.filter (!·.isComment)).flatMap fun p =>
        blocks type missing (found ++ [p.key]) p.pos p.value

end JsonNode

/-- The block that an item is, if it is one of the type. -/
def Item.block? (type : String) : Item → Option Block
  | .block other labels pos items =>
    if other = type then some ⟨type, labels, .native items, pos⟩ else none
  | .attribute _ => none

/-- The blocks of a type in a body. In JSON the number of their labels says where they begin. -/
def Body.blocks (type : String) (labels : Nat) : Body → List Block
  | .native items => items.filterMap (Item.block? type)
  | .json _ pairs => (pairs.filter (·.key == type)).flatMap fun p =>
      p.value.blocks type labels [] p.pos

namespace Body

variable {type : String} {schema : BodySchema} {header : BlockHeader}

/-! ## JSON values -/

/-- Where all objects of a value are accepted, they are the objects of the tree. -/
theorem ensures_mapM_objectsOf {cause : DecodeCause} {node : JsonNode}
    {f : Origin × List JsonPair → Except ContentError α} {g : Origin × List JsonPair → α}
    (h : ∀ object, Ensures (· = g object) (f object)) :
    Ensures (· = node.objects.map g) ((objectsOf cause node).mapM fun object => object >>= f) := by
  -- An object is accepted as such before it is looked at.
  have hone : ∀ object : Origin × List JsonPair,
      Ensures (· = g object) (Except.ok object >>= f) := h
  cases node with
  | scalar o value => exact .error
  | object o pairs =>
    rw [objectsOf, List.mapM_cons, List.mapM_nil]
    refine .bind (hone (o, pairs)) fun a ha => ?_
    exact .ok (by rw [ha]; rfl)
  | array o items =>
    rw [objectsOf, JsonNode.objects]
    induction items with
    | nil => exact .ok rfl
    | cons item items ih =>
      rw [List.map_cons, List.mapM_cons, List.filterMap_cons]
      cases item with
      | scalar | array => exact .error
      | object o pairs =>
        refine .bind (hone (o, pairs)) fun a ha => .bind ih fun as has => ?_
        exact .ok (by rw [ha, has]; rfl)

/-- Lists computed for each element are, put together, what each of them is. -/
theorem ensures_flatten_mapM {f : α → Except ContentError (List β)} {g : α → List β}
    (h : ∀ a, Ensures (· = g a) (f a)) (as : List α) :
    Ensures (· = as.flatMap g) (do return (← as.mapM f).flatten) := by
  have hgroups : Ensures (· = as.map g) (as.mapM f) := by
    induction as with
    | nil => exact .ok rfl
    | cons a as ih =>
      rw [List.mapM_cons]
      refine .bind (h a) fun b hb => .bind ih fun bs hbs => ?_
      exact .ok (by rw [hb, hbs]; rfl)
  exact .bind hgroups fun groups hgroups => .ok (by rw [hgroups]; rfl)

/-- Decoding the blocks below a value gives those of the tree. -/
theorem ensures_jsonBlocks_eq (labels found : List String) (pos : Pos) (node : JsonNode) :
    Ensures (· = node.blocks type labels.length found pos)
      (jsonBlocks type labels found pos node) := by
  -- One label after the other: each takes the members of the objects that the value stands for.
  induction labels generalizing found pos node with
  | nil =>
    rw [jsonBlocks]
    exact ensures_mapM_objectsOf fun object => .ok rfl
  | cons label labels ih =>
    rw [jsonBlocks]
    refine .bind (ensures_mapM_objectsOf fun object =>
      ensures_flatten_mapM (fun p => ih (found ++ [p.key]) p.pos p.value)
        (object.2.filter (!·.isComment))) fun groups hgroups => ?_
    exact .ok (by rw [hgroups]; rfl)

/-! ## Bodies -/

theorem blocksOfType_addBlocks (content : Content) (bs : List Block) :
    (content.addBlocks bs).blocksOfType type =
      content.blocksOfType type ++ bs.filter (·.type == type) :=
  List.filter_append ..

/-- An item of a native body adds the block that it is. -/
theorem ensures_addItem_blocks (hheader : schema.block? type = some header) (content : Content)
    (item : Item) :
    Ensures (fun content' : Content => content'.blocksOfType type =
      content.blocksOfType type ++ (item.block? type).toList) (addItem schema content item) := by
  intro content' hadded
  cases addItem_eq_ok_iff.1 hadded with
  | «attribute» | otherAttribute => exact (List.append_nil _).symm
  | @block other =>
    rw [blocksOfType_addBlocks, Item.block?]
    by_cases htype : other = type
    · rw [if_pos htype]
      simp [htype]
    -- A block of another type may be wanted too, but is no block of this one.
    · rw [if_neg htype]
      simp [htype]
  | @otherBlock other _ _ _ unnamed =>
    have htype : other ≠ type := by
      rintro rfl
      rw [hheader] at unnamed
      cases unnamed
    rw [Item.block?, if_neg htype]
    exact (List.append_nil _).symm

theorem type_of_mem_blocks {missing : Nat} {found : List String} {pos : Pos} {node : JsonNode}
    {b : Block} (hb : b ∈ node.blocks type missing found pos) : b.type = type := by
  induction missing generalizing found pos node with
  | zero =>
    rw [JsonNode.blocks] at hb
    obtain ⟨object, -, rfl⟩ := List.mem_map.1 hb
    rfl
  | succ missing ih =>
    rw [JsonNode.blocks] at hb
    obtain ⟨object, -, hb⟩ := List.mem_flatMap.1 hb
    obtain ⟨p, -, hb⟩ := List.mem_flatMap.1 hb
    exact ih hb

/-- A member of a JSON body adds the blocks below it, if it has the name of the type. -/
theorem ensures_addPair_blocks (hheader : schema.block? type = some header)
    (hattribute : schema.attributes.contains type = false) (htype : type ≠ JsonPair.commentKey)
    (content : Content) (p : JsonPair) :
    Ensures (fun content' : Content => content'.blocksOfType type = content.blocksOfType type ++
      ([p].filter (·.key == type)).flatMap fun p =>
        p.value.blocks type header.labels.length [] p.pos) (addPair schema content p) := by
  -- A member that adds no blocks does not have the name of the type.
  have hdropped : p.key ≠ type → content.blocksOfType type = content.blocksOfType type ++
      ([p].filter (·.key == type)).flatMap fun p =>
        p.value.blocks type header.labels.length [] p.pos := by
    intro hkey
    simp [hkey]
  intro content' hadded
  cases addPair_eq_ok_iff.1 hadded with
  | comment comment =>
    refine hdropped ?_
    rintro rfl
    exact htype (beq_iff_eq.1 comment)
  | «attribute» _ named =>
    refine hdropped ?_
    rintro rfl
    rw [hattribute] at named
    cases named
  | other _ _ noBlock =>
    refine hdropped ?_
    rintro rfl
    rw [hheader] at noBlock
    cases noBlock
  | @blocks header' bs _ _ named read =>
    -- All blocks below a member have its name as their type.
    have hbs := ensures_jsonBlocks_eq header'.labels [] p.pos p.value bs read
    have htypes : ∀ b ∈ bs, b.type = p.key := fun b hb => type_of_mem_blocks (hbs ▸ hb)
    rw [blocksOfType_addBlocks]
    by_cases hkey : p.key = type
    · subst hkey
      obtain rfl := Option.some.inj (hheader.symm.trans named)
      have hall : bs.filter (·.type == p.key) = bs :=
        List.filter_eq_self.2 fun b hb => beq_iff_eq.2 (htypes b hb)
      rw [hall, hbs]
      simp
    · have hnone : bs.filter (·.type == type) = [] :=
        List.filter_eq_nil_iff.2 fun b hb heq => hkey ((htypes b hb).symm.trans (beq_iff_eq.1 heq))
      rw [hnone]
      simp [hkey]

/-- What decoding finds of a type that the schema asks for as a block are the blocks of the tree. -/
theorem ensures_blocksOfType (hheader : schema.block? type = some header)
    (hattribute : schema.attributes.contains type = false) (htype : type ≠ JsonPair.commentKey)
    (body : Body) :
    Ensures (fun content => content.blocksOfType type = body.blocks type header.labels.length)
      (body.partialContent schema) := by
  cases body with
  | native items =>
    refine .foldlM_taken (I := fun taken (content : Content) =>
      content.blocksOfType type = taken.filterMap (Item.block? type)) ?_ rfl
    intro taken content item _ htaken
    refine (ensures_addItem_blocks hheader content item).mono fun content' hcontent' => ?_
    rw [hcontent', htaken, List.filterMap_append]
    cases h : item.block? type <;> simp [h]
  | json o pairs =>
    refine .foldlM_taken (I := fun (taken : List JsonPair) (content : Content) =>
      content.blocksOfType type = (taken.filter (·.key == type)).flatMap fun p =>
        p.value.blocks type header.labels.length [] p.pos) ?_ rfl
    intro taken content p _ htaken
    refine (ensures_addPair_blocks hheader hattribute htype content p).mono
      fun content' hcontent' => ?_
    rw [hcontent', htaken, List.filter_append, List.flatMap_append]

end Body

/-! ## Contributions -/

/-- What a piece of configuration contributes to a module. -/
structure Contribution where
  /-- The resources in the order of their declarations. -/
  resources : List Resource := []
  /-- The required providers by local name, in the order of their declarations. -/
  required : List (String × RequiredProvider) := []
  deriving DecidableEq, Repr

namespace Contribution

/-- Two contributions, one after the other. -/
instance : Append Contribution :=
  ⟨fun c c' => ⟨c.resources ++ c'.resources, c.required ++ c'.required⟩⟩

variable {c c' c'' : Contribution}

@[simp]
theorem resources_append : (c ++ c').resources = c.resources ++ c'.resources :=
  rfl

@[simp]
theorem required_append : (c ++ c').required = c.required ++ c'.required :=
  rfl

theorem append_assoc : c ++ c' ++ c'' = c ++ (c' ++ c'') := by
  show Contribution.mk _ _ = Contribution.mk _ _
  simp

theorem append_empty : c ++ {} = c := by
  show Contribution.mk _ _ = c
  simp

/-- Nothing in the contribution is declared twice. -/
structure Distinct (c : Contribution) : Prop where
  /-- The keys of the resources are different. -/
  keys : (c.resources.map Resource.key).Nodup
  /-- The names of the required providers are different. -/
  names : (c.required.map Prod.fst).Nodup

theorem Distinct.of_append_left (h : (c ++ c').Distinct) : c.Distinct := by
  obtain ⟨hkeys, hnames⟩ := h
  rw [resources_append, List.map_append] at hkeys
  rw [required_append, List.map_append] at hnames
  exact ⟨(List.nodup_append.1 hkeys).1, (List.nodup_append.1 hnames).1⟩

/-- Where names are different, looking one up finds what stands under it. -/
theorem lookup_eq_some_iff_mem {l : List (String × β)} (h : (l.map Prod.fst).Nodup) {name : String}
    {b : β} : l.lookup name = some b ↔ (name, b) ∈ l := by
  induction l with
  | nil => simp
  | cons p l ih =>
    obtain ⟨other, b'⟩ := p
    obtain ⟨hnew, hrest⟩ := List.nodup_cons.1 h
    rw [List.lookup_cons, List.mem_cons, Prod.mk.injEq, ← ih hrest]
    by_cases hname : name = other
    · subst hname
      have hnone : l.lookup name = none := by
        refine List.lookup_eq_none_iff.2 fun q hq => bne_iff_ne.2 fun heq => hnew ?_
        exact List.mem_map.2 ⟨q, hq, heq.symm⟩
      simp [hnone, eq_comm]
    · simp [hname, beq_false_of_ne hname]

end Contribution

/-- What the elements of a list contribute, one after the other. -/
def collect (f : α → Except LoadError Contribution) : List α → Except LoadError Contribution
  | [] => .ok {}
  | a :: rest => do return (← f a) ++ (← collect f rest)

/-! ## Readings -/

/-- The resource that a block contributes. -/
def Block.resource (b : Block) : Except LoadError Contribution := do
  return ⟨[← Module.resourceOf b], []⟩

/-- The provider that an argument of a `required_providers` block contributes. -/
def Attribute.requirement (a : Attribute) : Except LoadError Contribution := do
  return ⟨[], [(a.name, ← Module.requirementOf a)]⟩

/-- What a `required_providers` block contributes. -/
def Block.requirements (b : Block) : Except LoadError Contribution := do
  collect Attribute.requirement (← b.body.justAttributes.mapError .ofContent)

/-- What a `terraform` block contributes. -/
def Block.settings (b : Block) : Except LoadError Contribution := do
  let content ← (b.body.partialContent Module.requirementsSchema).mapError .ofContent
  collect Block.requirements (content.blocksOfType "required_providers")

/-- What the body of a file contributes. -/
def Body.contribution (body : Body) : Except LoadError Contribution := do
  let content ← (body.partialContent Module.schema).mapError .ofContent
  return (← collect Block.resource (content.blocksOfType "resource")) ++
    (← collect Block.settings (content.blocksOfType "terraform"))

/-- What the file at a path contributes. -/
def Disk.fileContribution (d : Disk) (path : String) : Except LoadError Contribution := do
  (← (d.readConfig path).mapError .read).contribution

/-- What the configuration files of a directory contribute. -/
def Disk.contribution (d : Disk) (directory : String) : Except LoadError Contribution := do
  if !d.isDirectory directory then throw (.noDirectory directory)
  collect d.fileContribution (Module.configFiles d directory)

/-! ## Collecting -/

section Collect

variable {f : α → Except LoadError Contribution} {as : List α} {c : Contribution}

theorem append_eq_ok_iff {x y : Except LoadError Contribution} :
    (do return (← x) ++ (← y)) = Except.ok c ↔
      ∃ a b, x = .ok a ∧ y = .ok b ∧ c = a ++ b := by
  cases x <;> cases y <;> simp [bind, Except.bind, pure, Except.pure, eq_comm]

theorem collect_cons_eq_ok_iff {a : α} :
    collect f (a :: as) = .ok c ↔ ∃ b b', f a = .ok b ∧ collect f as = .ok b' ∧ c = b ++ b' :=
  append_eq_ok_iff

/-- What holds of the empty contribution and of two together if of each, holds of all that is
collected. -/
theorem ensures_collect {I : List α → Contribution → Prop} (hnil : I [] {})
    (hcons : ∀ a ∈ as, ∀ rest, Ensures (fun b => ∀ b', I rest b' → I (a :: rest) (b ++ b')) (f a)) :
    Ensures (I as) (collect f as) := by
  induction as with
  | nil => exact .ok hnil
  | cons a rest ih =>
    have hrest := ih fun a' ha' => hcons a' (List.mem_cons_of_mem a ha')
    refine .bind (hcons a List.mem_cons_self rest) fun b hb => .bind hrest fun b' hb' => ?_
    exact .ok (hb b' hb')

/-- The collected resources belong to all the elements in order if those of each belong to it. -/
theorem ensures_collect_resources {R : β → Resource → Prop} {g : α → List β}
    (h : ∀ a ∈ as, Ensures (fun b => List.Forall₂ R (g a) b.resources) (f a)) :
    Ensures (fun c => List.Forall₂ R (as.flatMap g) c.resources) (collect f as) := by
  refine ensures_collect (I := fun as c => List.Forall₂ R (as.flatMap g) c.resources) .nil ?_
  intro a ha rest
  refine (h a ha).mono fun b hb b' hb' => ?_
  rw [List.flatMap_cons, Contribution.resources_append]
  exact List.rel_append hb hb'

end Collect

namespace Module

variable {d : Disk} {directory : String}

theorem contribution_of_isDirectory (h : d.isDirectory directory = true) :
    d.contribution directory = collect d.fileContribution (configFiles d directory) := by
  rw [Disk.contribution, h]
  rfl

theorem isDirectory_of_contribution {c : Contribution} (h : d.contribution directory = .ok c) :
    d.isDirectory directory = true := by
  cases hdir : d.isDirectory directory with
  | true => rfl
  | false =>
    rw [Disk.contribution, hdir] at h
    cases h

end Module

/-! ## Resources and their blocks -/

/-- The `resource` blocks in the configuration files of a directory, as they are written. -/
def Module.writtenResources (d : Disk) (directory : String) : List Block :=
  (configFiles d directory).flatMap fun path =>
    match d.readConfig path with
    | .ok body => body.blocks "resource" 2
    | .error _ => []

/-- What stands in a list has its counterpart in a list that belongs to it. -/
theorem exists_of_forall₂ {R : α → β → Prop} {as : List α} {bs : List β} (h : List.Forall₂ R as bs)
    {b : β} (hb : b ∈ bs) : ∃ a ∈ as, R a b := by
  induction h with
  | nil => cases hb
  | @cons a _ as _ hhead _ ih =>
    rcases List.mem_cons.1 hb with rfl | hb
    · exact ⟨a, List.mem_cons_self, hhead⟩
    · obtain ⟨a', ha', hR⟩ := ih hb
      exact ⟨a', List.mem_cons_of_mem a ha', hR⟩

/-- Blocks and the resources that they declare have the same labels. -/
theorem Module.map_labels_eq {blocks : List Block} {resources : List Resource}
    (h : List.Forall₂ Block.Declares blocks resources) :
    blocks.map Block.labels = resources.map fun r => [r.type, r.name] := by
  rw [← List.forall₂_eq_eq_eq, List.forall₂_map_left_iff, List.forall₂_map_right_iff]
  exact h.imp fun b r hb => hb.labels

/-- Where no element contributes resources, none are collected. -/
theorem ensures_collect_nil {f : α → Except LoadError Contribution}
    (h : ∀ a, Ensures (·.resources = []) (f a)) (as : List α) :
    Ensures (·.resources = []) (collect f as) := by
  refine ensures_collect (I := fun _ c => c.resources = []) rfl fun a _ rest => ?_
  refine (h a).mono fun b hb b' hb' => ?_
  rw [Contribution.resources_append, hb, hb', List.append_nil]

/-- A `terraform` block contributes no resources. -/
theorem Block.ensures_settings (b : Block) : Ensures (·.resources = []) b.settings := by
  refine .bind .trivial fun content _ => ensures_collect_nil (fun b => ?_) _
  refine .bind .trivial fun attributes _ => ensures_collect_nil (fun a => ?_) _
  exact .bind .trivial fun p _ => .ok rfl

/-- The block declares the resource, and this in the file. -/
def Block.DeclaresIn (path : String) (b : Block) (r : Resource) : Prop :=
  b.Declares r ∧ r.file = path

/-- The `resource` blocks that a module's schema finds in a body are those that are written. -/
theorem Body.ensures_resourceBlocks (body : Body) :
    Ensures (fun content => content.blocksOfType "resource" = body.blocks "resource" 2)
      (body.partialContent Module.schema) := by
  have hheader : Module.schema.block? "resource" = some ⟨"resource", ["type", "name"]⟩ := by
    decide
  exact ensures_blocksOfType hheader (by decide) (by decide) body

/-- The resources that a file contributes are what its `resource` blocks declare. -/
theorem Body.ensures_contribution {body : Body} {path : String} (hbody : body.In path) :
    Ensures (fun c => List.Forall₂ (Block.DeclaresIn path) (body.blocks "resource" 2) c.resources)
      body.contribution := by
  have hcontent : Ensures (fun content : Content => Fitting Module.schema path content ∧
      content.blocksOfType "resource" = body.blocks "resource" 2)
      ((body.partialContent Module.schema).mapError LoadError.ofContent) := by
    intro content hcontent
    rw [mapError_eq_ok_iff] at hcontent
    exact ⟨ensures_partialContent hbody content hcontent,
      body.ensures_resourceBlocks content hcontent⟩
  refine .bind hcontent fun content ⟨hfits, hblocks⟩ => ?_
  rw [← hblocks]
  have hresource : ∀ b ∈ content.blocksOfType "resource",
      Ensures (fun c => List.Forall₂ (Block.DeclaresIn path) [b] c.resources) b.resource := by
    intro b hb
    obtain ⟨hmem, htype⟩ := List.mem_filter.1 hb
    have hlength := Module.length_labels (hfits b hmem).labels (beq_iff_eq.1 htype)
    refine .bind (Module.ensures_resourceOf hlength) fun r hr => .ok (.cons ⟨hr, ?_⟩ .nil)
    rw [← hr.file, (hfits b hmem).pos]
  have hresources := ensures_collect_resources hresource
  rw [List.flatMap_singleton'] at hresources
  -- The `terraform` blocks come behind all resources and add none.
  have hsettings := ensures_collect_nil Block.ensures_settings (content.blocksOfType "terraform")
  refine .bind hresources fun c hc => .bind hsettings fun c' hc' => .ok ?_
  rwa [Contribution.resources_append, hc', List.append_nil]

/-- So it is for the file at a path. -/
theorem Disk.ensures_fileContribution (d : Disk) (path : String) :
    Ensures (fun c => ∃ body, d.readConfig path = .ok body ∧
      List.Forall₂ (Block.DeclaresIn path) (body.blocks "resource" 2) c.resources)
      (d.fileContribution path) := by
  intro c hc
  obtain ⟨body, hbody, hc⟩ := bind_eq_ok_iff.1 hc
  rw [mapError_eq_ok_iff] at hbody
  exact ⟨body, hbody, Body.ensures_contribution (d.ensures_readConfig path body hbody) c hc⟩

/-- The resources that a directory contributes are what the `resource` blocks of its files
declare. -/
theorem Disk.ensures_contribution (d : Disk) (directory : String) :
    Ensures (fun c => List.Forall₂ Block.Declares (Module.writtenResources d directory) c.resources)
      (d.contribution directory) := by
  intro c hc
  have hdir := Module.isDirectory_of_contribution hc
  rw [Module.contribution_of_isDirectory hdir] at hc
  refine ensures_collect_resources (fun path _ => ?_) c hc
  refine (d.ensures_fileContribution path).mono ?_
  rintro c' ⟨body, hbody, hc'⟩
  rw [hbody]
  exact hc'.imp fun _ _ h => h.1

end ResourceTables
