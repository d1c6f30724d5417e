import ResourceTables.Proofs.Inventory.Contributions
import ResourceTables.Proofs.Layout.Evaluation

/-!
# Contributions of items

What a native file contributes to a module is what each of its items contributes by itself, and this
does not depend on where the item is written.

* `SameResult`: two computations both fail, or have the same result;
* `Body.IsNative.agree_contribution`: a native body without places contributes the same, without
  places;
* `Body.contribution_eq_ok_iff`: a native body contributes what its items do, one after the other;
* `collect_perm`: in another order the same is contributed in another order.
-/

namespace ResourceTables

/-- The computations both fail, or have the same result. -/
abbrev SameResult (x x' : Except ε α) : Prop :=
  AgreeUpTo (fun _ => ()) x x'

theorem SameResult.of_agree {f : ε → δ} {x x' : Except ε α} (h : AgreeUpTo f x x') :
    SameResult x x' :=
  h.coarsen (g := fun _ => ())

/-- Changing the errors does not change whether there is a result, nor does changing the results
afterwards. -/
theorem SameResult.mapError_map {f : ε → δ} {g : ε → γ} {u : β → α} {x : Except ε α}
    {y : Except ε β} (h : AgreeUpTo f x (y.map u)) :
    SameResult (x.mapError g) ((y.mapError g).map u) := by
  have hswap : (y.mapError g).map u = (y.map u).mapError g := by
    cases y <;> rfl
  rw [hswap]
  exact (SameResult.of_agree h).mapError

/-! ## Contributions without places -/

/-- The resource without its place. -/
def Resource.unplaced (r : Resource) : Resource :=
  { r with file := "", line := 0 }

/-- The contribution without the places of its resources. -/
def Contribution.unplaced (c : Contribution) : Contribution :=
  ⟨c.resources.map Resource.unplaced, c.required⟩

theorem Contribution.unplaced_append (c c' : Contribution) :
    (c ++ c').unplaced = c.unplaced ++ c'.unplaced := by
  show Contribution.mk _ _ = Contribution.mk _ _
  rw [resources_append, List.map_append]
  rfl

/-- Corresponding elements contribute the same. -/
theorem agree_collect {f : α → Except LoadError Contribution} {u : α → α} {as : List α}
    (h : ∀ a ∈ as, SameResult (f (u a)) ((f a).map Contribution.unplaced)) :
    SameResult (collect f (as.map u)) ((collect f as).map Contribution.unplaced) := by
  induction as with
  | nil => exact .refl
  | cons a as ih =>
    obtain ⟨ha, has⟩ := List.forall_mem_cons.1 h
    refine .bind_map ha fun c _ => .bind_map (ih has) fun c' _ => ?_
    exact congrArg Except.ok (Contribution.unplaced_append c c').symm

namespace Module

theorem providerOfExpr?_unplaced (e : Expr) : providerOfExpr? e.unplaced = providerOfExpr? e := by
  cases e with
  | template o parts =>
    rw [Expr.unplaced, providerOfExpr?, providerOfExpr?, Part.literal?_allUnplaced]
  | getAttr o target name => cases target <;> rfl
  | _ => rfl

theorem agree_providerOf (a : Attribute) : SameResult (providerOf a.unplaced) (providerOf a) := by
  have hsame : providerOfExpr? a.unplaced.expr = providerOfExpr? a.expr :=
    providerOfExpr?_unplaced a.expr
  unfold providerOf
  rw [hsame]
  split <;> rfl

/-- A block without its place is read as the resource without its place. -/
theorem agree_resourceOf {b : Block} (hb : b.body.IsNative) :
    SameResult (resourceOf b.unplaced) ((resourceOf b).map Resource.unplaced) := by
  refine .bind_map (SameResult.mapError_map (hb.agree_partialContent _)) fun content _ => ?_
  rw [Content.attribute?_unplaced]
  cases content.attribute? "provider" with
  | none => exact .refl
  | some a => exact .bind_same (agree_providerOf a) fun _ => .refl

theorem agree_requirementField (a : Attribute) (field : String) (fields : Fields Value) :
    SameResult (requirementField a.unplaced field fields) (requirementField a field fields) := by
  unfold requirementField
  split <;> rfl

theorem agree_requirementOf (a : Attribute) :
    SameResult (requirementOf a.unplaced) (requirementOf a) := by
  refine .bind (SameResult.of_agree (a.expr.agree_evaluate_unplaced Scope.empty)).mapError
    fun v => ?_
  split
  · exact .refl
  · dsimp only
    split
    · rfl
    · refine .bind (agree_requirementField ..) fun source => ?_
      exact .bind (agree_requirementField ..) fun version => .refl
  · rfl

end Module

theorem Block.agree_resource {b : Block} (hb : b.body.IsNative) :
    SameResult b.unplaced.resource (b.resource.map Contribution.unplaced) :=
  .bind_map (Module.agree_resourceOf hb) fun _ _ => .refl

theorem Attribute.agree_requirement (a : Attribute) :
    SameResult a.unplaced.requirement (a.requirement.map Contribution.unplaced) :=
  .bind_same (Module.agree_requirementOf a) fun _ => .refl

theorem Block.agree_requirements {b : Block} (hb : b.body.IsNative) :
    SameResult b.unplaced.requirements (b.requirements.map Contribution.unplaced) :=
  .bind_map (SameResult.mapError_map hb.agree_justAttributes) fun _ _ =>
    agree_collect fun a _ => a.agree_requirement

/-- The block that an item is, is native. -/
theorem Item.isNative_of_block? {type : String} {item : Item} {b : Block}
    (h : item.block? type = some b) : b.body.IsNative := by
  cases item with
  | «attribute» a => cases h
  | block other labels pos items =>
    rw [block?] at h
    split at h
    · cases h
      exact ⟨items, rfl⟩
    · cases h

/-- So are the blocks of a type among the items of a native body. -/
theorem Item.isNative_of_mem_filterMap {type : String} {items : List Item} {b : Block}
    (hb : b ∈ items.filterMap (Item.block? type)) : b.body.IsNative := by
  obtain ⟨item, -, hitem⟩ := List.mem_filterMap.1 hb
  exact isNative_of_block? hitem

/-- What is decoded of a native body are native blocks. -/
theorem Body.IsNative.of_mem_blocksOfType {body : Body} (hbody : body.IsNative) {type : String}
    {schema : BodySchema} {header : BlockHeader} (hheader : schema.block? type = some header)
    (hattribute : schema.attributes.contains type = false) (htype : type ≠ JsonPair.commentKey)
    {content : Content} (hcontent : body.partialContent schema = .ok content) {b : Block}
    (hb : b ∈ content.blocksOfType type) : b.body.IsNative := by
  rw [ensures_blocksOfType hheader hattribute htype body content hcontent] at hb
  obtain ⟨items, rfl⟩ := hbody
  exact Item.isNative_of_mem_filterMap hb

theorem Block.agree_settings {b : Block} (hb : b.body.IsNative) :
    SameResult b.unplaced.settings (b.settings.map Contribution.unplaced) := by
  refine .bind_map (SameResult.mapError_map (hb.agree_partialContent _)) fun content hcontent => ?_
  rw [mapError_eq_ok_iff] at hcontent
  rw [Content.blocksOfType_unplaced]
  refine agree_collect fun inner hinner => Block.agree_requirements ?_
  exact hb.of_mem_blocksOfType rfl (by decide) (by decide) hcontent hinner

/-- A native body without places contributes the same, without places. -/
theorem Body.IsNative.agree_contribution {body : Body} (h : body.IsNative) :
    SameResult body.unplaced.contribution (body.contribution.map Contribution.unplaced) := by
  refine .bind_map (SameResult.mapError_map (h.agree_partialContent _)) fun content hcontent => ?_
  rw [mapError_eq_ok_iff] at hcontent
  rw [Content.blocksOfType_unplaced, Content.blocksOfType_unplaced]
  refine .bind_map (agree_collect fun b hb => Block.agree_resource ?_) fun c _ => ?_
  · exact h.of_mem_blocksOfType rfl (by decide) (by decide) hcontent hb
  refine .bind_map (agree_collect fun b hb => Block.agree_settings ?_) fun c' _ => ?_
  · exact h.of_mem_blocksOfType rfl (by decide) (by decide) hcontent hb
  · exact congrArg Except.ok (Contribution.unplaced_append c c').symm

/-! ## One item after the other -/

namespace Body

variable {schema : BodySchema}

/-- Where no arguments are wanted, an item adds the blocks that it adds to an empty content. -/
theorem addItem_eq (h : schema.attributes = []) (c : Content) (item : Item) :
    addItem schema c item = (addItem schema {} item).map fun found => c.addBlocks found.blocks := by
  have hsame : c = c.addBlocks [] := by simp [Content.addBlocks]
  cases item with
  | «attribute» a =>
    -- Without arguments that are wanted, none is there twice.
    have hunwanted : schema.attributes.contains a.name = false := by
      rw [h]
      rfl
    rw [addItem, addItem, hunwanted]
    simp only [Bool.false_eq_true, if_false]
    split
    · rfl
    · exact congrArg Except.ok hsame
  | block type labels pos items =>
    rw [addItem, addItem, h]
    split
    · exact congrArg Except.ok hsame
    · next header _ =>
      dsimp only
      cases Block.checkLabels ⟨type, labels, .native items, pos⟩ header <;> rfl

/-- So do several items. -/
theorem foldlM_addItem_eq (h : schema.attributes = []) (c : Content) (items : List Item) :
    items.foldlM (addItem schema) c =
      (items.foldlM (addItem schema) {}).map fun found => c.addBlocks found.blocks := by
  induction items generalizing c with
  | nil =>
    show Except.ok c = Except.ok (c.addBlocks [])
    simp [Content.addBlocks]
  | cons item rest ih =>
    rw [List.foldlM_cons, List.foldlM_cons, addItem_eq h c item]
    cases addItem schema {} item with
    | error e => rfl
    | ok found =>
      show rest.foldlM (addItem schema) (c.addBlocks found.blocks) =
        (rest.foldlM (addItem schema) found).map _
      -- What the rest adds is the same behind `c` and `found` as behind `found` alone.
      rw [ih (c.addBlocks found.blocks), ih found]
      cases rest.foldlM (addItem schema) {} with
      | error e => rfl
      | ok found' => simp [Except.map, Content.addBlocks]

/-- Decoding a body in two parts gives the blocks of both, where no arguments are wanted. -/
theorem partialContent_append_eq_ok_iff (h : schema.attributes = []) {items items' : List Item}
    {content : Content} :
    (native (items ++ items')).partialContent schema = .ok content ↔
      ∃ found found', (native items).partialContent schema = .ok found ∧
        (native items').partialContent schema = .ok found' ∧
        content = found.addBlocks found'.blocks := by
  show (items ++ items').foldlM (addItem schema) {} = _ ↔ _
  rw [List.foldlM_append, bind_eq_ok_iff]
  constructor
  · rintro ⟨found, hfound, hcontent⟩
    rw [foldlM_addItem_eq h, map_eq_ok_iff] at hcontent
    obtain ⟨found', hfound', rfl⟩ := hcontent
    exact ⟨found, found', hfound, hfound', rfl⟩
  · rintro ⟨found, found', hfound, hfound', rfl⟩
    refine ⟨found, hfound, ?_⟩
    rw [foldlM_addItem_eq h, map_eq_ok_iff]
    exact ⟨found', hfound', rfl⟩

end Body

/-- What lists of elements contribute one after the other. -/
theorem collect_append_eq_ok_iff {f : α → Except LoadError Contribution} {as as' : List α}
    {c : Contribution} :
    collect f (as ++ as') = .ok c ↔
      ∃ b b', collect f as = .ok b ∧ collect f as' = .ok b' ∧ c = b ++ b' := by
  induction as generalizing c with
  | nil =>
    rw [List.nil_append]
    constructor
    · intro hc
      exact ⟨{}, c, rfl, hc, rfl⟩
    · rintro ⟨b, b', hb, hb', rfl⟩
      cases hb
      exact hb'
  | cons a as ih =>
    rw [List.cons_append, collect_cons_eq_ok_iff]
    simp only [ih, collect_cons_eq_ok_iff]
    constructor
    · rintro ⟨b, _, hb, ⟨b₁, b₂, hb₁, hb₂, rfl⟩, rfl⟩
      exact ⟨b ++ b₁, b₂, ⟨b, b₁, hb, hb₁, rfl⟩, hb₂, Contribution.append_assoc.symm⟩
    · rintro ⟨_, b₂, ⟨b, b₁, hb, hb₁, rfl⟩, hb₂, rfl⟩
      exact ⟨b, b₁ ++ b₂, hb, ⟨b₁, b₂, hb₁, hb₂, rfl⟩, Contribution.append_assoc⟩

/-- Resources and required providers can be put together in either order. -/
theorem Contribution.append_comm {c c' : Contribution} (h : c.required = [])
    (h' : c'.resources = []) : c ++ c' = c' ++ c := by
  show Contribution.mk _ _ = Contribution.mk _ _
  rw [h, h', List.append_nil, List.nil_append, List.append_nil, List.nil_append]

/-- A `resource` block contributes no required providers. -/
theorem Block.ensures_resource (b : Block) : Ensures (·.required = []) b.resource :=
  .bind .trivial fun _ _ => .ok rfl

namespace Body

/-- What a native body contributes, step by step. -/
theorem contribution_eq_ok_iff_exists {body : Body} {c : Contribution} :
    body.contribution = .ok c ↔
      ∃ content b b', body.partialContent Module.schema = .ok content ∧
        collect Block.resource (content.blocksOfType "resource") = .ok b ∧
        collect Block.settings (content.blocksOfType "terraform") = .ok b' ∧ c = b ++ b' := by
  unfold contribution
  rw [bind_eq_ok_iff]
  simp only [mapError_eq_ok_iff, append_eq_ok_iff]
  constructor
  · rintro ⟨content, hcontent, b, b', hb, hb', rfl⟩
    exact ⟨content, b, b', hcontent, hb, hb', rfl⟩
  · rintro ⟨content, b, b', hcontent, hb, hb', rfl⟩
    exact ⟨content, hcontent, b, b', hb, hb', rfl⟩

/-- Two parts of a native body contribute what they do by themselves, one after the other. -/
theorem contribution_append_eq_ok_iff {items items' : List Item} {c : Contribution} :
    (native (items ++ items')).contribution = .ok c ↔
      ∃ b b', (native items).contribution = .ok b ∧ (native items').contribution = .ok b' ∧
        c = b ++ b' := by
  -- The resources of the second part stand behind those of the first, and so do the requirements;
  -- it does not matter which of them are read first.
  have hswap : ∀ {bs bs' : List Block} {b₁ b₂ b₁' b₂'},
      collect Block.resource bs' = .ok b₁' → collect Block.settings bs = .ok b₂ →
        b₁ ++ b₁' ++ (b₂ ++ b₂') = b₁ ++ b₂ ++ (b₁' ++ b₂') := by
    intro bs bs' b₁ b₂ b₁' b₂' hb₁' hb₂
    have hrequired : b₁'.required = [] := by
      refine ensures_collect (I := fun _ c => c.required = []) rfl (fun b _ rest => ?_) b₁' hb₁'
      refine b.ensures_resource.mono fun c hc c' hc' => ?_
      rw [Contribution.required_append, hc, hc', List.append_nil]
    have hresources : b₂.resources = [] := ensures_collect_nil Block.ensures_settings bs b₂ hb₂
    rw [Contribution.append_assoc, ← Contribution.append_assoc (c := b₁'),
      Contribution.append_comm hrequired hresources, Contribution.append_assoc,
      ← Contribution.append_assoc]
  have hfilter : ∀ (found found' : Content) type,
      (found.addBlocks found'.blocks).blocksOfType type =
        found.blocksOfType type ++ found'.blocksOfType type :=
    fun found found' type => blocksOfType_addBlocks found found'.blocks
  simp only [contribution_eq_ok_iff_exists]
  constructor
  · rintro ⟨content, b, b', hcontent, hb, hb', rfl⟩
    obtain ⟨found, found', hfound, hfound', rfl⟩ :=
      (partialContent_append_eq_ok_iff rfl).1 hcontent
    rw [hfilter, collect_append_eq_ok_iff] at hb hb'
    obtain ⟨b₁, b₁', hb₁, hb₁', rfl⟩ := hb
    obtain ⟨b₂, b₂', hb₂, hb₂', rfl⟩ := hb'
    exact ⟨b₁ ++ b₂, b₁' ++ b₂', ⟨found, b₁, b₂, hfound, hb₁, hb₂, rfl⟩,
      ⟨found', b₁', b₂', hfound', hb₁', hb₂', rfl⟩, hswap hb₁' hb₂⟩
  · rintro ⟨_, _, ⟨found, b₁, b₂, hfound, hb₁, hb₂, rfl⟩,
      ⟨found', b₁', b₂', hfound', hb₁', hb₂', rfl⟩, rfl⟩
    refine ⟨_, b₁ ++ b₁', b₂ ++ b₂',
      (partialContent_append_eq_ok_iff rfl).2 ⟨found, found', hfound, hfound', rfl⟩, ?_, ?_,
      (hswap hb₁' hb₂).symm⟩
    · rw [hfilter, collect_append_eq_ok_iff]
      exact ⟨b₁, b₁', hb₁, hb₁', rfl⟩
    · rw [hfilter, collect_append_eq_ok_iff]
      exact ⟨b₂, b₂', hb₂, hb₂', rfl⟩

end Body

/-- What an item contributes by itself. -/
def Item.contribution (item : Item) : Except LoadError Contribution :=
  (Body.native [item]).contribution

/-- A native body contributes what its items do, one after the other. -/
theorem Body.contribution_eq_ok_iff {items : List Item} {c : Contribution} :
    (native items).contribution = .ok c ↔ collect Item.contribution items = .ok c := by
  induction items generalizing c with
  | nil => rfl
  | cons item rest ih =>
    rw [← List.singleton_append, contribution_append_eq_ok_iff, List.singleton_append,
      collect_cons_eq_ok_iff]
    simp only [ih]
    rfl

/-- An item without places contributes the same, without places. -/
theorem Item.agree_contribution (item : Item) :
    SameResult item.unplaced.contribution (item.contribution.map Contribution.unplaced) :=
  Body.IsNative.agree_contribution ⟨[item], rfl⟩

/-! ## The order of items -/

/-- The contributions hold the same, in any order. -/
structure Contribution.Perm (c c' : Contribution) : Prop where
  /-- The resources are the same. -/
  resources : c.resources.Perm c'.resources
  /-- The required providers are the same. -/
  required : c.required.Perm c'.required

theorem Contribution.Perm.append {c c' d d' : Contribution} (h : c.Perm c') (h' : d.Perm d') :
    (c ++ d).Perm (c' ++ d') :=
  ⟨h.resources.append h'.resources, h.required.append h'.required⟩

/-- In another order the elements contribute the same in another order. -/
theorem collect_perm {f : α → Except LoadError Contribution} {as as' : List α} (h : as.Perm as')
    {c : Contribution} (hc : collect f as = .ok c) :
    ∃ c', collect f as' = .ok c' ∧ c.Perm c' := by
  induction h generalizing c with
  | nil => exact ⟨c, hc, .refl _, .refl _⟩
  | cons a _ ih =>
    obtain ⟨b, b', hb, hb', rfl⟩ := collect_cons_eq_ok_iff.1 hc
    obtain ⟨c', hc', hperm⟩ := ih hb'
    exact ⟨b ++ c', collect_cons_eq_ok_iff.2 ⟨b, c', hb, hc', rfl⟩,
      .append ⟨.refl _, .refl _⟩ hperm⟩
  | swap a a' as =>
    obtain ⟨b, _, hb, hrest, rfl⟩ := collect_cons_eq_ok_iff.1 hc
    obtain ⟨b', b'', hb', hb'', rfl⟩ := collect_cons_eq_ok_iff.1 hrest
    refine ⟨b' ++ (b ++ b''), collect_cons_eq_ok_iff.2 ⟨b', _, hb',
      collect_cons_eq_ok_iff.2 ⟨b, b'', hb, hb'', rfl⟩, rfl⟩, ?_, ?_⟩
    -- Two neighbours change places in front of the same rest.
    · exact List.perm_append_comm_assoc ..
    · exact List.perm_append_comm_assoc ..
  | trans _ _ ih ih' =>
    obtain ⟨c', hc', hperm⟩ := ih hc
    obtain ⟨c'', hc'', hperm'⟩ := ih' hc'
    exact ⟨c'', hc'', hperm.resources.trans hperm'.resources,
      hperm.required.trans hperm'.required⟩

end ResourceTables
