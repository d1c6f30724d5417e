import Mathlib.Data.List.Forall2
import ResourceTables.Inventory.Resolve
import ResourceTables.Proofs.Inventory.Blocks

/-!
# Where resources are declared

Loading a module goes over the `resource` blocks of its files, and the cells of a resource are later
looked up in a block that is found by its labels. These are the same blocks.

* `Block.Declares b r`: the resource is what the block declares, under the block's labels and at its
  place;
* `Module.Declared m blocks`: the resources of the module are what the blocks declare, in order and
  with different keys;
* `Module.ensures_loadCached`: a module that is loaded is declared by the `resource` blocks of its
  files, and the cache holds these files as they were on the disk;
* `Module.SoleDeclaration`: the block alone has the labels of the resource in its file;
* `Module.Declared.soleDeclaration`: this is so for all blocks of a module, because their keys are
  different; looking for the block of a resource finds its sole declaration.
-/

namespace ResourceTables

/-! ## Caches -/

namespace ParseCache

variable {c c' c'' : ParseCache} {d : Disk} {path : String} {body : Body}

/-- The cache holds each file as it is on the disk. -/
def From (d : Disk) (c : ParseCache) : Prop :=
  ∀ path body, c.find? path = some body → d.readConfig path = .ok body

theorem From.empty (d : Disk) : From d {} := by
  intro path body hfind
  cases hfind

/-- The larger cache holds what the smaller one holds. -/
def Extends (c c' : ParseCache) : Prop :=
  ∀ path body, c.find? path = some body → c'.find? path = some body

theorem Extends.refl : c.Extends c :=
  fun _ _ h => h

theorem Extends.trans (h : c.Extends c') (h' : c'.Extends c'') : c.Extends c'' :=
  fun path body hfind => h' path body (h path body hfind)

/-- A file that is held is not read again. -/
theorem get_of_find? (h : c.find? path = some body) (d : Disk) : c.get d path = .ok (body, c) := by
  simp only [get, h]

theorem find?_added (h : c.find? path = none) (body : Body) (other : String) :
    find? ⟨c.files ++ [(path, body)]⟩ other =
      if other = path then some body else c.find? other := by
  unfold find? at h ⊢
  rw [List.lookup_append]
  split
  · next heq =>
    rw [heq, h]
    simp
  · next hne => simp [List.lookup_cons, beq_false_of_ne hne]

/-- A file that is asked for is held from then on, beside all that was held before. -/
theorem ensures_get (c : ParseCache) (d : Disk) (path : String) :
    Ensures (fun found => found.2.find? path = some found.1 ∧ c.Extends found.2 ∧
      (c.From d → found.2.From d)) (c.get d path) := by
  cases hfind : c.find? path with
  | some body =>
    rw [get_of_find? hfind]
    exact .ok ⟨hfind, .refl, id⟩
  | none =>
    simp only [get, hfind]
    cases hread : d.readConfig path with
    | error e => exact .error
    | ok body =>
      have hadded := find?_added hfind body
      refine .ok ⟨?_, ?_, ?_⟩
      · rw [hadded, if_pos rfl]
      · -- Nothing was held for the file, so what is held beside it is not replaced.
        intro other held hheld
        rw [hadded, if_neg fun heq => by simp [heq, hfind] at hheld]
        exact hheld
      · intro hfrom other held hheld
        rw [hadded] at hheld
        split at hheld
        · next heq =>
          cases hheld
          rw [heq]
          exact hread
        · exact hfrom other held hheld

end ParseCache

/-! ## Declarations -/

/-- The `resource` blocks of a body. -/
def Body.resourceBlocks (body : Body) : List Block :=
  match body.partialContent Module.schema with
  | .ok content => content.blocksOfType "resource"
  | .error _ => []

/-- The `resource` blocks of the file at a path. -/
def Disk.resourceBlocks (d : Disk) (path : String) : List Block :=
  match d.readConfig path with
  | .ok body => body.resourceBlocks
  | .error _ => []

/-- The resource is what the block declares, under the block's labels and at its place. -/
structure Block.Declares (b : Block) (r : Resource) : Prop where
  /-- The block is read as the resource. -/
  reads : Module.resourceOf b = .ok r
  /-- The labels are the type and the name. -/
  labels : b.labels = [r.type, r.name]
  /-- The file is that of the block. -/
  file : b.pos.file = r.file
  /-- The line is that of the block. -/
  line : b.pos.line = r.line

namespace Module

/-- The resources are what the blocks declare, in order, and their keys are different. -/
structure Declared (m : Module) (blocks : List Block) : Prop where
  /-- Each block declares the resource at its place in the list. -/
  declares : List.Forall₂ Block.Declares blocks m.resources
  /-- The keys are different. -/
  keys : (m.resources.map Resource.key).Nodup

variable {m : Module} {blocks : List Block} {b : Block} {path : String}

theorem ensures_resourceOf (hlabels : b.labels.length = 2) :
    Ensures b.Declares (resourceOf b) := by
  obtain ⟨type, name, hb⟩ := List.length_eq_two.1 hlabels
  have hpart : Ensures (fun r => r.type = type ∧ r.name = name ∧ r.file = b.pos.file ∧
      r.line = b.pos.line) (resourceOf b) := by
    refine .bind .trivial fun content _ => ?_
    dsimp only
    split
    · exact .bind .trivial fun provider _ => .ok (by simp [hb])
    · exact .bind .trivial fun provider _ => .ok (by simp [hb])
  intro r hr
  obtain ⟨rfl, rfl, hfile, hline⟩ := hpart r hr
  exact ⟨hr, hb, hfile.symm, hline.symm⟩

/-- A resource is taken in only under a key that is not there yet. -/
theorem ensures_addResource (h : m.Declared blocks) (hlabels : b.labels.length = 2) :
    Ensures (fun m => m.Declared (blocks ++ [b])) (m.addResource b) := by
  refine .bind (ensures_resourceOf hlabels) fun r hr => ?_
  split
  · exact .error
  · next hnew =>
    have hkey : r.key ∉ m.resources.map Resource.key := by
      intro hmem
      obtain ⟨first, hfirst, hkey⟩ := List.mem_map.1 hmem
      have hne := List.find?_eq_none.1 hnew first hfirst
      exact hne (beq_iff_eq.2 hkey)
    refine .ok ⟨?_, ?_⟩
    · exact List.rel_append h.declares (.cons hr .nil)
    · have hkeys := List.nodup_append.2 ⟨h.keys, (by simp : [r.key].Nodup), fun a ha b hb => ?_⟩
      · simpa using hkeys
      · obtain rfl := List.mem_singleton.1 hb
        exact fun heq => hkey (heq ▸ ha)

/-- What `terraform` blocks require does not touch the resources. -/
theorem ensures_addSettings (m : Module) (b : Block) :
    Ensures (fun m' => m'.resources = m.resources) (m.addSettings b) := by
  refine .bind .trivial fun content _ => .foldlM (fun m' hm' b' _ => ?_) rfl
  refine .bind .trivial fun attributes _ => .foldlM (fun m'' hm'' a _ => ?_) hm'
  unfold addRequirement
  split
  · exact .error
  · exact .bind .trivial fun p _ => .ok hm''

/-- One more file adds what its `resource` blocks declare. -/
theorem ensures_addFile {body : Body} (h : m.Declared blocks) (hbody : body.In path) :
    Ensures (fun m => m.Declared (blocks ++ body.resourceBlocks) ∧
      ∃ content, body.partialContent schema = .ok content) (m.addFile body) := by
  cases hcontent : body.partialContent schema with
  | error e =>
    simp only [addFile, hcontent]
    exact .error
  | ok content =>
    have hfits := Body.ensures_partialContent hbody content hcontent
    have hblocks : body.resourceBlocks = content.blocksOfType "resource" := by
      simp only [Body.resourceBlocks, hcontent]
    -- First the resources are added, and then the settings.
    have hadd : m.addFile body = (content.blocksOfType "resource").foldlM addResource m >>=
        fun m => (content.blocksOfType "terraform").foldlM addSettings m := by
      simp only [addFile, hcontent]
      rfl
    rw [hadd, hblocks]
    refine .bind (P := fun m : Module => m.Declared (blocks ++ content.blocksOfType "resource"))
      ?_ ?_
    · refine .foldlM_taken (I := fun taken (m : Module) => m.Declared (blocks ++ taken)) ?_
        (by simpa using h)
      intro taken m b hb hm
      obtain ⟨hmem, htype⟩ := List.mem_filter.1 hb
      rw [← List.append_assoc]
      exact ensures_addResource hm (length_labels (hfits b hmem).labels (beq_iff_eq.1 htype))
    · -- The settings of the module come behind its resources and leave them alone.
      intro m hm
      have hkept : Ensures (fun m' => m'.resources = m.resources)
          ((content.blocksOfType "terraform").foldlM addSettings m) := by
        refine .foldlM (fun m' hm' b _ => ?_) rfl
        exact (ensures_addSettings m' b).mono fun _ h => h.trans hm'
      refine hkept.mono fun m' hm' => ⟨⟨?_, ?_⟩, content, rfl⟩
      · rw [hm']
        exact hm.declares
      · rw [hm']
        exact hm.keys

/-! ## Loading -/

/-- A relation between the files that have been read and what has been made of them, which one more
file keeps, holds of all files of a directory that is loaded. -/
theorem ensures_loadWith {fetch : σ → String → Except ReadError (Body × σ)} {s : σ} {d : Disk}
    {directory : String} {I : List String → Module × σ → Prop}
    (hempty : I [] (⟨directory, [], []⟩, s))
    (hfile : ∀ taken m s path body s' m', I taken (m, s) → fetch s path = .ok (body, s') →
      m.addFile body = .ok m' → I (taken ++ [path]) (m', s')) :
    Ensures (I (configFiles d directory)) (loadWith fetch s d directory) := by
  cases hdir : d.isDirectory directory with
  | false =>
    simp only [loadWith, hdir]
    exact .error
  | true => ?_
  simp only [loadWith, hdir, Bool.not_true, Bool.false_eq_true, if_false]
  refine .foldlM_taken (fun taken loaded path _ h => ?_) hempty
  obtain ⟨m, s⟩ := loaded
  intro loaded' hloaded
  obtain ⟨⟨body, s'⟩, hfetched, hloaded⟩ := bind_eq_ok_iff.1 hloaded
  obtain ⟨m', hadded, hloaded⟩ := bind_eq_ok_iff.1 hloaded
  cases hloaded
  exact hfile taken m s path body s' m' h (mapError_eq_ok_iff.1 hfetched) hadded

/-- The cache holds the file as it is on the disk, and the file fits the schema of a module. -/
def Held (d : Disk) (c : ParseCache) (path : String) : Prop :=
  ∃ body content, c.find? path = some body ∧ d.readConfig path = .ok body ∧
    body.partialContent schema = .ok content

/-- A module that is loaded is declared by the `resource` blocks of its files, which are all held in
the cache as they were on the disk. -/
theorem ensures_loadCached (d : Disk) (directory : String) :
    Ensures (fun loaded =>
      loaded.1.Declared ((configFiles d directory).flatMap d.resourceBlocks) ∧
        ∀ path ∈ configFiles d directory, Held d loaded.2 path) (loadCached {} d directory) := by
  refine Ensures.mono (P := fun loaded : Module × ParseCache =>
      loaded.1.Declared ((configFiles d directory).flatMap d.resourceBlocks) ∧ loaded.2.From d ∧
        ∀ path ∈ configFiles d directory, Held d loaded.2 path) ?_ fun loaded h => ⟨h.1, h.2.2⟩
  refine ensures_loadWith (I := fun taken (loaded : Module × ParseCache) =>
      loaded.1.Declared (taken.flatMap d.resourceBlocks) ∧ loaded.2.From d ∧
        ∀ path ∈ taken, Held d loaded.2 path)
    ⟨⟨.nil, List.nodup_nil⟩, .empty d, by simp⟩ ?_
  -- One more file: its body is in the cache, before or from now on.
  rintro taken m c path body c' m' ⟨hm, hfrom, hheld⟩ hget hadded
  obtain ⟨hfind, hextends, hfrom'⟩ := c.ensures_get d path _ hget
  have hread : d.readConfig path = .ok body := hfrom' hfrom path body hfind
  have hblocks : d.resourceBlocks path = body.resourceBlocks := by
    simp only [Disk.resourceBlocks, hread]
  obtain ⟨hm', content, hcontent⟩ :=
    ensures_addFile hm (d.ensures_readConfig path body hread) m' hadded
  refine ⟨?_, hfrom' hfrom, ?_⟩
  · simpa [List.flatMap_append, hblocks] using hm'
  · intro other hother
    rcases List.mem_append.1 hother with hother | hother
    · obtain ⟨body', content', hfind', hrest⟩ := hheld other hother
      exact ⟨body', content', hextends other body' hfind', hrest⟩
    · obtain rfl := List.mem_singleton.1 hother
      exact ⟨body, content, hfind, hread, hcontent⟩

/-! ## Looking a block up -/

/-- Each resource of a module is declared by one of its blocks. -/
theorem Declared.exists_declares (h : m.Declared blocks) {r : Resource} (hr : r ∈ m.resources) :
    ∃ b ∈ blocks, b.Declares r := by
  obtain ⟨n, hn, rfl⟩ := List.getElem_of_mem hr
  obtain ⟨hlength, hall⟩ := List.forall₂_iff_get.1 h.declares
  have hn' : n < blocks.length := hlength ▸ hn
  exact ⟨blocks[n], List.getElem_mem hn', hall n hn' hn⟩

/-- The blocks of a module have different labels. -/
theorem Declared.pairwise_labels (h : m.Declared blocks) :
    blocks.Pairwise fun b b' => b.labels ≠ b'.labels := by
  have hlabels : blocks.map Block.labels = m.resources.map fun r => [r.type, r.name] := by
    rw [← List.forall₂_eq_eq_eq, List.forall₂_map_left_iff, List.forall₂_map_right_iff]
    exact h.declares.imp fun b r hb => hb.labels
  have hkeys := List.pairwise_map.1 h.keys
  rw [← List.pairwise_map (f := Block.labels) (R := (· ≠ ·)), hlabels, List.pairwise_map]
  -- Equal labels would make equal keys.
  refine hkeys.imp fun hne heq => hne ?_
  simp only [List.cons.injEq, and_true] at heq
  rw [Resource.key, Resource.key, heq.1, heq.2]

/-- Among blocks with different labels, those with the labels of a block are that block alone. -/
theorem filter_labels_eq (h : blocks.Pairwise fun b b' => b.labels ≠ b'.labels) (hb : b ∈ blocks) :
    blocks.filter (·.labels == b.labels) = [b] := by
  induction blocks with
  | nil => cases hb
  | cons first rest ih =>
    obtain ⟨hfirst, hrest⟩ := List.pairwise_cons.1 h
    rcases List.mem_cons.1 hb with rfl | hmem
    · have hnone : rest.filter (·.labels == b.labels) = [] := by
        refine List.filter_eq_nil_iff.2 fun b' hb' heq => hfirst b' hb' ?_
        exact (beq_iff_eq.1 heq).symm
      simp [hnone]
    · have hne : ¬ (first.labels == b.labels) := fun heq => hfirst b hmem (beq_iff_eq.1 heq)
      rw [List.filter_cons, if_neg hne]
      exact ih hrest hmem

/-- The block is the only `resource` block of its file with the labels of the resource that it
declares. -/
structure SoleDeclaration (d : Disk) (b : Block) (r : Resource) : Prop extends b.Declares r where
  /-- The file fits the schema of a module, and the block alone has these labels in it. -/
  sole : ∃ body content, d.readConfig r.file = .ok body ∧ body.partialContent schema = .ok content ∧
    (content.blocksOfType "resource").filter (·.labels == [r.type, r.name]) = [b]

/-- The blocks that a module is declared by are each the only one with its labels in its file. -/
theorem Declared.soleDeclaration {d : Disk} {c : ParseCache} {paths : List String}
    (h : m.Declared (paths.flatMap d.resourceBlocks)) (hheld : ∀ path ∈ paths, Held d c path)
    {b : Block} (hb : b ∈ paths.flatMap d.resourceBlocks) {r : Resource} (hr : b.Declares r) :
    SoleDeclaration d b r ∧ r.file ∈ paths := by
  obtain ⟨path, hpath, hmem⟩ := List.mem_flatMap.1 hb
  obtain ⟨body, content, -, hread, hcontent⟩ := hheld path hpath
  have hblocks : d.resourceBlocks path = content.blocksOfType "resource" := by
    simp only [Disk.resourceBlocks, hread, Body.resourceBlocks, hcontent]
  -- The block has its place in the file it was found in, so this is the file of the resource.
  have hfile : r.file = path := by
    rw [hblocks] at hmem
    have hfits :=
      Body.ensures_partialContent (d.ensures_readConfig path body hread) content hcontent
    rw [← hr.file]
    exact (hfits b (List.mem_filter.1 hmem).1).pos
  have hsublist : (d.resourceBlocks path).Sublist (paths.flatMap d.resourceBlocks) :=
    List.sublist_flatten_of_mem (List.mem_map_of_mem hpath)
  have hsole := filter_labels_eq (h.pairwise_labels.sublist hsublist) hmem
  rw [hblocks, hr.labels] at hsole
  refine ⟨⟨hr, body, content, ?_, hcontent, hsole⟩, ?_⟩
  · rw [hfile]
    exact hread
  · rw [hfile]
    exact hpath

/-- Looking for the block of a resource finds its sole declaration. -/
theorem SoleDeclaration.blockIn_eq {d : Disk} {r : Resource} {body : Body}
    (h : SoleDeclaration d b r) (hread : d.readConfig r.file = .ok body) :
    r.blockIn body = .ok b := by
  obtain ⟨body', content, hread', hcontent, hsole⟩ := h.sole
  obtain rfl : body' = body := by
    rw [hread] at hread'
    exact (Except.ok.inj hread').symm
  have hfind : (content.blocksOfType "resource").find? (·.labels == [r.type, r.name]) = some b := by
    rw [← List.head?_filter, hsole]
    rfl
  simp only [Resource.blockIn, hcontent, hfind]
  rfl

end Module

end ResourceTables
