import ResourceTables.Proofs.Inventory.Loading
import ResourceTables.Proofs.Inventory.Session

/-!
# The rows of a resource type

The resources of a type are listed by name, and their rows are made in this order. Nothing of what
is written gets lost on the way, and nothing is listed twice.

* `Inventory.exists_block`: a loaded inventory answers for each resource from one block, which alone
  declares it, and is itself unchanged by the answer;
* `Inventory.rows_eq`: so the rows of a type do not depend on what was asked before;
* `Module.pairwise_resourcesOfType`, `Module.perm_resourcesOfType`: the listing is in strict order,
  and holds what the `resource` blocks of the type declare;
* `Inventory.rows_in_order`: what is asked of a type is answered with one row for each resource in
  this order, or with the error of the first one that fails.
-/

namespace ResourceTables

/-! ## Going over a list until something fails -/

/-- Either all elements have a result, or there is a first one that fails and its error is the
outcome. -/
theorem mapM_cases (f : α → Except ε β) (as : List α) :
    (∃ bs, as.mapM f = .ok bs ∧ List.Forall₂ (fun a b => f a = .ok b) as bs) ∨
      ∃ before a after e, as = before ++ a :: after ∧ (∀ a' ∈ before, ∃ b, f a' = .ok b) ∧
        f a = .error e ∧ as.mapM f = .error e := by
  induction as with
  | nil => exact .inl ⟨[], rfl, .nil⟩
  | cons a as ih =>
    rw [List.mapM_cons]
    cases ha : f a with
    | error e => exact .inr ⟨[], a, as, e, rfl, by simp, ha, rfl⟩
    | ok b =>
      rcases ih with ⟨bs, hbs, hall⟩ | ⟨before, a', after, e, rfl, hbefore, ha', he⟩
      · rw [hbs]
        exact .inl ⟨b :: bs, rfl, .cons ha hall⟩
      · rw [he]
        refine .inr ⟨a :: before, a', after, e, rfl, ?_, ha', rfl⟩
        exact List.forall_mem_cons.2 ⟨⟨b, ha⟩, hbefore⟩

/-! ## The listing -/

/-- Sorting by a text puts the texts in order. -/
theorem pairwise_mergeSort_le (key : α → String) (as : List α) :
    (as.mergeSort fun a b => key a ≤ key b).Pairwise fun a b => key a ≤ key b := by
  refine (List.pairwise_mergeSort (fun a b c hab hbc => ?_) (fun a b => ?_) as).imp ?_
  · simp only [decide_eq_true_eq] at hab hbc ⊢
    exact String.le_trans hab hbc
  · simpa using String.le_total (key a) (key b)
  · simp

namespace Module

variable {m : Module}

/-- The listing holds each resource of the type once. -/
theorem perm_resourcesOfType (m : Module) (type : String) :
    (m.resourcesOfType type).Perm (m.resources.filter (·.type == type)) :=
  List.mergeSort_perm ..

theorem mem_of_mem_resourcesOfType {type : String} {r : Resource}
    (hr : r ∈ m.resourcesOfType type) : r ∈ m.resources :=
  (List.mem_filter.1 ((perm_resourcesOfType m type).mem_iff.1 hr)).1

/-- Where keys are different, resources of one type have different names. -/
theorem nodup_names_of_type (hkeys : (m.resources.map Resource.key).Nodup) (type : String) :
    ((m.resources.filter (·.type == type)).map Resource.name).Nodup := by
  rw [List.Nodup, List.pairwise_map] at hkeys ⊢
  refine (hkeys.filter _).imp_of_mem fun {r r'} hr hr' hne hname => hne ?_
  have htype := beq_iff_eq.1 (List.mem_filter.1 hr).2
  have htype' := beq_iff_eq.1 (List.mem_filter.1 hr').2
  rw [Resource.key, Resource.key, htype, htype', hname]

/-- Where keys are different, each name in the listing comes before the next one. -/
theorem pairwise_resourcesOfType (hkeys : (m.resources.map Resource.key).Nodup) (type : String) :
    (m.resourcesOfType type).Pairwise fun r r' => r.name < r'.name := by
  have hsorted : (m.resourcesOfType type).Pairwise fun r r' => r.name ≤ r'.name :=
    pairwise_mergeSort_le Resource.name (m.resources.filter (·.type == type))
  -- The sort puts names in order; that none stands twice comes from the different keys.
  have hnames : ((m.resourcesOfType type).map Resource.name).Nodup :=
    ((perm_resourcesOfType m type).map _).nodup_iff.2 (nodup_names_of_type hkeys type)
  rw [List.Nodup, List.pairwise_map] at hnames
  exact hsorted.imp₂ (fun r r' hle hne =>
    String.not_le.1 fun hge => hne (String.le_antisymm hle hge)) hnames

/-- The labels of the listed resources are those of the blocks whose first label is the type. -/
theorem perm_labels_resourcesOfType {blocks : List Block}
    (h : List.Forall₂ Block.Declares blocks m.resources) (type : String) :
    ((m.resourcesOfType type).map fun r => [r.type, r.name]).Perm
      ((blocks.map Block.labels).filter (·.head? == some type)) := by
  rw [map_labels_eq h, List.filter_map]
  exact (perm_resourcesOfType m type).map _

end Module

namespace Inventory

variable {d : Disk} {registry : Registry} {directory : String} {i : Inventory}

/-! ## Answers of a loaded inventory -/

/-- The inventory of a directory holds its module and the registry. -/
theorem load_eq_ok (h : load d registry directory = .ok i) :
    Module.load d directory = .ok i.module ∧ i.registry = registry := by
  rw [← Module.loadCached_map_fst]
  obtain ⟨loaded, hloaded, rfl⟩ := map_eq_ok_iff.1 h
  rw [hloaded]
  exact ⟨rfl, rfl⟩

/-- A directory that has a module has an inventory with it. -/
theorem exists_load {m : Module} (h : Module.load d directory = .ok m) (registry : Registry) :
    ∃ i, load d registry directory = .ok i ∧ i.module = m := by
  rw [← Module.loadCached_map_fst] at h
  obtain ⟨loaded, hloaded, hm⟩ := map_eq_ok_iff.1 h
  rw [load, hloaded]
  exact ⟨_, rfl, hm⟩

/-- For each resource there is a written block that alone declares it in its file. Whatever is on
the disk later and whatever has been asked before, the cells are made from this block, and asking
for them changes nothing. -/
theorem exists_block (h : load d registry directory = .ok i) {r : Resource}
    (hr : r ∈ i.module.resources) :
    ∃ b ∈ Module.writtenResources d directory,
      Module.SoleDeclaration d b r ∧ r.file ∈ Module.configFiles d directory ∧
        ∀ d' i', i.Extends i' → ∀ names,
          i'.cells d' r names = (r.resolve b names i.registry i.module.required, i') := by
  have hloaded : Ensures (fun i : Inventory =>
      i.module.Declared ((Module.configFiles d directory).flatMap d.resourceBlocks) ∧
        ∀ path ∈ Module.configFiles d directory, Module.Held d i.cache path)
      (load d registry directory) :=
    .map (Module.ensures_loadCached d directory) fun _ h => h
  obtain ⟨hdeclared, hheld⟩ := hloaded i h
  obtain ⟨b, hb, hdeclares⟩ := hdeclared.exists_declares hr
  obtain ⟨hsole, hfile⟩ := hdeclared.soleDeclaration hheld hb hdeclares
  refine ⟨b, ?_, hsole, hfile, fun d' i' hextends names => ?_⟩
  · obtain ⟨path, hpath, hmem⟩ := List.mem_flatMap.1 hb
    obtain ⟨body, content, -, hread, hcontent⟩ := hheld path hpath
    refine List.mem_flatMap.2 ⟨path, hpath, ?_⟩
    -- The inventory knows the block from decoding the file, which finds the written ones.
    have hwritten : content.blocksOfType "resource" = body.blocks "resource" 2 :=
      body.ensures_resourceBlocks content hcontent
    simp only [Disk.resourceBlocks, hread, Body.resourceBlocks, hcontent] at hmem
    simp only [hread]
    rwa [← hwritten]
  · obtain ⟨body, content, hfind, hread, -⟩ := hheld r.file hfile
    rw [cells, block_of_find? (hextends.cache r.file body hfind), hsole.blockIn_eq hread]
    simp only [hextends.registry, hextends.module]

/-- The row that the cells of a resource make. -/
def rowWith (r : Resource) (cells : Except ResolveError (List (String × Cell))) :
    Except (Resource × ResolveError) Row :=
  (cells.map fun cells => ⟨r.name, r.file, r.line, cells⟩).mapError fun e => (r, e)

section RowWith

variable {r : Resource} {x : Except ResolveError (List (String × Cell))}

theorem rowWith_eq_ok_iff {row : Row} :
    rowWith r x = .ok row ↔ ∃ cells, x = .ok cells ∧ ⟨r.name, r.file, r.line, cells⟩ = row := by
  cases x <;> simp [rowWith, Except.map, Except.mapError]

theorem rowWith_eq_error_iff {e : Resource × ResolveError} :
    rowWith r x = .error e ↔ ∃ e', x = .error e' ∧ (r, e') = e := by
  cases x <;> simp [rowWith, Except.map, Except.mapError]

end RowWith

theorem row_eq (i : Inventory) (d : Disk) (r : Resource) (names : List String) :
    i.row d r names = (rowWith r (i.cells d r names).1, (i.cells d r names).2) := by
  unfold row rowWith
  split <;> next heq =>
    rw [heq]
    rfl

/-- Where asking for cells changes nothing, rows are made one after the other. -/
theorem rowsOf_eq {d : Disk} {i : Inventory} {names : List String} {resources : List Resource}
    {f : Resource → Except ResolveError (List (String × Cell))}
    (h : ∀ r ∈ resources, i.cells d r names = (f r, i)) :
    rowsOf d names i resources = (resources.mapM fun r => rowWith r (f r), i) := by
  induction resources with
  | nil => rfl
  | cons r rest ih =>
    obtain ⟨hr, hrest⟩ := List.forall_mem_cons.1 h
    rw [rowsOf, row_eq, hr, List.mapM_cons]
    cases rowWith r (f r) with
    | error e => rfl
    | ok row =>
      simp only [ih hrest]
      cases rest.mapM fun r => rowWith r (f r) <;> rfl

/-- The rows of a type are made from the cells that the resources had at first, whatever is on the
disk later and whatever has been asked before. -/
theorem rows_eq (h : load d registry directory = .ok i) {d' : Disk} {i' : Inventory}
    (hextends : i.Extends i') (type : String) (names : List String) :
    rows d' i' type names =
      ((i.module.resourcesOfType type).mapM fun r => rowWith r (i.cells d r names).1, i') := by
  rw [rows, hextends.module]
  refine rowsOf_eq fun r hr => ?_
  obtain ⟨b, -, -, -, hcells⟩ := exists_block h (Module.mem_of_mem_resourcesOfType hr)
  rw [hcells d' i' hextends names, hcells d i .refl names]

/-- In a loaded directory, whatever is on the disk later and whatever has been asked before: the
resources of a type are listed in strict order of their names, and are those that the `resource`
blocks with the type as first label declare. Asking for their rows gives one row for each of them in
this order, or the error of the first one that fails. -/
theorem rows_in_order (h : load d registry directory = .ok i) (type : String) :
    (i.module.resourcesOfType type).Pairwise (fun r r' => r.name < r'.name) ∧
      ((i.module.resourcesOfType type).map fun r => [r.type, r.name]).Perm
        (((Module.writtenResources d directory).map Block.labels).filter (·.head? == some type)) ∧
      ∀ d' i' names, Relation.ReflTransGen Step (d, i) (d', i') →
        (∃ rows, (Inventory.rows d' i' type names).1 = .ok rows ∧
            List.Forall₂ (fun r (row : Row) => (i.cells d r names).1 = .ok row.cells ∧
              row.name = r.name ∧ row.file = r.file ∧ row.line = r.line)
              (i.module.resourcesOfType type) rows) ∨
          ∃ before r after e, i.module.resourcesOfType type = before ++ r :: after ∧
            (∀ r' ∈ before, ∃ cells, (i.cells d r' names).1 = .ok cells) ∧
            (i.cells d r names).1 = .error e ∧
            (Inventory.rows d' i' type names).1 = .error (r, e) := by
  have hload := (load_eq_ok h).1
  refine ⟨Module.pairwise_resourcesOfType (Module.distinct_of_load hload).keys type,
    Module.perm_labels_resourcesOfType (Module.declares_of_load hload) type,
    fun d' i' names hsteps => ?_⟩
  -- What has happened since loading changes no cell, so the rows are made as if nothing had.
  rw [rows_eq h (extends_of_steps hsteps)]
  rcases mapM_cases (fun r => rowWith r (i.cells d r names).1) (i.module.resourcesOfType type) with
    ⟨rows, hrows, hall⟩ | ⟨before, r, after, e, hlist, hbefore, hr, he⟩
  · refine .inl ⟨rows, hrows, hall.imp fun r row hrow => ?_⟩
    obtain ⟨cells, hcells, rfl⟩ := rowWith_eq_ok_iff.1 hrow
    exact ⟨hcells, rfl, rfl, rfl⟩
  · obtain ⟨e', he', rfl⟩ := rowWith_eq_error_iff.1 hr
    refine .inr ⟨before, r, after, e', hlist, fun r' hr' => ?_, he', he⟩
    obtain ⟨row, hrow⟩ := hbefore r' hr'
    obtain ⟨cells, hcells, -⟩ := rowWith_eq_ok_iff.1 hrow
    exact ⟨cells, hcells⟩

/-- Two resources of one type in files of different notations, listed against the order of the
files. -/
theorem rows_in_order_mixed :
    let native := "resource \"t\" \"n\" \x7b\x7d\n"
    let json := "\x7b\"resource\": \x7b\"t\": \x7b\"k\": \x7b\x7d\x7d\x7d\x7d"
    let d : Disk := ⟨[], [(["m"], .directory), (["m", "a.tf"], .file native.toUTF8),
      (["m", "b.tf.json"], .file json.toUTF8)]⟩
    ∃ i, load d default "m" = .ok i ∧
      (i.module.resourcesOfType "t").Pairwise (fun r r' => r.name < r'.name) ∧
      ((i.module.resourcesOfType "t").map fun r => [r.type, r.name]).Perm
        [["t", "n"], ["t", "k"]] := by
  intro native json d
  have hfiles : Module.configFiles d "m" = ["m/a.tf", "m/b.tf.json"] := by
    rw [Module.configFiles_of_pairwise (by decide +kernel)]
    decide +kernel
  -- Loading is evaluated for there to be a module, and no row is.
  have hload : ∃ m, Module.load d "m" = .ok m := by
    refine ⟨⟨"m", [⟨"t", "n", "m/a.tf", 1, ⟨"t", none⟩⟩, ⟨"t", "k", "m/b.tf.json", 1, ⟨"t", none⟩⟩],
      []⟩, ?_⟩
    rw [Module.load, Module.loadWith, hfiles]
    decide +kernel
  have hlabels : ((Module.writtenResources d "m").map Block.labels).filter (·.head? == some "t") =
      [["t", "n"], ["t", "k"]] := by
    rw [Module.writtenResources, hfiles]
    decide +kernel
  obtain ⟨m, hm⟩ := hload
  obtain ⟨i, hi, -⟩ := exists_load hm default
  obtain ⟨hsorted, hlisted, -⟩ := rows_in_order hi "t"
  rw [hlabels] at hlisted
  exact ⟨i, hi, hsorted, hlisted⟩

end Inventory

end ResourceTables
