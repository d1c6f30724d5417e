import Mathlib.Data.List.Sort
import ResourceTables.Proofs.Inventory.Rows

/-!
# Directories with more in them

A directory gets further entries while the files that it has stay as they are. Entries that are no
configuration files of the module make no difference, and further configuration files only add to
the module: they can make it fail to load, but not change what is known of the resources it had.

* `Disk.Grows`: a directory holds on one disk what it holds on another one, and more;
* `Module.configFiles_sublist`: its configuration files are then among the new ones, in order;
* `Contribution.PartOf`: so is what they contribute;
* `Resource.resolve_of_partOf`: more required providers do not change cells;
* `Module.load_of_grows`: growing is conservative.
-/

namespace ResourceTables

/-! ## Configuration files -/

namespace Disk

variable {d d' : Disk} {path : String}

theorem isFile_iff : d.isFile path = true ↔ ∃ bytes, d.read path = .ok bytes := by
  unfold isFile find? read
  cases d.place path with
  | error fault => exact ⟨nofun, nofun⟩
  | ok place =>
    simp only [bind, Except.bind]
    rcases d.at? place with _ | _ | bytes
    · exact ⟨nofun, nofun⟩
    · exact ⟨nofun, nofun⟩
    · exact ⟨fun _ => ⟨bytes, rfl⟩, fun _ => rfl⟩

/-- What a configuration file is read as depends on its bytes only. -/
theorem readConfig_congr (h : d'.read path = d.read path) :
    d'.readConfig path = d.readConfig path := by
  simp only [readConfig, readText, h]

/-- The names of the files in a directory. -/
def fileNames (d : Disk) (directory : String) : List String :=
  (d.names directory).filter fun name => d.isFile (Path.join directory name)

/-- The second disk has in the directory all files that the first one has, with the same bytes, and
further entries. -/
structure Grows (d d' : Disk) (directory : String) (more : List String) : Prop where
  /-- The directory is there at first. -/
  isDirectory : d.isDirectory directory = true
  /-- It is there later. -/
  isDirectory' : d'.isDirectory directory = true
  /-- The further entries stand beside the files. -/
  names : (d'.names directory).Perm (d.fileNames directory ++ more)
  /-- The files have the same bytes. -/
  read : ∀ name ∈ d.fileNames directory,
    d'.read (Path.join directory name) = d.read (Path.join directory name)

end Disk

namespace Module

/-- Whether a name in a directory is that of a configuration file of its module. -/
def isPrimary (d : Disk) (directory name : String) : Bool :=
  FileName.isConfig name && !FileName.isOverride name && d.isFile (Path.join directory name)

/-- The names of the configuration files, in order. -/
def primaryNames (d : Disk) (directory : String) : List String :=
  ((d.names directory).mergeSort fun a b => a ≤ b).filter (isPrimary d directory)

theorem configFiles_eq (d : Disk) (directory : String) :
    configFiles d directory = (primaryNames d directory).map (Path.join directory) :=
  rfl

theorem pairwise_primaryNames (d : Disk) (directory : String) :
    (primaryNames d directory).Pairwise (· ≤ ·) :=
  (pairwise_mergeSort_le id (d.names directory)).filter _

theorem perm_primaryNames (d : Disk) (directory : String) :
    (primaryNames d directory).Perm ((d.names directory).filter (isPrimary d directory)) :=
  (List.mergeSort_perm ..).filter _

section Grows

variable {d d' : Disk} {directory : String} {more : List String}

/-- The configuration files stay configuration files; what else there is later is among the further
entries. -/
theorem perm_primaryNames_of_grows (h : d.Grows d' directory more) :
    (primaryNames d' directory).Perm
      (primaryNames d directory ++ more.filter (isPrimary d' directory)) := by
  have hkept : (d.fileNames directory).filter (isPrimary d' directory) =
      (d.names directory).filter (isPrimary d directory) := by
    rw [Disk.fileNames, List.filter_filter]
    refine List.filter_congr fun name hname => ?_
    -- A name that stood for a file still does, since the same bytes can be read under it.
    cases hfile : d.isFile (Path.join directory name) with
    | false => simp [isPrimary, hfile]
    | true =>
      obtain ⟨bytes, hbytes⟩ := Disk.isFile_iff.1 hfile
      have hfile' : d'.isFile (Path.join directory name) = true := by
        refine Disk.isFile_iff.2 ⟨bytes, ?_⟩
        rw [h.read name (List.mem_filter.2 ⟨hname, hfile⟩), hbytes]
      simp [isPrimary, hfile, hfile']
  refine (perm_primaryNames d' directory).trans ?_
  refine (h.names.filter _).trans ?_
  rw [List.filter_append, hkept]
  exact (perm_primaryNames d directory).symm.append_right _

/-- The configuration files are among the later ones, in order. -/
theorem configFiles_sublist (h : d.Grows d' directory more) :
    (configFiles d directory).Sublist (configFiles d' directory) := by
  have hsubperm : (primaryNames d directory).Subperm (primaryNames d' directory) :=
    (List.sublist_append_left ..).subperm.trans (perm_primaryNames_of_grows h).symm.subperm
  rw [configFiles_eq, configFiles_eq]
  exact (List.sublist_of_subperm_of_pairwise hsubperm (pairwise_primaryNames d directory)
    (pairwise_primaryNames d' directory)).map _

/-- If no further entry is a configuration file, the configuration files are the same. -/
theorem configFiles_of_grows (h : d.Grows d' directory more)
    (hmore : ∀ name ∈ more, isPrimary d' directory name = false) :
    configFiles d' directory = configFiles d directory := by
  have hnone : more.filter (isPrimary d' directory) = [] :=
    List.filter_eq_nil_iff.2 fun name hname => by simp [hmore name hname]
  have hperm := perm_primaryNames_of_grows h
  rw [hnone, List.append_nil] at hperm
  rw [configFiles_eq, configFiles_eq, hperm.eq_of_pairwise' (pairwise_primaryNames d' directory)
    (pairwise_primaryNames d directory)]

/-- The configuration files are read as they were. -/
theorem readConfig_of_grows (h : d.Grows d' directory more) {path : String}
    (hpath : path ∈ configFiles d directory) : d'.readConfig path = d.readConfig path := by
  rw [configFiles_eq] at hpath
  obtain ⟨name, hname, rfl⟩ := List.mem_map.1 hpath
  obtain ⟨hmem, hprimary⟩ := List.mem_filter.1 ((perm_primaryNames d directory).mem_iff.1 hname)
  have hfile : d.isFile (Path.join directory name) = true := by
    rw [isPrimary, Bool.and_eq_true] at hprimary
    exact hprimary.2
  exact Disk.readConfig_congr (h.read name (List.mem_filter.2 ⟨hmem, hfile⟩))

end Grows

end Module

/-! ## What the files contribute -/

/-- What the first contribution holds is in the second one, in order. -/
structure Contribution.PartOf (c c' : Contribution) : Prop where
  /-- So it is for the resources. -/
  resources : c.resources.Sublist c'.resources
  /-- So it is for the required providers. -/
  required : c.required.Sublist c'.required

/-- What is declared once in all is declared once in a part. -/
theorem Contribution.Distinct.of_partOf {c c' : Contribution} (h : c'.Distinct)
    (hpart : c.PartOf c') : c.Distinct :=
  ⟨h.keys.sublist (hpart.resources.map _), h.names.sublist (hpart.required.map _)⟩

section Collect

variable {f g : α → Except LoadError Contribution} {as as' : List α} {c c' : Contribution}

theorem collect_congr (h : ∀ a ∈ as, f a = g a) : collect f as = collect g as := by
  induction as with
  | nil => rfl
  | cons a as ih =>
    obtain ⟨ha, has⟩ := List.forall_mem_cons.1 h
    rw [collect, collect, ha, ih has]

/-- Some elements of a list contribute a part of what all of them do. -/
theorem collect_sublist (h : as.Sublist as') (hc' : collect f as' = .ok c') :
    ∃ c, collect f as = .ok c ∧ c.PartOf c' := by
  -- An element of the longer list alone contributes in front of what the part is found in.
  induction h generalizing c' with
  | slnil => exact ⟨c', hc', .refl _, .refl _⟩
  | cons a _ ih =>
    obtain ⟨b, b', -, hb', rfl⟩ := collect_cons_eq_ok_iff.1 hc'
    obtain ⟨c, hc, hpart⟩ := ih hb'
    refine ⟨c, hc, ?_, ?_⟩
    · exact hpart.resources.trans (List.sublist_append_right ..)
    · exact hpart.required.trans (List.sublist_append_right ..)
  | cons_cons a _ ih =>
    obtain ⟨b, b', hb, hb', rfl⟩ := collect_cons_eq_ok_iff.1 hc'
    obtain ⟨c, hc, hpart⟩ := ih hb'
    refine ⟨b ++ c, collect_cons_eq_ok_iff.2 ⟨b, c, hb, hc, rfl⟩, ?_, ?_⟩
    · exact hpart.resources.append_left _
    · exact hpart.required.append_left _

/-- Each collected resource is contributed by an element. -/
theorem mem_resources_of_collect (hc : collect f as = .ok c) {r : Resource} :
    r ∈ c.resources ↔ ∃ a ∈ as, ∃ b, f a = .ok b ∧ r ∈ b.resources := by
  induction as generalizing c with
  | nil =>
    cases hc
    simp
  | cons a as ih =>
    obtain ⟨b, b', hb, hb', rfl⟩ := collect_cons_eq_ok_iff.1 hc
    rw [Contribution.resources_append, List.mem_append, ih hb']
    simp [hb]

end Collect

/-- A resource that a file contributes has its place in the file. -/
theorem Disk.file_of_mem_contribution {d : Disk} {path : String} {c : Contribution}
    (hc : d.fileContribution path = .ok c) {r : Resource} (hr : r ∈ c.resources) :
    r.file = path := by
  obtain ⟨body, -, hdeclares⟩ := d.ensures_fileContribution path c hc
  obtain ⟨b, -, hb⟩ := exists_of_forall₂ hdeclares hr
  exact hb.2

/-- A part of a list without repetitions is the list cut down to the elements of the part. -/
theorem eq_filter_of_sublist {l l' : List α} (h : l.Sublist l') (hnodup : l'.Nodup) {p : α → Bool}
    (hp : ∀ a ∈ l', p a = true ↔ a ∈ l) : l = l'.filter p := by
  -- Both are parts of one list in its order, so they only have to hold the same elements.
  refine (hnodup.perm_iff_eq_of_sublist h List.filter_sublist).1 ?_
  refine (List.perm_ext_iff_of_nodup (hnodup.sublist h) (hnodup.filter p)).2 fun a => ?_
  rw [List.mem_filter]
  exact ⟨fun ha => ⟨h.subset ha, (hp a (h.subset ha)).2 ha⟩, fun ⟨ha, hpa⟩ => (hp a ha).1 hpa⟩

/-! ## Cells -/

/-- Cells that a resource has stay the same with more required providers. -/
theorem Resource.resolve_of_partOf {r : Resource} {b : Block} {names : List String}
    {registry : Registry} {c c' : Contribution} (hpart : c.PartOf c') (hdistinct : c'.Distinct)
    {cells : List (String × Cell)} (hcells : r.resolve b names registry c.required = .ok cells) :
    r.resolve b names registry c'.required = .ok cells := by
  obtain ⟨schema, hschema, -⟩ := bind_eq_ok_iff.1 hcells
  obtain ⟨address, haddress, -⟩ := bind_eq_ok_iff.1 hschema
  -- The provider has a source among the fewer requirements, which is the one among all of them.
  have hsame : r.providerAddress c'.required = r.providerAddress c.required := by
    unfold providerAddress at haddress ⊢
    cases hlookup : c.required.lookup r.provider.name with
    | none =>
      rw [hlookup] at haddress
      cases haddress
    | some p =>
      have hmem := hpart.required.subset
        ((Contribution.lookup_eq_some_iff_mem (hdistinct.of_partOf hpart).names).1 hlookup)
      rw [(Contribution.lookup_eq_some_iff_mem hdistinct.names).2 hmem]
  rw [← hcells]
  simp only [resolve, typeSchema, hsame]

/-! ## Growing -/

/-- Steps that are the same for all elements of a list are the same one after the other. -/
theorem foldlM_congr {f g : β → α → Except ε β} {as : List α} (h : ∀ b, ∀ a ∈ as, f b a = g b a)
    (b : β) : as.foldlM f b = as.foldlM g b := by
  induction as generalizing b with
  | nil => rfl
  | cons a as ih =>
    rw [List.foldlM_cons, List.foldlM_cons, h b a List.mem_cons_self]
    exact congrArg _ (funext (ih fun b a' ha' => h b a' (List.mem_cons_of_mem a ha')))

namespace Module

variable {d d' : Disk} {directory : String} {more : List String}

/-- A directory that can be loaded with more in it can be loaded without, and its resources are
those that its own files declare. -/
theorem contribution_of_grows (h : d.Grows d' directory more) {c' : Contribution}
    (hc' : d'.contribution directory = .ok c') (hdistinct : c'.Distinct) :
    ∃ c, d.contribution directory = .ok c ∧ c.PartOf c' ∧
      c.resources = c'.resources.filter fun r => r.file ∈ configFiles d directory := by
  rw [contribution_of_isDirectory h.isDirectory'] at hc'
  obtain ⟨c, hc, hpart⟩ := collect_sublist (configFiles_sublist h) hc'
  have hsame : collect d.fileContribution (configFiles d directory) =
      collect d'.fileContribution (configFiles d directory) := by
    refine collect_congr fun path hpath => ?_
    rw [Disk.fileContribution, Disk.fileContribution, readConfig_of_grows h hpath]
  refine ⟨c, ?_, hpart, ?_⟩
  · rw [contribution_of_isDirectory h.isDirectory, hsame, hc]
  -- A resource has its place in the file that contributes it, and this file is read as it was.
  · refine eq_filter_of_sublist hpart.resources hdistinct.keys.of_map fun r hr => ?_
    rw [decide_eq_true_iff]
    constructor
    · intro hfile
      obtain ⟨path, hpath, b, hb, hmem⟩ := (mem_resources_of_collect hc').1 hr
      rw [Disk.file_of_mem_contribution hb hmem] at hfile
      exact (mem_resources_of_collect hc).2 ⟨path, hfile, b, hb, hmem⟩
    · intro hmem
      obtain ⟨path, hpath, b, hb, hrb⟩ := (mem_resources_of_collect hc).1 hmem
      rw [Disk.file_of_mem_contribution hb hrb]
      exact hpath

/-- The block that declares a resource stays the one that is found for it. -/
theorem SoleDeclaration.eq_of_grows (h : d.Grows d' directory more) {b b' : Block} {r : Resource}
    (hfile : r.file ∈ configFiles d directory) (hb : SoleDeclaration d b r)
    (hb' : SoleDeclaration d' b' r) : b' = b := by
  obtain ⟨body, -, hread, -⟩ := hb.sole
  have hread' : d'.readConfig r.file = .ok body := by
    rw [readConfig_of_grows h hfile, hread]
  have hblock := hb'.blockIn_eq hread'
  rw [hb.blockIn_eq hread] at hblock
  exact (Except.ok.inj hblock).symm

/-- A directory gets further entries beside its files.

If none of them is a configuration file, because its name is not one or overrides others, or because
no file stands there, the directory is loaded as before, with the same module or the same error.

If the directory can be loaded with them, it can be loaded without. Its resources are then those
that its own files declare, its required providers are among those that are required with the
further entries, and each of its resources keeps the cells that it has, whatever is asked in
between. -/
theorem load_of_grows (h : d.Grows d' directory more) :
    ((∀ name ∈ more, FileName.isConfig name = false ∨ FileName.isOverride name = true ∨
        d'.isFile (Path.join directory name) = false) →
      load d' directory = load d directory) ∧
    ∀ m', load d' directory = .ok m' →
      ∃ m, load d directory = .ok m ∧
        m.resources = m'.resources.filter (fun r => r.file ∈ configFiles d directory) ∧
        m.required.Sublist m'.required ∧
        ∀ registry, ∃ i i', Inventory.load d registry directory = .ok i ∧
          Inventory.load d' registry directory = .ok i' ∧
          ∀ r ∈ m.resources, ∀ names cells, (i.cells d r names).1 = .ok cells →
            ∀ e j, Relation.ReflTransGen Inventory.Step (d', i') (e, j) →
              (j.cells e r names).1 = .ok cells := by
  constructor
  · intro hmore
    have hfiles : configFiles d' directory = configFiles d directory := by
      refine configFiles_of_grows h fun name hname => ?_
      rcases hmore name hname with hname | hname | hname <;> simp [isPrimary, hname]
    rw [load_eq h.isDirectory', load_eq h.isDirectory, hfiles]
    refine foldlM_congr (fun m path hpath => ?_) _
    rw [readConfig_of_grows h hpath]
  · intro m' hm'
    obtain ⟨c', hc', hdistinct, rfl⟩ := load_eq_ok_iff.1 hm'
    obtain ⟨c, hc, hpart, hresources⟩ := contribution_of_grows h hc' hdistinct
    have hm := load_eq_ok_iff.2 ⟨c, hc, hdistinct.of_partOf hpart, rfl⟩
    refine ⟨_, hm, hresources, hpart.required, fun registry => ?_⟩
    obtain ⟨i, hi, hmodule⟩ := Inventory.exists_load hm registry
    obtain ⟨i', hi', hmodule'⟩ := Inventory.exists_load hm' registry
    refine ⟨i, i', hi, hi', fun r hr names cells hcells e j hsteps => ?_⟩
    have hmem : r ∈ i.module.resources := by
      rw [hmodule]
      exact hr
    have hmem' : r ∈ i'.module.resources := by
      rw [hmodule']
      exact hpart.resources.subset hr
    -- Both inventories make the cells from one block, with one registry.
    obtain ⟨b, -, hb, hfile, hanswer⟩ := Inventory.exists_block hi hmem
    obtain ⟨b', -, hb', -, hanswer'⟩ := Inventory.exists_block hi' hmem'
    rw [hb.eq_of_grows h hfile hb'] at hanswer'
    rw [hanswer d i .refl, (Inventory.load_eq_ok hi).2, hmodule] at hcells
    rw [hanswer' e j (Inventory.extends_of_steps hsteps), (Inventory.load_eq_ok hi').2, hmodule']
    exact Resource.resolve_of_partOf hpart hdistinct hcells

/-- A directory with one resource gets a file that overrides others and a directory with the name of
a configuration file, and then a file with another resource. -/
theorem load_of_grows_beside :
    let text := "resource \"t\" \"n\" \x7b\x7d\n"
    let other := "resource \"t\" \"k\" \x7b\x7d\n"
    let entries := [(["m"], DiskEntry.directory), (["m", "a.tf"], .file text.toUTF8),
      (["m", "a_override.tf"], .file other.toUTF8), (["m", "b.tf"], .directory),
      (["m", "c.tf"], .file other.toUTF8)]
    let d : Disk := ⟨[], entries.take 2⟩
    d.Grows ⟨[], entries.take 4⟩ "m" ["a_override.tf", "b.tf"] ∧
      load ⟨[], entries.take 4⟩ "m" = load d "m" ∧
      d.Grows ⟨[], entries⟩ "m" ["a_override.tf", "b.tf", "c.tf"] ∧
      (∃ m', load ⟨[], entries⟩ "m" = .ok m' ∧ m'.resources.map Resource.name = ["n", "k"]) ∧
      ∃ m, load d "m" = .ok m ∧ m.resources.map Resource.name = ["n"] := by
  intro text other entries d
  have hfiles : d.fileNames "m" = ["a.tf"] := by decide +kernel
  have haside : d.Grows ⟨[], entries.take 4⟩ "m" ["a_override.tf", "b.tf"] := by
    refine ⟨by decide +kernel, by decide +kernel, by decide +kernel, ?_⟩
    rw [hfiles]
    decide +kernel
  have hbeside : d.Grows ⟨[], entries⟩ "m" ["a_override.tf", "b.tf", "c.tf"] := by
    refine ⟨by decide +kernel, by decide +kernel, by decide +kernel, ?_⟩
    rw [hfiles]
    decide +kernel
  let m' : Module := ⟨"m", [⟨"t", "n", "m/a.tf", 1, ⟨"t", none⟩⟩,
    ⟨"t", "k", "m/c.tf", 1, ⟨"t", none⟩⟩], []⟩
  have hload : load ⟨[], entries⟩ "m" = .ok m' := by
    rw [load, loadWith, configFiles_of_pairwise (by decide +kernel)]
    decide +kernel
  obtain ⟨m, hm, hresources, -⟩ := (load_of_grows hbeside).2 m' hload
  -- The two new names add no configuration file, so the files are the same.
  have hsame := (load_of_grows haside).1 (by decide +kernel)
  refine ⟨haside, hsame, hbeside, ⟨m', hload, rfl⟩, m, hm, ?_⟩
  rw [hresources, configFiles_of_pairwise (by decide +kernel)]
  decide +kernel

end Module

end ResourceTables
