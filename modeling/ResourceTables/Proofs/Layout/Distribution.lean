import Mathlib.Data.List.Nodup
import ResourceTables.Proofs.Inventory.Rows
import ResourceTables.Proofs.Layout.Items

/-!
# Declarations in any order and in any files

A module is what its items declare. In which files the items stand and in which order makes no
difference to anyone who asks.

* `Disk.HoldsItems`: the configuration files of a directory are native and hold the items of a list,
  file after file;
* `Disk.HoldsItems.contribution_eq_ok_iff`: the directory contributes what its items do;
* `Block.unplaced_eq_of_perm`: the blocks of a resource in two directories are the same up to their
  places;
* `Module.exists_load_of_perm`: with the same items, in any order and up to their places, another
  directory is loaded too, with the same resources and the same required providers;
* `Inventory.agree_of_perm`: and then both give the same rows, whatever is asked.
-/

namespace ResourceTables

/-- The configuration files of the directory are native files that can be read, and hold the items
of the list, file after file. -/
structure Disk.HoldsItems (d : Disk) (directory : String) (items : List Item) : Prop where
  /-- The directory is there. -/
  isDirectory : d.isDirectory directory = true
  /-- Each of its files has some of the items. -/
  bodies : ∃ bodies : List (List Item), bodies.flatten = items ∧
    List.Forall₂ (fun path items => d.readConfig path = .ok (.native items))
      (Module.configFiles d directory) bodies

namespace Disk.HoldsItems

variable {d : Disk} {directory : String} {items : List Item}

/-- The directory contributes what its items do, one after the other. -/
theorem contribution_eq_ok_iff (h : d.HoldsItems directory items) {c : Contribution} :
    d.contribution directory = .ok c ↔ collect Item.contribution items = .ok c := by
  obtain ⟨bodies, rfl, hbodies⟩ := h.bodies
  rw [Module.contribution_of_isDirectory h.isDirectory]
  clear h
  generalize Module.configFiles d directory = paths at hbodies ⊢
  induction hbodies generalizing c with
  | nil => rfl
  | @cons path items _ _ hread _ ih =>
    have hfile : d.fileContribution path = (Body.native items).contribution := by
      rw [fileContribution, hread]
      rfl
    rw [collect_cons_eq_ok_iff, List.flatten_cons, collect_append_eq_ok_iff, hfile]
    simp only [ih, Body.contribution_eq_ok_iff]

/-- The `resource` blocks of the directory are those among its items. -/
theorem writtenResources_eq (h : d.HoldsItems directory items) :
    Module.writtenResources d directory = items.filterMap (Item.block? "resource") := by
  obtain ⟨bodies, rfl, hbodies⟩ := h.bodies
  unfold Module.writtenResources
  clear h
  generalize Module.configFiles d directory = paths at hbodies ⊢
  induction hbodies with
  | nil => rfl
  | cons hread _ ih =>
    rw [List.flatMap_cons, ih, hread, List.flatten_cons, List.filterMap_append]
    rfl

end Disk.HoldsItems

/-! ## Loading -/

section Loading

variable {items items' : List Item} {c c' : Contribution}

/-- Items that are the same up to their places contribute the same, in any order. -/
theorem exists_collect_of_perm (hsame : (items.map Item.unplaced).Perm (items'.map Item.unplaced))
    (hc : collect Item.contribution items = .ok c) :
    ∃ c', collect Item.contribution items' = .ok c' ∧ c.unplaced.Perm c'.unplaced := by
  have hunplaced : ∀ items, SameResult (collect Item.contribution (items.map Item.unplaced))
      ((collect Item.contribution items).map Contribution.unplaced) :=
    fun items => agree_collect fun item _ => item.agree_contribution
  -- Only without their places are the items the same, so this is where they change their order.
  have hfirst := (hunplaced items).eq_ok_iff.2 (map_eq_ok_iff.2 ⟨c, hc, rfl⟩)
  obtain ⟨c₁, hc₁, hperm⟩ := collect_perm hsame hfirst
  obtain ⟨c', hc', rfl⟩ := map_eq_ok_iff.1 ((hunplaced items').eq_ok_iff.1 hc₁)
  exact ⟨c', hc', hperm⟩

/-- The keys of resources do not depend on their places. -/
theorem Contribution.map_key_unplaced (c : Contribution) :
    c.unplaced.resources.map Resource.key = c.resources.map Resource.key :=
  List.map_map ..

theorem Contribution.Distinct.of_perm (h : c.Distinct) (hperm : c.unplaced.Perm c'.unplaced) :
    c'.Distinct := by
  constructor
  · have hkeys := (hperm.resources.map Resource.key).nodup_iff.1
    rw [map_key_unplaced, map_key_unplaced] at hkeys
    exact hkeys h.keys
  · exact (hperm.required.map Prod.fst).nodup_iff.1 h.names

variable {d d' : Disk} {directory directory' : String}

/-- With the same items a directory is loaded too, with the same resources and required providers.
-/
theorem Module.exists_load_of_perm (h : d.HoldsItems directory items)
    (h' : d'.HoldsItems directory' items')
    (hsame : (items.map Item.unplaced).Perm (items'.map Item.unplaced)) {m : Module}
    (hm : load d directory = .ok m) :
    ∃ m', load d' directory' = .ok m' ∧ m.contribution.unplaced.Perm m'.contribution.unplaced := by
  obtain ⟨c, hc, hdistinct, rfl⟩ := load_eq_ok_iff.1 hm
  obtain ⟨c', hc', hperm⟩ := exists_collect_of_perm hsame (h.contribution_eq_ok_iff.1 hc)
  have hm' := load_eq_ok_iff.2
    ⟨c', h'.contribution_eq_ok_iff.2 hc', hdistinct.of_perm hperm, rfl⟩
  exact ⟨_, hm', hperm⟩

/-- The blocks of a loaded directory have different labels. -/
theorem Module.nodup_labels {m : Module} (hm : load d directory = .ok m) :
    ((writtenResources d directory).map Block.labels).Nodup := by
  have hkeys := (distinct_of_load hm).keys
  rw [map_labels_eq (declares_of_load hm), List.Nodup, List.pairwise_map]
  rw [List.Nodup, List.pairwise_map] at hkeys
  refine hkeys.imp fun hne heq => hne ?_
  simp only [List.cons.injEq, and_true] at heq
  rw [Resource.key, Resource.key, heq.1, heq.2]

end Loading

/-! ## Blocks -/

theorem Item.block?_unplaced (type : String) (item : Item) :
    item.unplaced.block? type = (item.block? type).map Block.unplaced := by
  cases item with
  | «attribute» a => rfl
  | block other labels pos items =>
    rw [unplaced, block?, block?, allUnplaced_eq_map]
    split <;> rfl

/-- Among items that are the same up to their places, blocks with the same labels are the same up to
their places, if no other blocks have these labels. -/
theorem Block.unplaced_eq_of_perm {items items' : List Item} {type : String}
    (hsame : (items.map Item.unplaced).Perm (items'.map Item.unplaced))
    (hlabels : ((items'.filterMap (Item.block? type)).map Block.labels).Nodup) {b b' : Block}
    (hb : b ∈ items.filterMap (Item.block? type)) (hb' : b' ∈ items'.filterMap (Item.block? type))
    (heq : b.labels = b'.labels) : b.unplaced = b'.unplaced := by
  have hblocks : ∀ items : List Item, (items.map Item.unplaced).filterMap (Item.block? type) =
      (items.filterMap (Item.block? type)).map Block.unplaced := by
    intro items
    rw [List.filterMap_map, List.map_filterMap]
    exact congrArg (List.filterMap · items) (funext (Item.block?_unplaced type))
  have hperm := hsame.filterMap (Item.block? type)
  rw [hblocks, hblocks] at hperm
  -- The counterpart of the first block has the labels of the second one, so it is the second one.
  obtain ⟨b'', hb'', hsame'⟩ := List.mem_map.1 (hperm.mem_iff.1 (List.mem_map_of_mem hb))
  have hlabels'' : b''.labels = b'.labels := by
    rw [← Block.labels_unplaced b'', hsame', Block.labels_unplaced, heq]
  rw [← List.inj_on_of_nodup_map hlabels hb'' hb' hlabels'', hsame']

/-! ## Rows -/

/-- The listings of both modules are the same up to places. -/
theorem Module.map_unplaced_resourcesOfType {m m' : Module}
    (hperm : m.contribution.unplaced.Perm m'.contribution.unplaced)
    (hkeys : (m.resources.map Resource.key).Nodup) (hkeys' : (m'.resources.map Resource.key).Nodup)
    (type : String) :
    (m.resourcesOfType type).map Resource.unplaced =
      (m'.resourcesOfType type).map Resource.unplaced := by
  have hlisted : ∀ m : Module, ((m.resourcesOfType type).map Resource.unplaced).Perm
      ((m.resources.map Resource.unplaced).filter (·.type == type)) := by
    intro m
    rw [List.filter_map]
    exact (perm_resourcesOfType m type).map _
  have hsorted : ∀ {m : Module}, (m.resources.map Resource.key).Nodup →
      ((m.resourcesOfType type).map Resource.unplaced).Pairwise fun r r' => r.name < r'.name := by
    intro m hkeys
    rw [List.pairwise_map]
    exact pairwise_resourcesOfType hkeys type
  -- The same resources can be listed in strict order in one way only.
  refine List.Perm.eq_of_pairwise (fun r r' _ _ hlt hgt => ?_) (hsorted hkeys) (hsorted hkeys') ?_
  · exact absurd (String.lt_trans hlt hgt) (String.lt_irrefl _)
  · exact (hlisted m).trans ((hperm.resources.filter _).trans (hlisted m').symm)

namespace Resource

/-- The cells depend on the resource and on the required providers through its schema only. -/
theorem resolve_congr {r r' : Resource} {registry : Registry}
    {required required' : List (String × RequiredProvider)}
    (h : r.typeSchema registry required = r'.typeSchema registry required') (b : Block)
    (names : List String) :
    r.resolve b names registry required = r'.resolve b names registry required' := by
  unfold resolve
  rw [h]

/-- Resources that are the same up to their places are declared alike. -/
theorem alike_of_unplaced_eq {r r' : Resource} (h : r.unplaced = r'.unplaced) : r.Alike r' := by
  obtain ⟨htype, hname, -, -, hprovider⟩ := Resource.mk.inj h
  exact ⟨htype, hname, hprovider⟩

/-- The schema is found by the type and the provider, in whatever order providers are required. -/
theorem typeSchema_of_perm {r r' : Resource} (h : r.Alike r') {c c' : Contribution}
    (hperm : c.unplaced.Perm c'.unplaced) (hdistinct : c.Distinct) (registry : Registry) :
    r.typeSchema registry c.required = r'.typeSchema registry c'.required := by
  have hlookup : ∀ name, c.required.lookup name = c'.required.lookup name := by
    intro name
    refine Option.ext fun p => ?_
    rw [Contribution.lookup_eq_some_iff_mem hdistinct.names,
      Contribution.lookup_eq_some_iff_mem (hdistinct.of_perm hperm).names]
    exact hperm.required.mem_iff
  rw [h.typeSchema_eq]
  simp only [typeSchema, providerAddress, hlookup]

end Resource

namespace Inventory

variable {d d' : Disk} {registry : Registry} {directory directory' : String}
  {items items' : List Item} {i i' : Inventory}

/-- Resources that are the same up to their places have the same cells, or none for a reason of the
same class. -/
theorem agree_cells (h : d.HoldsItems directory items) (h' : d'.HoldsItems directory' items')
    (hsame : (items.map Item.unplaced).Perm (items'.map Item.unplaced))
    (hi : load d registry directory = .ok i) (hi' : load d' registry directory' = .ok i')
    (hperm : i.module.contribution.unplaced.Perm i'.module.contribution.unplaced)
    {r r' : Resource} (hr : r ∈ i.module.resources) (hr' : r' ∈ i'.module.resources)
    (heq : r.unplaced = r'.unplaced) (names : List String) :
    Agree (i.cells d r names).1 (i'.cells d' r' names).1 := by
  have halike := Resource.alike_of_unplaced_eq heq
  obtain ⟨hmodule, hregistry⟩ := load_eq_ok hi
  obtain ⟨hmodule', hregistry'⟩ := load_eq_ok hi'
  obtain ⟨b, hb, hsole, -, hcells⟩ := exists_block hi hr
  obtain ⟨b', hb', hsole', -, hcells'⟩ := exists_block hi' hr'
  have hlabels' := Module.nodup_labels hmodule'
  rw [h.writtenResources_eq] at hb
  rw [h'.writtenResources_eq] at hb' hlabels'
  have hblocks : b.unplaced = b'.unplaced := by
    refine Block.unplaced_eq_of_perm hsame hlabels' hb hb' ?_
    rw [hsole.labels, hsole'.labels, halike.type, halike.name]
  have hschema : r.typeSchema registry i.module.required =
      r'.typeSchema registry i'.module.required :=
    Resource.typeSchema_of_perm halike hperm (Module.distinct_of_load hmodule) registry
  rw [hcells d i .refl, hcells' d' i' .refl, hregistry, hregistry', Resource.resolve_congr hschema]
  -- From one block to the other by way of the block that both are without their places.
  have hfirst := r'.agree_resolve_unplaced (Item.isNative_of_mem_filterMap hb) names registry
    i'.module.required
  have hsecond := r'.agree_resolve_unplaced (Item.isNative_of_mem_filterMap hb') names registry
    i'.module.required
  rw [hblocks] at hfirst
  exact hfirst.symm.trans hsecond

/-- What is made of each result can be made as soon as it is there. -/
theorem map_mapM (g : α → Except ε β) (u : β → γ) (as : List α) :
    (as.mapM g).map (List.map u) = as.mapM fun a => (g a).map u := by
  induction as with
  | nil => rfl
  | cons a as ih =>
    rw [List.mapM_cons, List.mapM_cons, ← ih]
    cases g a with
    | error e => rfl
    | ok b => cases as.mapM g <;> rfl

/-- Rows agree if the cells of the resources do, one after the other. -/
theorem agree_mapM_rowWith {f f' : Resource → Except ResolveError (List (String × Cell))}
    {rs rs' : List Resource}
    (h : List.Forall₂ (fun r r' => r.name = r'.name ∧ Agree (f r) (f' r')) rs rs') :
    AgreeUpTo (fun failure => (failure.1.name, failure.2.errorClass))
      ((rs.mapM fun r => rowWith r (f r)).map (List.map fun row => (row.name, row.cells)))
      ((rs'.mapM fun r => rowWith r (f' r)).map (List.map fun row => (row.name, row.cells))) := by
  rw [map_mapM, map_mapM]
  refine .mapM (h.imp fun r r' hr => ?_)
  obtain ⟨hname, hcells⟩ := hr
  rcases AgreeUpTo.cases hcells with ⟨cells, hf, hf'⟩ | ⟨e, e', hf, hf', hclass⟩
  · rw [hf, hf']
    exact congrArg (fun name => Except.ok (name, cells)) hname
  · rw [hf, hf']
    exact .error (Prod.ext hname hclass)

/-- Two directories have native configuration files whose items are the same up to their places, in
whatever files and whatever order they stand. If one of them can be loaded, so can the other. Both
modules then have the same resources and the same required providers. Whatever is asked in between,
the rows of a type are the same in both, by name and with the same cells, or asking for them fails
in both at a resource of the same name, for a reason of the same class. -/
theorem agree_of_perm (h : d.HoldsItems directory items) (h' : d'.HoldsItems directory' items')
    (hsame : (items.map Item.unplaced).Perm (items'.map Item.unplaced)) :
    ((∃ m, Module.load d directory = .ok m) ↔ ∃ m', Module.load d' directory' = .ok m') ∧
      ∀ m m', Module.load d directory = .ok m → Module.load d' directory' = .ok m' →
        (m.resources.map Resource.unplaced).Perm (m'.resources.map Resource.unplaced) ∧
          m.required.Perm m'.required ∧
          ∀ registry, ∃ i i', load d registry directory = .ok i ∧
            load d' registry directory' = .ok i' ∧
            ∀ e j e' j', Relation.ReflTransGen Step (d, i) (e, j) →
              Relation.ReflTransGen Step (d', i') (e', j') → ∀ type names,
                AgreeUpTo (fun failure => (failure.1.name, failure.2.errorClass))
                  ((rows e j type names).1.map (List.map fun row => (row.name, row.cells)))
                  ((rows e' j' type names).1.map (List.map fun row => (row.name, row.cells))) := by
  constructor
  · constructor
    · rintro ⟨m, hm⟩
      obtain ⟨m', hm', -⟩ := Module.exists_load_of_perm h h' hsame hm
      exact ⟨m', hm'⟩
    · rintro ⟨m', hm'⟩
      obtain ⟨m, hm, -⟩ := Module.exists_load_of_perm h' h hsame.symm hm'
      exact ⟨m, hm⟩
  · intro m m' hm hm'
    have hperm : m.contribution.unplaced.Perm m'.contribution.unplaced := by
      obtain ⟨m'', hm'', hperm⟩ := Module.exists_load_of_perm h h' hsame hm
      rw [hm'] at hm''
      cases hm''
      exact hperm
    refine ⟨hperm.resources, hperm.required, fun registry => ?_⟩
    obtain ⟨i, hi, rfl⟩ := exists_load hm registry
    obtain ⟨i', hi', rfl⟩ := exists_load hm' registry
    refine ⟨i, i', hi, hi', fun e j e' j' hsteps hsteps' type names => ?_⟩
    rw [rows_eq hi (extends_of_steps hsteps), rows_eq hi' (extends_of_steps hsteps')]
    have hlists := Module.map_unplaced_resourcesOfType hperm (Module.distinct_of_load hm).keys
      (Module.distinct_of_load hm').keys type
    -- Listings that are the same without places correspond index by index.
    rw [← List.forall₂_eq_eq_eq, List.forall₂_map_left_iff, List.forall₂_map_right_iff,
      List.forall₂_iff_get] at hlists
    obtain ⟨hlength, hall⟩ := hlists
    refine agree_mapM_rowWith (List.forall₂_iff_get.2 ⟨hlength, fun n hn hn' => ?_⟩)
    have heq := hall n hn hn'
    refine ⟨(Resource.alike_of_unplaced_eq heq).name, ?_⟩
    exact agree_cells h h' hsame hi hi' hperm
      (Module.mem_of_mem_resourcesOfType (List.get_mem ..))
      (Module.mem_of_mem_resourcesOfType (List.get_mem ..)) heq names

/-- Two resources of one file, and the same resources in two files against their order. -/
theorem agree_of_perm_split :
    let n := "resource \"t\" \"n\" \x7b\x7d\n"
    let k := "\nresource \"t\" \"k\" \x7b\x7d\n"
    let both := "resource \"t\" \"n\" \x7b\x7d\nresource \"t\" \"k\" \x7b\x7d\n"
    let d : Disk := ⟨[], [(["m"], .directory), (["m", "a.tf"], .file both.toUTF8)]⟩
    let d' : Disk := ⟨[], [(["m"], .directory), (["m", "b.tf"], .file k.toUTF8),
      (["m", "c.tf"], .file n.toUTF8)]⟩
    let item := fun name pos => Item.block "resource" ["t", name] pos []
    let items := [item "n" ⟨"m/a.tf", 1, 1⟩, item "k" ⟨"m/a.tf", 2, 1⟩]
    let items' := [item "k" ⟨"m/b.tf", 2, 1⟩, item "n" ⟨"m/c.tf", 1, 1⟩]
    d.HoldsItems "m" items ∧ d'.HoldsItems "m" items' ∧
      (items.map Item.unplaced).Perm (items'.map Item.unplaced) ∧
      (∃ m, Module.load d "m" = .ok m) ∧ ∃ m', Module.load d' "m" = .ok m' := by
  intro n k both d d' item items items'
  have hitems : d.HoldsItems "m" items := by
    have hfiles : Module.configFiles d "m" = ["m/a.tf"] := by
      rw [Module.configFiles_of_pairwise (by decide +kernel)]
      decide +kernel
    refine ⟨by decide +kernel, [items], List.append_nil _, ?_⟩
    rw [hfiles]
    refine .cons ?_ .nil
    dsimp only [d, both, items, item]
    rfl
  have hitems' : d'.HoldsItems "m" items' := by
    have hfiles : Module.configFiles d' "m" = ["m/b.tf", "m/c.tf"] := by
      rw [Module.configFiles_of_pairwise (by decide +kernel)]
      decide +kernel
    refine ⟨by decide +kernel, items'.map fun item => [item], rfl, ?_⟩
    rw [hfiles]
    refine .cons ?_ (.cons ?_ .nil)
    · dsimp only [d', n, k, item]
      rfl
    · dsimp only [d', n, k, item]
      rfl
  have hsame : (items.map Item.unplaced).Perm (items'.map Item.unplaced) := List.Perm.swap ..
  -- That the second directory is loaded follows and is not evaluated.
  have hload : ∃ m, Module.load d "m" = .ok m := by
    refine ⟨⟨"m", [⟨"t", "n", "m/a.tf", 1, ⟨"t", none⟩⟩, ⟨"t", "k", "m/a.tf", 2, ⟨"t", none⟩⟩], []⟩,
      ?_⟩
    rw [Module.load, Module.loadWith, Module.configFiles_of_pairwise (by decide +kernel)]
    decide +kernel
  exact ⟨hitems, hitems', hsame, hload, (agree_of_perm hitems hitems' hsame).1.1 hload⟩

end Inventory

end ResourceTables
