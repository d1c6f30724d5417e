import Mathlib.Data.List.Duplicate
import ResourceTables.Proofs.Inventory.Loading

/-!
# When a resource counts as declared twice

A module compares its resources by their keys, in which the type and the name are put together with
a point between them. Labels can be any texts, so different labels can have one key: a point in them
may be read as the one in between.

* `Block.PointMoved`: the labels differ only in which point stands between the type and the name;
* `key_eq_key_iff`: two pairs of labels have one key exactly if they are the same, or a point is
  moved between them;
* `Module.duplicateResource_iff`: in a directory where nothing else is wrong, a resource counts as
  declared twice exactly if two of its `resource` blocks have such labels.
-/

namespace ResourceTables

/-- The second labels put a point between the type and the name further behind than the first. -/
def Block.PointMoved (labels labels' : List String) : Prop :=
  ∃ type middle name, labels = [type, middle ++ "." ++ name] ∧
    labels' = [type ++ "." ++ middle, name]

/-- The labels have one key: they are the same, or a point is moved between them. -/
def Block.OneKey (labels labels' : List String) : Prop :=
  labels = labels' ∨ PointMoved labels labels' ∨ PointMoved labels' labels

/-- A text with a point in it can be split at this point only, unless there are more points. -/
theorem append_point_eq_iff {s t s' t' : List Char} :
    s ++ '.' :: t = s' ++ '.' :: t' ↔
      (s = s' ∧ t = t') ∨ (∃ u, s' = s ++ '.' :: u ∧ t = u ++ '.' :: t') ∨
        ∃ u, s = s' ++ '.' :: u ∧ t' = u ++ '.' :: t := by
  -- One of the texts in front begins the other. If it is shorter, the other goes on with its point.
  rw [List.append_eq_append_iff]
  constructor
  · rintro (⟨u, rfl, h⟩ | ⟨u, rfl, h⟩)
    · cases u with
      | nil =>
        rw [List.nil_append, List.cons.injEq] at h
        exact .inl ⟨(List.append_nil s).symm, h.2⟩
      | cons c u =>
        rw [List.cons_append, List.cons.injEq] at h
        obtain ⟨rfl, rfl⟩ := h
        exact .inr (.inl ⟨u, rfl, rfl⟩)
    · cases u with
      | nil =>
        rw [List.nil_append, List.cons.injEq] at h
        exact .inl ⟨List.append_nil s', h.2.symm⟩
      | cons c u =>
        rw [List.cons_append, List.cons.injEq] at h
        obtain ⟨rfl, rfl⟩ := h
        exact .inr (.inr ⟨u, rfl, rfl⟩)
  · rintro (⟨rfl, rfl⟩ | ⟨u, rfl, rfl⟩ | ⟨u, rfl, rfl⟩)
    · exact .inl ⟨[], by simp, by simp⟩
    · exact .inl ⟨'.' :: u, rfl, rfl⟩
    · exact .inr ⟨'.' :: u, rfl, rfl⟩

theorem string_append_point_eq_iff {s t s' t' : String} :
    s ++ "." ++ t = s' ++ "." ++ t' ↔
      (s = s' ∧ t = t') ∨ (∃ u, s' = s ++ "." ++ u ∧ t = u ++ "." ++ t') ∨
        ∃ u, s = s' ++ "." ++ u ∧ t' = u ++ "." ++ t := by
  have hlist : ∀ s t : String, (s ++ "." ++ t).toList = s.toList ++ '.' :: t.toList := by
    intro s t
    simp
  have hexists : ∀ P : List Char → Prop, (∃ u, P u) ↔ ∃ u : String, P u.toList := by
    intro P
    constructor
    · rintro ⟨u, hu⟩
      exact ⟨String.ofList u, by rwa [String.toList_ofList]⟩
    · rintro ⟨u, hu⟩
      exact ⟨u.toList, hu⟩
  simp only [← String.toList_inj, hlist, append_point_eq_iff, hexists]

/-- The keys of two resources are the same exactly if their labels have one key. -/
theorem key_eq_key_iff (r r' : Resource) :
    r.key = r'.key ↔ Block.OneKey [r.type, r.name] [r'.type, r'.name] := by
  have hmoved : ∀ type name type' name' : String,
      Block.PointMoved [type, name] [type', name'] ↔
        ∃ middle, type' = type ++ "." ++ middle ∧ name = middle ++ "." ++ name' := by
    intro type name type' name'
    constructor
    · rintro ⟨_, middle, _, h, h'⟩
      simp only [List.cons.injEq, and_true] at h h'
      obtain ⟨rfl, rfl⟩ := h
      obtain ⟨rfl, rfl⟩ := h'
      exact ⟨middle, rfl, rfl⟩
    · rintro ⟨middle, rfl, rfl⟩
      exact ⟨type, middle, name', rfl, rfl⟩
  rw [Resource.key, Resource.key, string_append_point_eq_iff, Block.OneKey, hmoved, hmoved]
  simp

namespace Module

variable {d : Disk} {directory : String} {c : Contribution}

/-- The keys of the resources are different exactly if no two of the blocks have labels with one
key. -/
theorem nodup_keys_iff_pairwise {blocks : List Block} {resources : List Resource}
    (h : List.Forall₂ Block.Declares blocks resources) :
    (resources.map Resource.key).Nodup ↔
      blocks.Pairwise fun b b' => ¬ Block.OneKey b.labels b'.labels := by
  calc (resources.map Resource.key).Nodup
    _ ↔ resources.Pairwise fun r r' => ¬ Block.OneKey [r.type, r.name] [r'.type, r'.name] := by
        rw [List.Nodup, List.pairwise_map]
        simp only [ne_eq, key_eq_key_iff]
    _ ↔ (blocks.map Block.labels).Pairwise fun l l' => ¬ Block.OneKey l l' := by
        rw [map_labels_eq h, List.pairwise_map]
    _ ↔ blocks.Pairwise fun b b' => ¬ Block.OneKey b.labels b'.labels := List.pairwise_map

/-- Where all files can be read and no provider is required twice, loading says that a resource is
declared twice exactly if two keys are the same. -/
theorem exists_duplicateResource_iff (hc : d.contribution directory = .ok c)
    (hnames : (c.required.map Prod.fst).Nodup) :
    (∃ pos key file line, load d directory = .error (.duplicateResource pos key file line)) ↔
      ¬ (c.resources.map Resource.key).Nodup := by
  constructor
  · rintro ⟨pos, key, file, line, he⟩
    cases clash_of_load_eq_error hc he with
    | resource h => exact h
  · intro hkeys
    cases hload : load d directory with
    | ok m =>
      obtain ⟨c', hc', hdistinct, -⟩ := load_eq_ok_iff.1 hload
      rw [hc] at hc'
      cases hc'
      exact absurd hdistinct.keys hkeys
    | error e =>
      -- Of the two reasons that loading can fail for, one is excluded.
      cases clash_of_load_eq_error hc hload with
      | resource h => exact ⟨_, _, _, _, rfl⟩
      | provider h => exact absurd hnames h

/-- In a directory whose files can all be read and where no provider is required twice, loading says
that a resource is declared twice exactly if two `resource` blocks have the same labels, or labels
between which a point is moved. -/
theorem duplicateResource_iff (hc : d.contribution directory = .ok c)
    (hnames : (c.required.map Prod.fst).Nodup) :
    (∃ pos key file line, load d directory = .error (.duplicateResource pos key file line)) ↔
      ∃ b b', [b, b'].Sublist (writtenResources d directory) ∧
        (b.labels = b'.labels ∨ Block.PointMoved b.labels b'.labels ∨
          Block.PointMoved b'.labels b.labels) := by
  have hdeclares := d.ensures_contribution directory c hc
  rw [exists_duplicateResource_iff hc hnames, nodup_keys_iff_pairwise hdeclares,
    List.pairwise_iff_forall_sublist]
  simp only [not_forall, not_not, exists_prop, Block.OneKey]

/-- Two blocks in files of different notations, with different labels that have one key. -/
theorem duplicateResource_iff_moved :
    let native := "resource \"a.b\" \"c\" \x7b\x7d\n"
    let json := "\x7b\"resource\": \x7b\"a\": \x7b\"b.c\": \x7b\x7d\x7d\x7d\x7d"
    let d : Disk := ⟨[], [(["m"], .directory), (["m", "a.tf"], .file native.toUTF8),
      (["m", "b.tf.json"], .file json.toUTF8)]⟩
    let c : Contribution := ⟨[⟨"a.b", "c", "m/a.tf", 1, ⟨"a.b", none⟩⟩,
      ⟨"a", "b.c", "m/b.tf.json", 1, ⟨"a", none⟩⟩], []⟩
    d.contribution "m" = .ok c ∧ (c.required.map Prod.fst).Nodup ∧
      ∃ pos key file line, load d "m" = .error (.duplicateResource pos key file line) := by
  intro native json d c
  have hfiles : configFiles d "m" = ["m/a.tf", "m/b.tf.json"] := by
    rw [configFiles_of_pairwise (by decide +kernel)]
    decide +kernel
  have hc : d.contribution "m" = .ok c := by
    rw [Disk.contribution, hfiles]
    decide +kernel
  have hnames : (c.required.map Prod.fst).Nodup := List.nodup_nil
  refine ⟨hc, hnames, (duplicateResource_iff hc hnames).2 ?_⟩
  -- The labels of the blocks are those of the two resources that they are read as.
  have hlabels := map_labels_eq (d.ensures_contribution "m" c hc)
  obtain ⟨b, rest, hblocks, hb, hrest⟩ := List.map_eq_cons_iff.1 hlabels
  obtain ⟨b', rest', rfl, hb', hnil⟩ := List.map_eq_cons_iff.1 hrest
  rw [List.map_nil, List.map_eq_nil_iff] at hnil
  refine ⟨b, b', ?_, .inr (.inr ?_)⟩
  · rw [hblocks, hnil]
  · rw [hb, hb']
    exact ⟨"a", "b", "c", rfl, rfl⟩

/-- It is not so that a resource counts as declared twice only if two blocks have the same labels.
-/
theorem not_forall_duplicateResource_iff_labels_eq :
    ¬ ∀ (d : Disk) (directory : String) (c : Contribution), d.contribution directory = .ok c →
      (c.required.map Prod.fst).Nodup →
        ((∃ pos key file line, load d directory = .error (.duplicateResource pos key file line)) ↔
          ∃ b b', [b, b'].Sublist (writtenResources d directory) ∧ b.labels = b'.labels) := by
  intro h
  let text := "resource \"a.b\" \"c\" \x7b\x7d\nresource \"a\" \"b.c\" \x7b\x7d\n"
  let d : Disk := ⟨[], [(["m"], .directory), (["m", "a.tf"], .file text.toUTF8)]⟩
  let c : Contribution := ⟨[⟨"a.b", "c", "m/a.tf", 1, ⟨"a.b", none⟩⟩,
    ⟨"a", "b.c", "m/a.tf", 2, ⟨"a", none⟩⟩], []⟩
  have hfiles : configFiles d "m" = ["m/a.tf"] := by
    rw [configFiles_of_pairwise (by decide +kernel)]
    decide +kernel
  have hc : d.contribution "m" = .ok c := by
    rw [Disk.contribution, hfiles]
    decide +kernel
  have hload : load d "m" = .error (.duplicateResource ⟨"m/a.tf", 2, 1⟩ "a.b.c" "m/a.tf" 1) := by
    rw [load, loadWith, hfiles]
    decide +kernel
  obtain ⟨b, b', hsublist, hsame⟩ := (h d "m" c hc List.nodup_nil).1 ⟨_, _, _, _, hload⟩
  have hpair := hsublist.map Block.labels
  rw [map_labels_eq (d.ensures_contribution "m" c hc), List.map_cons, List.map_singleton,
    ← hsame] at hpair
  -- The labels of the two blocks of the file are different.
  have hlabels : (c.resources.map fun r => [r.type, r.name]).Nodup := by decide
  exact List.nodup_iff_sublist.1 hlabels b.labels hpair

end Module

end ResourceTables
