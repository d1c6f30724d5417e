import ResourceTables.Proofs.Comments.Loading
import ResourceTables.Proofs.Encodings.Contents
import ResourceTables.Proofs.Inventory.Rows

/-!
# Comments are inert

Whatever comments are put into the JSON files of a module or taken out of them, the module is the
same for everyone who asks.

* `Resource.agree_resolve_recommented`: blocks that differ in nothing but comments and places give
  the same cells;
* `Inventory.comments_inert`: modules whose files differ in nothing but comments and places are
  loaded alike, and their resources have the same cells, whatever is asked and whatever happens in
  between.
-/

namespace ResourceTables

namespace Resource

variable {r r' : Resource} {b b' : Block}

/-! ## Cells -/

/-- A value has the same cell in attributes that are alike, or none for a reason of one class. -/
theorem agree_cellOf_alike {a a' : Attribute} (h : a.Alike a') {v : Value}
    (hv : a.expr.evaluate Scope.empty = .ok v) (name : String) :
    Agree ((cellOf a v).mapError (ResolveError.cell name))
      ((cellOf a' v).mapError (ResolveError.cell name)) := by
  unfold cellOf
  split
  -- A value with parts has no cell, however it is written.
  · rfl
  · rfl
  -- Where the value has no parts, the expressions are written the same.
  · next htuple hobject =>
    have hsource : a.expr.source = a'.expr.source := by
      refine h.expr.source.resolve_right fun hparts => ?_
      exact (hparts v hv).elim htuple hobject
    rw [hsource]
    cases v <;> rfl

theorem agree_resolveCell_alike {c c' : Content} (hc : c.Alike c') (schema : ResourceSchema)
    (name : String) : Agree (resolveCell schema c name) (resolveCell schema c' name) := by
  have hfound := hc.attribute? name
  unfold resolveCell
  generalize c.attribute? name = a at hfound ⊢
  generalize c'.attribute? name = a' at hfound ⊢
  cases hfound with
  | none => exact .refl
  | some ha =>
    rcases ha.expr.value.cases with ⟨v, hv, hv'⟩ | ⟨e, e', he, he', hcause⟩
    · simp only [hv, hv']
      exact agree_cellOf_alike ha hv name
    · simp only [he, he']
      cases e <;> cases e' <;> first | rfl | cases hcause

/-- Blocks that differ in nothing but comments and places give the same cells, or none for a reason
of one class. -/
theorem agree_resolve_recommented (hr : r.Alike r') (hb : b.Recommented b') (names : List String)
    (registry : Registry) (required : List (String × RequiredProvider)) :
    Agree (r.resolve b names registry required) (r'.resolve b' names registry required) := by
  unfold resolve
  rw [hr.typeSchema_eq]
  refine .bind .refl fun schema => ?_
  rcases (hb.body.matches_partialContent ⟨schema.attributes.map (·.1), []⟩).cases with
    ⟨c, c', hc, hc', halike⟩ | ⟨e, e', he, he', hclass⟩
  · simp only [hc, hc']
    refine .foldlM (fun cells name => ?_) names []
    exact .bind (agree_resolveCell_alike halike schema name) fun _ => .refl
  · simp only [he, he']
    rcases e with _ | _ | _ <;> rcases e' with _ | _ | _ <;> first | rfl | cases hclass

/-! ## Blocks -/

/-- Looking for a resource in bodies that differ in nothing but comments and places finds blocks
that do so. -/
theorem matches_blockIn (hr : r.Alike r') {body body' : Body} (h : body.Recommented body') :
    Matches ResolveError.errorClass Block.Recommented (r.blockIn body) (r'.blockIn body') := by
  unfold blockIn
  rcases (h.matches_partialContent Module.schema).cases with
    ⟨c, c', hc, hc', halike⟩ | ⟨e, e', he, he', hclass⟩
  · rw [hc, hc']
    have hfound : Option.Rel Block.Recommented
        ((c.blocksOfType "resource").find? (·.labels == [r.type, r.name]))
        ((c'.blocksOfType "resource").find? (·.labels == [r'.type, r'.name])) :=
      rel_find? (halike.blocksOfType "resource") fun b b' hb => by rw [hb.labels, hr.type, hr.name]
    dsimp only
    generalize (c.blocksOfType "resource").find? _ = b at hfound ⊢
    generalize (c'.blocksOfType "resource").find? _ = b' at hfound ⊢
    cases hfound with
    | none => exact .error rfl
    | some hb => exact .ok hb
  · rw [he, he']
    rcases e with _ | _ | _ <;> rcases e' with _ | _ | _ <;> first | exact .error rfl | cases hclass

end Resource

/-- The blocks that alone declare corresponding resources differ in nothing but comments and places.
-/
theorem Module.SoleDeclaration.recommented {d d' : Disk} {directory : String} {r r' : Resource}
    {b b' : Block} (h : d.Recommented d' directory) (hr : r.AlikeInFile r')
    (hfile : r.file ∈ Module.configFiles d directory) (hb : Module.SoleDeclaration d b r)
    (hb' : Module.SoleDeclaration d' b' r') : b.Recommented b' := by
  obtain ⟨body, _, hread, -⟩ := hb.sole
  obtain ⟨body', _, hread', -⟩ := hb'.sole
  have hbodies := h.readConfig r.file hfile
  rw [hread, hr.file, hread'] at hbodies
  obtain ⟨_, hfound, hblocks⟩ :=
    (Resource.matches_blockIn hr.toAlike hbodies).exists_ok (hb.blockIn_eq hread)
  rw [hb'.blockIn_eq hread'] at hfound
  cases hfound
  exact hblocks

namespace Inventory

variable {d d' : Disk} {directory : String} {registry : Registry} {i i' : Inventory}

/-- Corresponding resources of loaded inventories have the same cells whatever happens after
loading. -/
theorem agree_cells_recommented (h : d.Recommented d' directory)
    (hi : load d registry directory = .ok i) (hi' : load d' registry directory = .ok i')
    (hrequired : i.module.required = i'.module.required) {r r' : Resource} (hr : r.AlikeInFile r')
    (hmem : r ∈ i.module.resources) (hmem' : r' ∈ i'.module.resources) {e e' : Disk}
    {j j' : Inventory} (hj : i.Extends j) (hj' : i'.Extends j') (names : List String) :
    Agree (j.cells e r names).1 (j'.cells e' r' names).1 := by
  obtain ⟨b, -, hb, hfile, hcells⟩ := exists_block hi hmem
  obtain ⟨b', -, hb', -, hcells'⟩ := exists_block hi' hmem'
  rw [hcells e j hj, hcells' e' j' hj', (load_eq_ok hi).2, (load_eq_ok hi').2, hrequired]
  exact Resource.agree_resolve_recommented hr.toAlike (hb.recommented h hr hfile hb') names _ _

/-- A directory is loaded from both disks as inventories with modules that are alike, or from
neither, for reasons of one class. -/
theorem matches_load (h : d.Recommented d' directory) (registry : Registry) :
    Matches LoadError.errorClass (fun i i' => i.module.Alike i'.module) (load d registry directory)
      (load d' registry directory) := by
  have hloaded := h.matches_load
  rw [← Module.loadCached_map_fst, ← Module.loadCached_map_fst] at hloaded
  exact hloaded.of_map.map fun _ _ hm => hm

/-- A directory whose configuration files are the same on two disks, but for comments in JSON and
for places, is loaded from both or from neither, and then for reasons of one class. The loaded
modules require the same providers and have the same resources in the same files. Whatever is asked
of the inventories and whatever becomes of the disks, corresponding resources have the same cells
for any attributes, or none for reasons of one class. -/
theorem comments_inert (h : d.Recommented d' directory) (registry : Registry) :
    Matches LoadError.errorClass
      (fun i i' => i.module.required = i'.module.required ∧
        List.Forall₂ (fun r r' => r.Alike r' ∧ r.file = r'.file ∧
          ∀ e j e' j' names, Relation.ReflTransGen Step (d, i) (e, j) →
            Relation.ReflTransGen Step (d', i') (e', j') →
              Agree (j.cells e r names).1 (j'.cells e' r' names).1)
          i.module.resources i'.module.resources)
      (load d registry directory) (load d' registry directory) := by
  refine (matches_load h registry).results.mono fun i i' ⟨hm, hi, hi'⟩ => ⟨hm.required, ?_⟩
  -- Resources that correspond are resources of the modules, so their blocks are found again.
  obtain ⟨hlength, hall⟩ := List.forall₂_iff_zip.1 hm.resources
  refine List.forall₂_iff_zip.2 ⟨hlength, fun {r r'} hmem => ⟨(hall hmem).toAlike, (hall hmem).file,
    fun e j e' j' names hj hj' => ?_⟩⟩
  obtain ⟨hr, hr'⟩ := List.of_mem_zip hmem
  exact agree_cells_recommented h hi hi' hm.required (hall hmem) hr hr' (extends_of_steps hj)
    (extends_of_steps hj') names

/-! ## A file with comments -/

/-- A place in the first line of the file with the resource. -/
def column (n : Nat) : Pos :=
  ⟨"m/a.tf.json", 1, n⟩

/-- A file with one resource. -/
def uncommentedText : String :=
  "\x7b\"resource\":\x7b\"t\":\x7b\"n\":\x7b\"s\":\"$\x7bx\x7d\"\x7d\x7d\x7d\x7d"

/-- The same file with comments in it, among them one whose value could be no block. -/
def commentedText : String :=
  "\x7b\"//\":[],\"resource\":\x7b\"t\":\x7b\"//\":\"\",\"n\":\x7b\"//\":null," ++
    "\"s\":\"$\x7bx\x7d\"\x7d\x7d\x7d\x7d"

/-- What is read of the file without comments. -/
def uncommented : List JsonPair :=
  [.mk "resource" (column 2)
    (.object ⟨column 13, "\x7b\"t\":\x7b\"n\":\x7b\"s\":\"$\x7bx\x7d\"\x7d\x7d\x7d"⟩
      [.mk "t" (column 14) (.object ⟨column 18, "\x7b\"n\":\x7b\"s\":\"$\x7bx\x7d\"\x7d\x7d"⟩
        [.mk "n" (column 19) (.object ⟨column 23, "\x7b\"s\":\"$\x7bx\x7d\"\x7d"⟩
          [.mk "s" (column 24) (.scalar ⟨column 28, "\"$\x7bx\x7d\""⟩ (.text "$\x7bx\x7d"))])])])]

/-- What is read of the file with comments. -/
def commented : List JsonPair :=
  [.mk "//" (column 2) (.array ⟨column 7, "[]"⟩ []),
  .mk "resource" (column 10) (.object ⟨column 21,
      "\x7b\"t\":\x7b\"//\":\"\",\"n\":\x7b\"//\":null,\"s\":\"$\x7bx\x7d\"\x7d\x7d\x7d"⟩
    [.mk "t" (column 22) (.object ⟨column 26,
        "\x7b\"//\":\"\",\"n\":\x7b\"//\":null,\"s\":\"$\x7bx\x7d\"\x7d\x7d"⟩
      [.mk "//" (column 27) (.scalar ⟨column 32, "\"\""⟩ (.text "")),
      .mk "n" (column 35) (.object ⟨column 39, "\x7b\"//\":null,\"s\":\"$\x7bx\x7d\"\x7d"⟩
        [.mk "//" (column 40) (.scalar ⟨column 45, "null"⟩ .null),
        .mk "s" (column 50) (.scalar ⟨column 54, "\"$\x7bx\x7d\""⟩ (.text "$\x7bx\x7d"))])])])]

theorem allRecommented_uncommented : JsonPair.AllRecommented uncommented commented :=
  .put (.cons rfl (.object (.cons rfl (.object (.put (.cons rfl (.object (.put
    (.cons rfl (.scalar rfl) .nil))) .nil))) .nil)) .nil)

theorem parse_uncommentedText : Json.parse "m/a.tf.json" uncommentedText =
    .ok (.json ⟨column 1, uncommentedText⟩ uncommented) := by
  rfl

theorem parse_commentedText : Json.parse "m/a.tf.json" commentedText =
    .ok (.json ⟨column 1, commentedText⟩ commented) := by
  rfl

/-- The file with one resource and the same with comments, next to a native file that says where the
provider comes from. -/
theorem comments_inert_mixed :
    let native := "terraform \x7b\n  required_providers \x7b\n    t = \x7b source = \"t\" \x7d\n" ++
      "  \x7d\n\x7d\n"
    let disk : String → Disk := fun json => ⟨[], [(["m"], .directory),
      (["m", "a.tf.json"], .file json.toUTF8), (["m", "b.tf"], .file native.toUTF8)]⟩
    let registry : Registry := ⟨[(⟨"registry.terraform.io", "hashicorp", "t"⟩,
      ⟨[("t", ⟨[("s", ⟨.text "string", false, true, false⟩)]⟩)]⟩)]⟩
    ∃ i i' r', load (disk uncommentedText) registry "m" = .ok i ∧
      load (disk commentedText) registry "m" = .ok i' ∧ i'.module.resources = [r'] ∧
      (i'.cells {} r' ["s"]).1 = .ok [("s", .unknown (some "\"$\x7bx\x7d\""))] := by
  intro native disk registry
  have hfiles : ∀ json, Module.configFiles (disk json) "m" = ["m/a.tf.json", "m/b.tf"] := by
    intro json
    have hnames : (disk json).names "m" = ["a.tf.json", "b.tf"] := by rfl
    rw [Module.configFiles, hnames, List.mergeSort_of_pairwise (by decide +kernel)]
    rfl
  have hjson : ∀ json, '\r' ∉ json.toList →
      (disk json).readConfig "m/a.tf.json" = Json.parse "m/a.tf.json" json := by
    intro json hreturn
    have hread : (disk json).read "m/a.tf.json" = .ok json.toUTF8 := rfl
    have hnotation : FileName.notationOf "m/a.tf.json" = .json := by decide +kernel
    rw [Disk.readConfig_of_read hread hreturn, parseConfig, hnotation]
  have hnative : ∀ json, (disk json).readConfig "m/b.tf" = parseConfig "m/b.tf" native := by
    intro json
    have hread : (disk json).read "m/b.tf" = .ok native.toUTF8 := rfl
    exact Disk.readConfig_of_read hread (by decide +kernel)
  have hdisks : (disk uncommentedText).Recommented (disk commentedText) "m" := by
    refine ⟨rfl, by rw [hfiles, hfiles], ?_⟩
    rw [hfiles, List.forall_mem_cons, List.forall_mem_singleton, hnative, hnative,
      hjson _ (by decide +kernel), hjson _ (by decide +kernel), parse_uncommentedText,
      parse_commentedText]
    exact ⟨.ok (.json allRecommented_uncommented), .refl fun _ => .same⟩
  -- Only the module without comments is evaluated, what holds of the other one follows.
  let r : Resource := ⟨"t", "n", "m/a.tf.json", 1, ⟨"t", none⟩⟩
  have hloaded : (load (disk uncommentedText) registry "m").map (fun i =>
      (i.module.resources, (i.cells {} r ["s"]).1)) =
        .ok ([r], .ok [("s", .unknown (some "\"$\x7bx\x7d\""))]) := by
    simp only [load, Module.loadCached, Module.loadWith, hfiles]
    decide +kernel
  obtain ⟨i, hload, hi⟩ := map_eq_ok_iff.1 hloaded
  obtain ⟨hresources, hcells⟩ := Prod.mk.inj hi
  obtain ⟨i', hload', -, hsame⟩ := (comments_inert hdisks registry).exists_ok hload
  rw [hresources] at hsame
  obtain ⟨r', _, ⟨-, -, hagree⟩, hnil, hresources'⟩ := List.forall₂_cons_left_iff.1 hsame
  rw [List.forall₂_nil_left_iff.1 hnil] at hresources'
  have hagreed := hagree {} i {} i' ["s"] (.single (.change _ _ _)) (.single (.change _ _ _))
  rw [hcells] at hagreed
  exact ⟨i, i', r', hload, hload', hresources', hagreed.eq_ok⟩

end Inventory

end ResourceTables
