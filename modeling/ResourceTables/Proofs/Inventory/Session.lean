import Mathlib.Logic.Relation
import ResourceTables.Proofs.Inventory.Declarations

/-!
# Asking a loaded inventory

Between loading a module and asking for its resources the files on the disk can change in any way,
and other questions can be asked. None of this shows in the answers: an inventory answers from the
files as they were when it was loaded.

* `Inventory.Step`: the disk changes, or a question is asked;
* `Inventory.Extends`: an inventory with the same module and schemas that holds at least the same
  files, which is what every step leads to;
* `Inventory.answers_as_loaded`: however many steps come after loading, the block of a resource is
  the one that it was loaded from, and its cells are those that it had at first.
-/

namespace ResourceTables

namespace Inventory

/-- One step after loading, from a disk and an inventory to what they are then. -/
inductive Step : Disk × Inventory → Disk × Inventory → Prop
  /-- Files are written, replaced and removed. -/
  | change (d d' : Disk) (i : Inventory) : Step (d, i) (d', i)
  /-- The block of a resource is asked for. -/
  | block (d : Disk) (i : Inventory) (r : Resource) : Step (d, i) (d, (i.block d r).2)
  /-- The cells of a resource are asked for. -/
  | cells (d : Disk) (i : Inventory) (r : Resource) (names : List String) :
      Step (d, i) (d, (i.cells d r names).2)
  /-- The rows of a resource type are asked for. -/
  | rows (d : Disk) (i : Inventory) (type : String) (names : List String) :
      Step (d, i) (d, (rows d i type names).2)
  /-- Several tables are asked for. -/
  | tables (d : Disk) (i : Inventory) (requests : List TableRequest) :
      Step (d, i) (d, (tables d i requests).2.2)

/-- The inventory has the same schemas and the same module, and holds at least the same files. -/
structure Extends (i i' : Inventory) : Prop where
  /-- The schemas are the same. -/
  registry : i'.registry = i.registry
  /-- The module is the same. -/
  module : i'.module = i.module
  /-- The files that were held are held. -/
  cache : i.cache.Extends i'.cache

namespace Extends

variable {i i' i'' : Inventory}

theorem refl : i.Extends i :=
  ⟨rfl, rfl, .refl⟩

theorem trans (h : i.Extends i') (h' : i'.Extends i'') : i.Extends i'' :=
  ⟨h'.registry.trans h.registry, h'.module.trans h.module, h.cache.trans h'.cache⟩

end Extends

/-! ## What questions leave behind -/

section Questions

variable (d : Disk) (i : Inventory) (r : Resource) (names : List String)

theorem extends_block : i.Extends (i.block d r).2 := by
  unfold block Resource.locate
  cases hget : i.cache.get d r.file with
  | error e => exact .refl
  | ok found => exact ⟨rfl, rfl, (i.cache.ensures_get d r.file found hget).2.1⟩

theorem cells_snd : (i.cells d r names).2 = (i.block d r).2 := by
  unfold cells
  split <;> next heq => rw [heq]

theorem extends_cells : i.Extends (i.cells d r names).2 := by
  rw [cells_snd]
  exact extends_block d i r

theorem extends_row : i.Extends (i.row d r names).2 := by
  have hcells := extends_cells d i r names
  unfold row
  split <;> next heq =>
    rw [heq] at hcells
    exact hcells

theorem extends_rowsOf (resources : List Resource) :
    i.Extends (rowsOf d names i resources).2 := by
  induction resources generalizing i with
  | nil => exact .refl
  | cons r rest ih =>
    have hrow := extends_row d i r names
    rw [rowsOf]
    split
    · next heq =>
      rw [heq] at hrow
      exact hrow
    · next i' heq =>
      rw [heq] at hrow
      have hrest := hrow.trans (ih i')
      split <;> next heq' =>
        rw [heq'] at hrest
        exact hrest

theorem extends_tables (requests : List TableRequest) :
    i.Extends (tables d i requests).2.2 := by
  induction requests generalizing i with
  | nil => exact .refl
  | cons q rest ih =>
    have hrows : i.Extends (rows d i q.type q.attributes).2 := extends_rowsOf d i q.attributes _
    rw [tables]
    split
    · next heq =>
      rw [heq] at hrows
      exact hrows
    · next i' heq =>
      rw [heq] at hrows
      exact hrows.trans (ih i')

end Questions

/-- A step leads to an inventory that extends the one before. -/
theorem Step.extends {s s' : Disk × Inventory} (h : Step s s') : s.2.Extends s'.2 := by
  cases h with
  | change => exact .refl
  | block d i r => exact extends_block d i r
  | cells d i r names => exact extends_cells d i r names
  | rows d i type names => exact extends_rowsOf d i names _
  | tables d i requests => exact extends_tables d i requests

/-- So do any number of steps. -/
theorem extends_of_steps {s s' : Disk × Inventory} (h : Relation.ReflTransGen Step s s') :
    s.2.Extends s'.2 := by
  induction h with
  | refl => exact .refl
  | tail _ hstep ih => exact ih.trans hstep.extends

/-! ## Answers -/

/-- A resource whose file is held is looked up in the file that is held. -/
theorem block_of_find? {i : Inventory} {r : Resource} {body : Body}
    (h : i.cache.find? r.file = some body) (d : Disk) : i.block d r = (r.blockIn body, i) := by
  simp only [block, Resource.locate, ParseCache.get_of_find? h]

/-- Once the block is found, nothing is said about missing blocks any more. -/
theorem resolve_failsWith (r : Resource) (b : Block) (names : List String) (registry : Registry)
    (required : List (String × RequiredProvider)) :
    FailsWith (fun e => ∀ file, e ≠ .noBlock file) (r.resolve b names registry required) := by
  -- Each of the steps has errors of its own, and none of them is about a missing block.
  have haddress : FailsWith (fun e => ∀ file, e ≠ .noBlock file) (r.providerAddress required) := by
    unfold Resource.providerAddress
    split
    · exact .error (by simp)
    · split
      · exact .error (by simp)
      · exact .mapError (by simp)
  have hschema : FailsWith (fun e => ∀ file, e ≠ .noBlock file)
      (r.typeSchema registry required) := by
    refine .bind haddress fun address => ?_
    split
    · exact .error (by simp)
    · split
      · exact .ok
      · exact .error (by simp)
  have hcell : ∀ schema content name,
      FailsWith (fun e => ∀ file, e ≠ .noBlock file)
        (Resource.resolveCell schema content name) := by
    intro schema content name
    unfold Resource.resolveCell
    split
    · exact .error (by simp)
    · split
      · exact .error (by simp)
      · exact .error (by simp)
      · exact .mapError (by simp)
  refine .bind hschema fun schema => ?_
  dsimp only
  split
  · exact .error (by simp)
  · exact .error (by simp)
  · exact .foldlM fun cells name => .bind (hcell _ _ name) fun _ => .ok

/-- After loading, however often the disk changes and whatever is asked: the block of a resource is
the one that it was loaded from, which alone has its labels in its file, and the cells are those
that the resource had at first. -/
theorem answers_as_loaded {d : Disk} {registry : Registry} {directory : String} {i : Inventory}
    (h : load d registry directory = .ok i) :
    ∀ r ∈ i.module.resources,
      ∃ b ∈ (Module.configFiles d directory).flatMap d.resourceBlocks,
        Module.SoleDeclaration d b r ∧
          ∀ d' i', Relation.ReflTransGen Step (d, i) (d', i') →
            (i'.block d' r).1 = .ok b ∧
              ∀ names, (i'.cells d' r names).1 = (i.cells d r names).1 ∧
                ∀ file, (i'.cells d' r names).1 ≠ .error (.noBlock file) := by
  have hloaded : Ensures (fun i : Inventory =>
      i.module.Declared ((Module.configFiles d directory).flatMap d.resourceBlocks) ∧
        ∀ path ∈ Module.configFiles d directory, Module.Held d i.cache path)
      (load d registry directory) :=
    .map (Module.ensures_loadCached d directory) fun _ h => h
  obtain ⟨hdeclared, hheld⟩ := hloaded i h
  intro r hr
  obtain ⟨b, hb, hdeclares⟩ := hdeclared.exists_declares hr
  obtain ⟨hsole, hfile⟩ := hdeclared.soleDeclaration hheld hb hdeclares
  refine ⟨b, hb, hsole, ?_⟩
  obtain ⟨body, content, hfind, hread, -⟩ := hheld r.file hfile
  -- Every inventory that extends the loaded one holds the body that the block was read from.
  have hanswer : ∀ d' i', i.Extends i' → (i'.block d' r).1 = .ok b ∧
      ∀ names, (i'.cells d' r names).1 = r.resolve b names i.registry i.module.required := by
    intro d' i' hextends
    have hblock : i'.block d' r = (.ok b, i') := by
      rw [block_of_find? (hextends.cache r.file body hfind), hsole.blockIn_eq hread]
    refine ⟨by rw [hblock], fun names => ?_⟩
    simp only [cells, hblock, hextends.registry, hextends.module]
  intro d' i' hsteps
  obtain ⟨hblock, hcells⟩ := hanswer d' i' (extends_of_steps hsteps)
  refine ⟨hblock, fun names => ⟨?_, fun file => ?_⟩⟩
  · rw [hcells, (hanswer d i .refl).2]
  · rw [hcells]
    exact fun herror => resolve_failsWith r b names _ _ _ herror file rfl

/-- A directory with one resource in each notation, which is emptied after loading. -/
theorem answers_as_loaded_emptied :
    let native := "resource \"t\" \"n\" \x7b\n  size = 1\n\x7d\n"
    let json := "\x7b\"resource\": \x7b\"t\": \x7b\"k\": \x7b\"size\": 2\x7d\x7d\x7d\x7d"
    let d : Disk := ⟨[], [(["m"], .directory), (["m", "a.tf"], .file native.toUTF8),
      (["m", "b.tf.json"], .file json.toUTF8)]⟩
    ∃ i, load d default "m" = .ok i ∧
      i.module.resources = [⟨"t", "n", "m/a.tf", 1, ⟨"t", none⟩⟩,
        ⟨"t", "k", "m/b.tf.json", 1, ⟨"t", none⟩⟩] ∧
      ∀ r ∈ i.module.resources, ∃ b, (i.block {} r).1 = .ok b := by
  intro native json d
  -- The names are in order already, so sorting need not be evaluated.
  have hnames : (d.names "m").mergeSort (fun a b => a ≤ b) = ["a.tf", "b.tf.json"] := by
    have hnames : d.names "m" = ["a.tf", "b.tf.json"] := by decide +kernel
    rw [hnames]
    exact List.mergeSort_of_pairwise (by decide +kernel)
  have hload : (load d default "m").map (·.module.resources) =
      .ok [⟨"t", "n", "m/a.tf", 1, ⟨"t", none⟩⟩, ⟨"t", "k", "m/b.tf.json", 1, ⟨"t", none⟩⟩] := by
    simp only [load, Module.loadCached, Module.loadWith, Module.configFiles, hnames]
    decide +kernel
  cases h : load d default "m" with
  | error e =>
    rw [h] at hload
    cases hload
  | ok i =>
    rw [h] at hload
    refine ⟨i, rfl, Except.ok.inj hload, fun r hr => ?_⟩
    obtain ⟨b, -, -, hanswer⟩ := answers_as_loaded h r hr
    exact ⟨b, (hanswer {} i (.single (.change d {} i))).1⟩

end Inventory

end ResourceTables
