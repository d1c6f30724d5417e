import ResourceTables.Inventory.Resolve
import ResourceTables.Proofs.Encodings.Contents
import ResourceTables.Proofs.Inventory.Session

/-!
# The two notations agree

A module whose only file is written in the native notation and one whose only file is written in
JSON, with the same declarations in both, are the same module for everyone who asks.

What is asked of a resource depends on its declaration only, not on the block that the declaration
was read into: two blocks of one declaration give the same cells or fail for reasons of one class.

* `ResolveError.errorClass`: the class of an error, which leaves out the place and the wording;
* `Agree`: two computations have the same result, or errors of one class;
* `Resource.agree_resolve`: resources that are declared alike give the same cells;
* `Inventory.load_ok_iff`: which declarations can be loaded, in either notation;
* `Inventory.forall₂_shows`: what is loaded are the declarations, in order, each with its block;
* `Inventory.encodings_agree`: both modules load or neither does, and then they hold the same
  resources, which give the same cells whatever is asked.
-/

namespace ResourceTables

/-! ## Answers about declared resources -/

/-- The classes of errors that asking for the cells of a resource can end in. -/
inductive ErrorClass where
  /-- A file is malformed. -/
  | parse
  /-- A body does not fit the schema that it is decoded against. -/
  | decode
  /-- The block of the resource is missing from its file. -/
  | blockNotFound
  /-- The module does not declare a source for the provider. -/
  | providerNotConfigured
  /-- The source of the provider is malformed. -/
  | address
  /-- There is no schema for the provider or for the resource type. -/
  | schemaNotFound
  /-- The attribute is not set. -/
  | attributeNotFound
  /-- The attribute has a value that is no text, number or truth value. -/
  | unsupportedAttributeType
  /-- The expression is invalid. -/
  | evaluation
  /-- A number or a character is beyond what a value can hold. -/
  | beyondLimits
  deriving DecidableEq, Repr

/-- The class of an error. -/
def ResolveError.errorClass : ResolveError → ErrorClass
  | .read (.malformed _) => .parse
  | .read .beyondLimits => .beyondLimits
  | .decodeFile _ | .decodeBlock _ => .decode
  | .noBlock _ => .blockNotFound
  | .noSource _ => .providerNotConfigured
  | .address _ => .address
  | .noProvider _ | .noType _ => .schemaNotFound
  | .cell _ .notSet | .cell _ .notDeclared => .attributeNotFound
  | .cell _ (.structured _ _) | .cell _ (.null _) => .unsupportedAttributeType
  | .cell _ (.invalid _ _) => .evaluation
  | .cell _ .beyondLimits => .beyondLimits

/-- The computations have the same result, or errors of one class. -/
def Agree (x x' : Except ResolveError α) : Prop :=
  x.mapError ResolveError.errorClass = x'.mapError ResolveError.errorClass

namespace Agree

variable {x x' : Except ResolveError α}

theorem refl : Agree x x :=
  rfl

theorem eq_ok {a : α} (h : Agree (.ok a) x) : x = .ok a := by
  cases x with
  | error e => cases h
  | ok b => exact congrArg Except.ok (Except.ok.inj h).symm

theorem bind {f f' : α → Except ResolveError β} (hx : Agree x x') (hf : ∀ a, Agree (f a) (f' a)) :
    Agree (x >>= f) (x' >>= f') := by
  cases x with
  | error e =>
    cases x' with
    | error e' => exact congrArg Except.error (Except.error.inj hx)
    | ok a' => cases hx
  | ok a =>
    cases x' with
    | error e' => cases hx
    | ok a' =>
      obtain rfl := Except.ok.inj hx
      exact hf a

theorem foldlM {f f' : β → α → Except ResolveError β} (hf : ∀ b a, Agree (f b a) (f' b a))
    (as : List α) (b : β) : Agree (as.foldlM f b) (as.foldlM f' b) := by
  induction as generalizing b with
  | nil => exact refl
  | cons a as ih =>
    rw [List.foldlM_cons, List.foldlM_cons]
    exact bind (hf b a) ih

end Agree

/-! ## Cells -/

/-- Looking through corresponding elements for what corresponds finds corresponding elements, or
nothing in either list. -/
theorem rel_find? {R : α → β → Prop} {p : α → Bool} {q : β → Bool} {as : List α} {bs : List β}
    (h : List.Forall₂ R as bs) (hpq : ∀ a b, R a b → p a = q b) :
    Option.Rel R (as.find? p) (bs.find? q) := by
  induction h with
  | nil => exact .none
  | @cons a b _ _ hab _ ih =>
    rw [List.find?_cons, List.find?_cons, hpq a b hab]
    cases q b with
    | true => exact .some hab
    | false => exact ih

/-- Looking for an attribute finds the one that sets the argument of its name, if there is one. -/
theorem Argument.attribute?_of_sets {found : List Argument} {c : Content}
    (h : List.Forall₂ Argument.Sets found c.attributes) (name : String) :
    Option.Rel Argument.Sets (found.find? (·.name == name)) (c.attribute? name) :=
  rel_find? h fun a x hx => by rw [hx.name]

namespace Argument.Collected

variable {found : List Argument} {x x' : Except ContentError Content}

/-- Decoding is refused exactly if a name is there twice. -/
theorem refused_or_ok (h : Argument.Collected found x) :
    (¬ (found.map Argument.name).Nodup ∧ ∃ e, x = .error (.decode e)) ∨
      ((found.map Argument.name).Nodup ∧
        ∃ c, x = .ok c ∧ List.Forall₂ Argument.Sets found c.attributes) := by
  rcases x with (e | _) | c
  · exact .inl ⟨h, e, rfl⟩
  · exact h.elim
  · exact .inr ⟨h.1, c, rfl, h.2⟩

/-- Two bodies that set the same arguments are both refused, or both give attributes that set the
wanted ones. -/
theorem both (h : Argument.Collected found x) (h' : Argument.Collected found x') :
    (∃ e e', x = .error (.decode e) ∧ x' = .error (.decode e')) ∨
      ∃ c c', x = .ok c ∧ x' = .ok c' ∧ List.Forall₂ Argument.Sets found c.attributes ∧
        List.Forall₂ Argument.Sets found c'.attributes := by
  rcases h.refused_or_ok with ⟨htwice, e, he⟩ | ⟨honce, c, hc, hsets⟩ <;>
    rcases h'.refused_or_ok with ⟨htwice', e', he'⟩ | ⟨honce', c', hc', hsets'⟩
  · exact .inl ⟨e, e', he, he'⟩
  · exact absurd honce' htwice
  · exact absurd honce htwice'
  · exact .inr ⟨c, c', hc, hc', hsets, hsets'⟩

end Argument.Collected

namespace Resource

/-- Attributes that set one argument have the same cell, or none for a reason of one class. -/
theorem agree_cellOf {a : Argument} {x x' : Attribute} (name : String) :
    Agree ((cellOf x a.value.value).mapError (ResolveError.cell name))
      ((cellOf x' a.value.value).mapError (ResolveError.cell name)) := by
  cases a.value <;> rfl

theorem agree_resolveCell {found : List Argument} {c c' : Content}
    (hc : List.Forall₂ Argument.Sets found c.attributes)
    (hc' : List.Forall₂ Argument.Sets found c'.attributes) (schema : ResourceSchema)
    (name : String) : Agree (resolveCell schema c name) (resolveCell schema c' name) := by
  have hx := Argument.attribute?_of_sets hc name
  have hx' := Argument.attribute?_of_sets hc' name
  -- The attribute is missing in both, or there is one in each that sets the same argument.
  unfold resolveCell
  generalize found.find? (·.name == name) = a at hx hx'
  generalize c.attribute? name = x at hx ⊢
  generalize c'.attribute? name = x' at hx' ⊢
  cases hx with
  | none =>
    cases hx'
    exact .refl
  | some hx =>
    cases hx' with
    | some hx' =>
      simp only [hx.means Scope.empty, hx'.means Scope.empty]
      exact agree_cellOf name

/-- The resources are declared alike. -/
structure Alike (r r' : Resource) : Prop where
  /-- The types are the same. -/
  type : r.type = r'.type
  /-- The names are the same. -/
  name : r.name = r'.name
  /-- The providers are the same. -/
  provider : r.provider = r'.provider

/-- The schema is found by the type and the provider. -/
theorem Alike.typeSchema_eq {r r' : Resource} (h : r.Alike r') (registry : Registry)
    (required : List (String × RequiredProvider)) :
    r.typeSchema registry required = r'.typeSchema registry required := by
  simp only [typeSchema, providerAddress, h.type, h.provider]

/-- Blocks of one declaration give the same cells, or none for a reason of one class. -/
theorem agree_resolve {r r' : Resource} (h : r.Alike r') {d : Declaration} {b b' : Block}
    (hb : d.Block b) (hb' : d.Block b') (names : List String) (registry : Registry)
    (required : List (String × RequiredProvider)) :
    Agree (r.resolve b names registry required) (r'.resolve b' names registry required) := by
  unfold resolve
  rw [h.typeSchema_eq]
  refine .bind .refl fun schema => ?_
  -- Both blocks are decoded for the same names; they are refused together or set the same
  -- arguments.
  have hfound := hb.sets (schema.attributes.map (·.1))
  have hfound' := hb'.sets (schema.attributes.map (·.1))
  rcases hfound.both hfound' with ⟨e, e', he, he'⟩ | ⟨c, c', hc, hc', hsets, hsets'⟩
  · simp only [he, he']
    rfl
  · simp only [hc, hc']
    refine .foldlM (fun cells name => ?_) names []
    exact .bind (agree_resolveCell hsets hsets' schema name) fun _ => .refl

end Resource

/-! ## Loading declarations -/

section Loading

variable {ds : List Declaration} {blocks : List ResourceTables.Block} {m : Module}

namespace Declaration

variable {decl : Declaration} {b : ResourceTables.Block}

/-- The resource of a block of a declaration; its type stands for its provider. -/
theorem resourceOf_eq (h : decl.Block b) :
    Module.resourceOf b = .ok ⟨decl.type, decl.name, b.pos.file, b.pos.line,
      ⟨Module.impliedProvider decl.type, none⟩⟩ := by
  -- No argument names the provider, so decoding finds none.
  have hnone : (decl.arguments.filter fun a => ["provider"].contains a.name) = [] := by
    refine List.filter_eq_nil_iff.2 fun a _ ha => a.name_ne_provider ?_
    simpa using ha
  have hmeta := h.sets ["provider"]
  rw [hnone] at hmeta
  have hcontent : ∃ content : Content, b.body.partialContent Module.metaSchema = .ok content ∧
      content.attribute? "provider" = none := by
    rcases hmeta.refused_or_ok with ⟨htwice, -⟩ | ⟨-, content, hcontent, hsets⟩
    · exact absurd List.nodup_nil htwice
    · refine ⟨content, hcontent, ?_⟩
      rw [Content.attribute?, List.forall₂_nil_left_iff.1 hsets]
      rfl
  obtain ⟨content, hcontent, hprovider⟩ := hcontent
  simp only [Module.resourceOf, hcontent, Except.mapError, hprovider, h.labels, bind, Except.bind]
  rfl

end Declaration

theorem Declaration.type_of_mem (h : List.Forall₂ Declaration.Block ds blocks) :
    ∀ b ∈ blocks, b.type = "resource" := by
  induction h with
  | nil => simp
  | cons hb _ ih => exact List.forall_mem_cons.2 ⟨hb.type, ih⟩

theorem Content.blocksOfType_resource (h : List.Forall₂ Declaration.Block ds blocks) :
    blocksOfType ⟨[], blocks⟩ "resource" = blocks :=
  List.filter_eq_self.2 fun b hb => beq_iff_eq.2 (Declaration.type_of_mem h b hb)

theorem Content.blocksOfType_terraform (h : List.Forall₂ Declaration.Block ds blocks) :
    blocksOfType ⟨[], blocks⟩ "terraform" = [] := by
  refine List.filter_eq_nil_iff.2 fun b hb heq => ?_
  rw [Declaration.type_of_mem h b hb] at heq
  exact absurd heq (by decide)

/-- Blocks with different keys can all be added. -/
theorem Module.exists_addResources (h : List.Forall₂ Declaration.Block ds blocks)
    (hkeys : (m.resources.map Resource.key ++ ds.map Declaration.key).Nodup) :
    ∃ m', blocks.foldlM addResource m = .ok m' := by
  -- The keys that are there and those that are still to come stay different from each other.
  induction h generalizing m with
  | nil => exact ⟨m, rfl⟩
  | @cons decl b ds blocks hb _ ih =>
    obtain ⟨r, hr, hkey⟩ : ∃ r, resourceOf b = .ok r ∧ r.key = decl.key :=
      ⟨_, Declaration.resourceOf_eq hb, rfl⟩
    have hnew : m.resource? r.key = none := by
      refine List.find?_eq_none.2 fun first hfirst heq => ?_
      have hmem := List.mem_map_of_mem (f := Resource.key) hfirst
      rw [beq_iff_eq.1 heq, hkey] at hmem
      exact (List.nodup_append.1 hkeys).2.2 _ hmem _ (by simp) rfl
    have hadd : addResource m b = .ok { m with resources := m.resources ++ [r] } := by
      simp only [addResource, hr, bind, Except.bind, hnew]
      rfl
    rw [List.foldlM_cons, hadd]
    refine ih ?_
    rw [List.map_append, List.map_cons, List.map_nil, hkey, List.append_assoc]
    exact hkeys

/-- The module of a body that declares resources with different keys. -/
theorem Module.exists_addFile {body : Body} (h : body.Declares ds)
    (hkeys : (m.resources.map Resource.key ++ ds.map Declaration.key).Nodup) :
    ∃ m', m.addFile body = .ok m' := by
  obtain ⟨blocks, hcontent, hblocks⟩ := h
  obtain ⟨m', hm'⟩ := exists_addResources hblocks hkeys
  refine ⟨m', ?_⟩
  simp only [addFile, hcontent, Except.mapError, bind, Except.bind,
    Content.blocksOfType_resource hblocks, hm', Content.blocksOfType_terraform hblocks]
  rfl

end Loading

/-! ## Loading -/

section Inventory

variable {ds : List Declaration} {d : Disk} {directory path : String} {registry : Registry}

/-- Declarations with different keys can be loaded if no number is out of range. -/
theorem Module.exists_loadCached (h : d.HoldsDeclarations directory path ds)
    (hwithin : ds.all Declaration.withinLimits = true) (hkeys : (ds.map Declaration.key).Nodup) :
    ∃ loaded, loadCached {} d directory = .ok loaded := by
  have hbody : ∃ body, d.readConfig path = .ok body ∧ body.Declares ds := by
    have hdrafted := h.drafted
    cases hread : d.readConfig path with
    | error e =>
      rw [hread] at hdrafted
      cases hdrafted with
      | beyondLimits hbeyond =>
        rw [hwithin] at hbeyond
        cases hbeyond
    | ok body =>
      rw [hread] at hdrafted
      cases hdrafted with
      | ok _ hbody => exact ⟨body, rfl, hbody⟩
  obtain ⟨body, hread, hbody⟩ := hbody
  obtain ⟨m, hm⟩ := exists_addFile (m := ⟨directory, [], []⟩) hbody (by simpa using hkeys)
  -- The one file of the directory is not in the cache yet.
  have hget : ParseCache.get {} d path = .ok (body, ⟨[(path, body)]⟩) := by
    simp only [ParseCache.get, ParseCache.find?, List.lookup_nil, hread]
    rfl
  refine ⟨(m, ⟨[(path, body)]⟩), ?_⟩
  simp only [loadCached, loadWith, h.isDirectory, h.configFiles, List.foldlM_cons, List.foldlM_nil,
    hget, Except.mapError, bind, Except.bind, hm]
  rfl

namespace Inventory

variable {i : Inventory}

/-- The inventory with another registry and other required providers. -/
def asking (i : Inventory) (registry : Registry) (required : List (String × RequiredProvider)) :
    Inventory :=
  { i with registry := registry, module := { i.module with required := required } }

/-- The inventory has the declaration as a resource, and finds its block whatever the registry, the
required providers and the disk are. -/
structure Shows (i : Inventory) (decl : Declaration) (r : Resource) : Prop where
  /-- The type is the one that is declared. -/
  type : r.type = decl.type
  /-- So is the name. -/
  name : r.name = decl.name
  /-- The provider is the one that the type stands for. -/
  provider : r.provider = ⟨Module.impliedProvider decl.type, none⟩
  /-- The block that is found is a block of the declaration. -/
  block : ∃ b, decl.Block b ∧ ∀ registry required d,
    (i.asking registry required).block d r = (.ok b, i.asking registry required)

/-- Two relations with one list between them relate the outer lists member by member. -/
theorem forall₂_comp {R : α → β → Prop} {S : β → γ → Prop} {as : List α} {bs : List β}
    {cs : List γ} (h : List.Forall₂ R as bs) (h' : List.Forall₂ S bs cs) :
    List.Forall₂ (fun a c => ∃ b ∈ bs, R a b ∧ S b c) as cs := by
  induction h generalizing cs with
  | nil =>
    cases h'
    exact .nil
  | @cons a b as bs hab _ ih =>
    cases h' with
    | cons hbc hrest =>
      refine .cons ⟨b, by simp, hab, hbc⟩ ((ih hrest).imp ?_)
      rintro a c ⟨b, hb, hab, hbc⟩
      exact ⟨b, by simp [hb], hab, hbc⟩

/-- A module that could be loaded has no number out of range and shows all declarations, in
order. -/
theorem forall₂_shows (h : d.HoldsDeclarations directory path ds)
    (hload : load d registry directory = .ok i) :
    ds.all Declaration.withinLimits = true ∧ List.Forall₂ i.Shows ds i.module.resources := by
  have hloaded : Ensures (fun i : Inventory =>
      i.module.Declared ([path].flatMap d.resourceBlocks) ∧
        ∀ file ∈ [path], Module.Held d i.cache file) (load d registry directory) := by
    rw [← h.configFiles]
    exact .map (Module.ensures_loadCached d directory) fun _ hloaded => hloaded
  obtain ⟨hdeclared, hheld⟩ := hloaded i hload
  -- The body that is held was read from the file, so the file has no number out of range.
  obtain ⟨body, content, hfind, hread, -⟩ := hheld path (by simp)
  have hdrafted := h.drafted
  rw [hread] at hdrafted
  cases hdrafted with
  | ok hwithin hbody =>
    obtain ⟨blocks, hblocks, hforall⟩ := hbody
    have hresources : [path].flatMap d.resourceBlocks = blocks := by
      simp only [List.flatMap_singleton, Disk.resourceBlocks, hread, Body.resourceBlocks, hblocks]
      exact Content.blocksOfType_resource hforall
    rw [← hresources] at hforall
    -- The blocks stand between the declarations and the resources.
    refine ⟨hwithin, (forall₂_comp hforall hdeclared.declares).imp ?_⟩
    rintro decl r ⟨b, hb, hdecl, hr⟩
    obtain ⟨hsole, hfile⟩ := hdeclared.soleDeclaration hheld hb hr
    obtain rfl := List.mem_singleton.1 hfile
    have hreads := Except.ok.inj ((Declaration.resourceOf_eq hdecl).symm.trans hr.reads)
    refine ⟨?_, ?_, ?_, b, hdecl, fun registry' required d' => ?_⟩
    · rw [← hreads]
    · rw [← hreads]
    · rw [← hreads]
    · rw [block_of_find? (i := i.asking registry' required) hfind, hsole.blockIn_eq hread]

theorem key_eq_of_shows {decl : Declaration} {r : Resource} (h : i.Shows decl r) :
    r.key = decl.key := by
  rw [Resource.key, Declaration.key, h.type, h.name]

/-- Declarations can be loaded exactly if no number is out of range and the keys are different,
whatever the notation is. -/
theorem load_ok_iff (h : d.HoldsDeclarations directory path ds) :
    (∃ i, load d registry directory = .ok i) ↔
      ds.all Declaration.withinLimits = true ∧ (ds.map Declaration.key).Nodup := by
  constructor
  · rintro ⟨i, hload⟩
    obtain ⟨hwithin, hshows⟩ := forall₂_shows h hload
    have hkeys : i.module.resources.map Resource.key = ds.map Declaration.key := by
      rw [eq_comm, ← List.forall₂_eq_eq_eq, List.forall₂_map_left_iff, List.forall₂_map_right_iff]
      exact hshows.imp fun _ _ hr => (key_eq_of_shows hr).symm
    have hloaded : Ensures (fun i : Inventory => (i.module.resources.map Resource.key).Nodup)
        (load d registry directory) :=
      .map (Module.ensures_loadCached d directory) fun _ hloaded => hloaded.1.keys
    exact ⟨hwithin, hkeys ▸ hloaded i hload⟩
  · rintro ⟨hwithin, hkeys⟩
    obtain ⟨loaded, hloaded⟩ := Module.exists_loadCached h hwithin hkeys
    exact ⟨_, by rw [load, hloaded]; rfl⟩

/-- Resources that show one declaration are declared alike. -/
theorem alike_of_shows {i' : Inventory} {decl : Declaration} {r r' : Resource}
    (h : i.Shows decl r) (h' : i'.Shows decl r') : r.Alike r' :=
  ⟨h.type.trans h'.type.symm, h.name.trans h'.name.symm, h.provider.trans h'.provider.symm⟩

/-- Resources that show one declaration give the same cells, or fail for reasons of one class. -/
theorem agree_cells_of_shows {i' : Inventory} {decl : Declaration} {r r' : Resource}
    (h : i.Shows decl r) (h' : i'.Shows decl r') (registry : Registry)
    (required : List (String × RequiredProvider)) (e e' : Disk) (names : List String) :
    Agree ((i.asking registry required).cells e r names).1
      ((i'.asking registry required).cells e' r' names).1 := by
  obtain ⟨b, hb, hblock⟩ := h.block
  obtain ⟨b', hb', hblock'⟩ := h'.block
  simp only [cells, hblock, hblock']
  exact Resource.agree_resolve (alike_of_shows h h') hb hb' names registry required

/-- A module in the native notation and one in JSON with the same declarations: both load or neither
does; then they have the same resources, and whatever the registry, the required providers and the
attributes that are asked for, these have the same cells or fail for reasons of one class. -/
theorem encodings_agree (ds : List Declaration) {d d' : Disk}
    {directory directory' path path' : String}
    (h : d.HoldsFile directory path (Native.encodeFile ds))
    (hpath : FileName.notationOf path = .native)
    (h' : d'.HoldsFile directory' path' (Json.encodeFile ds))
    (hpath' : FileName.notationOf path' = .json) (registry registry' : Registry) :
    ((∃ i, load d registry directory = .ok i) ↔ ∃ i', load d' registry' directory' = .ok i') ∧
      ∀ i i', load d registry directory = .ok i → load d' registry' directory' = .ok i' →
        List.Forall₂ (fun r r' => r.Alike r' ∧ ∀ registry required e e' names,
          Agree ((i.asking registry required).cells e r names).1
            ((i'.asking registry required).cells e' r' names).1)
          i.module.resources i'.module.resources := by
  have hds := h.native hpath
  have hds' := h'.json hpath'
  refine ⟨(load_ok_iff hds).trans (load_ok_iff hds').symm, fun i i' hi hi' => ?_⟩
  have hshows := (forall₂_shows hds hi).2
  have hshows' := (forall₂_shows hds' hi').2
  -- The declarations stand between the resources of both.
  refine (forall₂_comp hshows.flip hshows').imp ?_
  rintro r r' ⟨decl, -, hr, hr'⟩
  exact ⟨alike_of_shows hr hr', agree_cells_of_shows hr hr'⟩

/-- A text with quotes, a line break and what looks like a template, and a numeral with an exponent,
in a resource whose name looks like a template too. -/
theorem encodings_agree_doubled :
    let cells : List (String × Cell) :=
      [("a", .string "$\x7bb\x7d\"\n"), ("n", .number (.ofDecimal ⟨false, 1, 2⟩))]
    let ds : List Declaration := [⟨"t", "$\x7b",
      [⟨"a", .text "$\x7bb\x7d\"\n", by decide, by decide, by decide⟩,
        ⟨"n", .number ⟨['1', 'e', '2'], by decide, by decide, by decide⟩, by decide, by decide,
          by decide⟩], by decide, by decide⟩]
    let registry : Registry := ⟨[(⟨"registry.terraform.io", "hashicorp", "t"⟩,
      ⟨[("t", ⟨["a", "n"].map (·, ⟨.text "dynamic", false, true, false⟩)⟩)]⟩)]⟩
    let required : List (String × RequiredProvider) := [("t", ⟨"t", none⟩)]
    let d : Disk := ⟨[], [(["m"], .directory),
      (["m", "a.tf"], .file (Native.encodeFile ds).toUTF8)]⟩
    let d' : Disk := ⟨[], [(["m"], .directory),
      (["m", "a.tf.json"], .file (Json.encodeFile ds).toUTF8)]⟩
    ∃ i i' r', load d {} "m" = .ok i ∧ load d' {} "m" = .ok i' ∧
      i.module.resources = [⟨"t", "$\x7b", "m/a.tf", 1, ⟨"t", none⟩⟩] ∧
      i'.module.resources = [r'] ∧
      ((i'.asking registry required).cells d' r' ["a", "n"]).1 = .ok cells := by
  intro cells ds registry required d d'
  have hnames : d.names "m" = ["a.tf"] := by decide +kernel
  have hnames' : d'.names "m" = ["a.tf.json"] := by decide +kernel
  have hfile : d.HoldsFile "m" "m/a.tf" (Native.encodeFile ds) := by
    refine ⟨by decide +kernel, ?_, rfl⟩
    simp only [Module.configFiles, hnames, List.mergeSort_singleton]
    decide +kernel
  have hfile' : d'.HoldsFile "m" "m/a.tf.json" (Json.encodeFile ds) := by
    refine ⟨by decide +kernel, ?_, rfl⟩
    simp only [Module.configFiles, hnames', List.mergeSort_singleton]
    decide +kernel
  obtain ⟨hiff, hagree⟩ :=
    encodings_agree ds hfile (by decide +kernel) hfile' (by decide +kernel) {} {}
  -- Only the native module is evaluated, what holds of the other one follows.
  let r : Resource := ⟨"t", "$\x7b", "m/a.tf", 1, ⟨"t", none⟩⟩
  have hloaded : (load d {} "m").map (fun i =>
      (i.module.resources, ((i.asking registry required).cells d r ["a", "n"]).1)) =
        .ok ([r], .ok cells) := by
    simp only [load, Module.loadCached, Module.loadWith, hfile.configFiles]
    decide +kernel
  cases hload : load d {} "m" with
  | error e =>
    rw [hload] at hloaded
    cases hloaded
  | ok i =>
    rw [hload] at hloaded
    obtain ⟨hresources, hcells⟩ := Prod.mk.inj (Except.ok.inj hloaded)
    obtain ⟨i', hload'⟩ := hiff.1 ⟨i, hload⟩
    have hforall := hagree i i' hload hload'
    rw [hresources] at hforall
    obtain ⟨r', rest, ⟨-, hsame⟩, hnil, hresources'⟩ := List.forall₂_cons_left_iff.1 hforall
    rw [List.forall₂_nil_left_iff.1 hnil] at hresources'
    have hagreed := hsame registry required d d' ["a", "n"]
    rw [hcells] at hagreed
    exact ⟨i, i', r', rfl, hload', hresources, hresources', hagreed.eq_ok⟩

end Inventory

end Inventory

end ResourceTables
