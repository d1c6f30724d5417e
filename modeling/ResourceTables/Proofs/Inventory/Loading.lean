import ResourceTables.Proofs.Inventory.Contributions

/-!
# When a directory can be loaded

Whether a module can be loaded depends on what all its files contribute together: each file has to
be read, and nothing may be declared twice.

* `Takes`: a step of loading takes in what a reading contributes, unless something is then declared
  twice. Steps one after the other take in what they contribute together;
* `Module.load_eq_ok_iff`: a directory can be loaded exactly if all files can be read and nothing is
  declared twice;
* `Module.clash_of_load_eq_error`: if all files can be read, loading fails only because of something
  that is declared twice;
* `Module.loadCached_map_fst`: keeping the files that were read in a cache makes no difference.
-/

namespace ResourceTables

/-! ## Taking contributions in -/

namespace Module

/-- What the module holds. -/
def contribution (m : Module) : Contribution :=
  ⟨m.resources, m.required⟩

/-- The module with a contribution behind what it holds. -/
def extend (m : Module) (c : Contribution) : Module :=
  ⟨m.path, m.resources ++ c.resources, m.required ++ c.required⟩

variable {m m' : Module} {c c' : Contribution}

theorem extend_extend : (m.extend c).extend c' = m.extend (c ++ c') := by
  simp [extend]

theorem extend_empty : m.extend {} = m := by
  simp [extend]

end Module

/-- The error says that something is declared twice, and so it is. -/
inductive LoadError.Clash (c : Contribution) : LoadError → Prop
  /-- Two resources have one key. -/
  | resource {pos : Pos} {key file : String} {line : Nat}
      (h : ¬ (c.resources.map Resource.key).Nodup) : Clash c (.duplicateResource pos key file line)
  /-- A provider is required twice. -/
  | provider {pos : Pos} {name : String} (h : ¬ (c.required.map Prod.fst).Nodup) :
      Clash c (.duplicateProvider pos name)

/-- What clashes in a contribution clashes in a longer one too. -/
theorem LoadError.Clash.append {e : LoadError} {c : Contribution} (h : e.Clash c)
    (c' : Contribution) : e.Clash (c ++ c') := by
  cases h with
  | resource h =>
    refine .resource fun hnodup => h ?_
    rw [Contribution.resources_append, List.map_append] at hnodup
    exact (List.nodup_append.1 hnodup).1
  | provider h =>
    refine .provider fun hnodup => h ?_
    rw [Contribution.required_append, List.map_append] at hnodup
    exact (List.nodup_append.1 hnodup).1

/-- The step takes in what the reading contributes, unless something is then declared twice. -/
structure Takes (step : Module → Except LoadError Module) (x : Except LoadError Contribution) :
    Prop where
  /-- The step succeeds exactly if there is a contribution and nothing is declared twice with it. -/
  ok_iff : ∀ {m m' : Module}, m.contribution.Distinct →
    (step m = .ok m' ↔ ∃ c, x = .ok c ∧ (m.contribution ++ c).Distinct ∧ m' = m.extend c)
  /-- If there is a contribution, only what is declared twice fails the step. -/
  clash : ∀ {m : Module} {c : Contribution} {e : LoadError}, m.contribution.Distinct →
    x = .ok c → step m = .error e → e.Clash (m.contribution ++ c)

namespace Takes

variable {step next : Module → Except LoadError Module} {x y : Except LoadError Contribution}

/-- A step takes a contribution in if it adds it or, where something is then declared twice, says
so. -/
theorem of_contribution {c : Contribution}
    (hadds : ∀ m : Module, m.contribution.Distinct → (m.contribution ++ c).Distinct →
      step m = .ok (m.extend c))
    (hclash : ∀ m : Module, m.contribution.Distinct → ¬ (m.contribution ++ c).Distinct →
      ∃ e, step m = .error e ∧ e.Clash (m.contribution ++ c)) :
    Takes step (.ok c) := by
  constructor
  · intro m m' hm
    -- Whether the module has room for the contribution decides between the two.
    by_cases hdistinct : (m.contribution ++ c).Distinct
    · rw [hadds m hm hdistinct]
      exact ⟨fun h => ⟨c, rfl, hdistinct, (Except.ok.inj h).symm⟩, fun ⟨_, rfl, _, h⟩ => by rw [h]⟩
    · obtain ⟨e, he, -⟩ := hclash m hm hdistinct
      rw [he]
      exact ⟨nofun, fun ⟨_, rfl, h, _⟩ => absurd h hdistinct⟩
  · rintro m c' e hm ⟨⟩ he
    by_cases hdistinct : (m.contribution ++ c).Distinct
    · rw [hadds m hm hdistinct] at he
      cases he
    · obtain ⟨e', he', hclash'⟩ := hclash m hm hdistinct
      rw [he'] at he
      cases he
      exact hclash'

/-- A step that fails whatever the module is takes nothing in. -/
theorem of_error {e : LoadError} (h : ∀ m, ∃ e', step m = .error e') : Takes step (.error e) := by
  constructor
  · intro m m' _
    obtain ⟨e', he'⟩ := h m
    rw [he']
    exact ⟨nofun, nofun⟩
  · rintro m c e' - ⟨⟩

/-- Reading something first, whatever the module is, goes into the reading. -/
theorem read {z : Except LoadError β} {step : Module → β → Except LoadError Module}
    {f : β → Except LoadError Contribution} (h : ∀ b, Takes (step · b) (f b)) :
    Takes (fun m => z >>= step m) (z >>= f) := by
  cases z with
  | ok b => exact h b
  | error e => exact of_error fun m => ⟨e, rfl⟩

/-- Two steps, one after the other, take in both contributions. -/
theorem bind (hx : Takes step x) (hy : Takes next y) :
    Takes (fun m => step m >>= next) (do return (← x) ++ (← y)) := by
  constructor
  · intro m m' hm
    rw [bind_eq_ok_iff]
    constructor
    · rintro ⟨m₁, hstep, hnext⟩
      obtain ⟨c₁, hc₁, hdistinct, rfl⟩ := (hx.ok_iff hm).1 hstep
      obtain ⟨c₂, hc₂, hdistinct', rfl⟩ := (hy.ok_iff (m := m.extend c₁) hdistinct).1 hnext
      refine ⟨c₁ ++ c₂, append_eq_ok_iff.2 ⟨c₁, c₂, hc₁, hc₂, rfl⟩, ?_, Module.extend_extend⟩
      rwa [← Contribution.append_assoc]
    -- What is declared once in both together is declared once behind the first step.
    · rintro ⟨c, hc, hdistinct, rfl⟩
      obtain ⟨c₁, c₂, hc₁, hc₂, rfl⟩ := append_eq_ok_iff.1 hc
      rw [← Contribution.append_assoc] at hdistinct
      have hfirst := hdistinct.of_append_left
      refine ⟨m.extend c₁, (hx.ok_iff hm).2 ⟨c₁, hc₁, hfirst, rfl⟩, ?_⟩
      rw [← Module.extend_extend]
      exact (hy.ok_iff (m := m.extend c₁) hfirst).2 ⟨c₂, hc₂, hdistinct, rfl⟩
  · intro m c e hm hc he
    obtain ⟨c₁, c₂, hc₁, hc₂, rfl⟩ := append_eq_ok_iff.1 hc
    rw [← Contribution.append_assoc]
    -- Either the first step fails already, or the second one fails behind what the first takes in.
    cases hstep : step m with
    | error e' =>
      rw [hstep] at he
      cases he
      exact (hx.clash hm hc₁ hstep).append c₂
    | ok m₁ =>
      rw [hstep] at he
      obtain ⟨c₁', hc₁', hdistinct, rfl⟩ := (hx.ok_iff hm).1 hstep
      rw [hc₁] at hc₁'
      cases hc₁'
      exact hy.clash (m := m.extend c₁) hdistinct hc₂ he

/-- A step for each element of a list takes in what the elements contribute. -/
theorem foldlM {step : Module → α → Except LoadError Module}
    {f : α → Except LoadError Contribution} (h : ∀ a, Takes (step · a) (f a)) (as : List α) :
    Takes (fun m => as.foldlM step m) (collect f as) := by
  induction as with
  | nil =>
    refine of_contribution (fun m _ _ => ?_) fun m hm hdistinct => ?_
    · rw [List.foldlM_nil, Module.extend_empty]
      rfl
    · rw [Contribution.append_empty] at hdistinct
      exact absurd hm hdistinct
  | cons a as ih =>
    simp only [List.foldlM_cons]
    exact (h a).bind ih

end Takes

/-- A cache that holds files as they are on the disk does not change what is read. -/
theorem ParseCache.get_map_fst {c : ParseCache} {d : Disk} (h : c.From d)
    (path : String) : (c.get d path).map Prod.fst = d.readConfig path := by
  unfold get
  cases hfind : c.find? path with
  | some body => exact (h path body hfind).symm
  | none => cases d.readConfig path <;> rfl

namespace Module

/-- A list without repetitions stays so with one more element exactly if this is a new one. -/
theorem nodup_append_singleton {l : List α} {a : α} (h : l.Nodup) :
    (l ++ [a]).Nodup ↔ a ∉ l := by
  rw [List.nodup_append]
  constructor
  · rintro ⟨-, -, hne⟩ hmem
    exact hne a hmem a (List.mem_singleton_self a) rfl
  · intro hnew
    refine ⟨h, List.pairwise_singleton _ a, fun b hb b' hb' heq => hnew ?_⟩
    rwa [← List.mem_singleton.1 hb', ← heq]

variable {m : Module}

/-- One more resource leaves the keys different exactly if its key is not there yet. -/
theorem nodup_keys_iff (hm : m.contribution.Distinct) (r : Resource) :
    ((m.resources ++ [r]).map Resource.key).Nodup ↔ m.resource? r.key = none := by
  have hkeys : (m.resources.map Resource.key).Nodup := hm.keys
  rw [List.map_append, List.map_singleton, nodup_append_singleton hkeys, resource?,
    List.find?_eq_none]
  simp

/-- One more requirement leaves the names different exactly if its name is not there yet. -/
theorem nodup_names_iff (hm : m.contribution.Distinct) (name : String) (p : RequiredProvider) :
    ((m.required ++ [(name, p)]).map Prod.fst).Nodup ↔ m.required.lookup name = none := by
  have hnames : (m.required.map Prod.fst).Nodup := hm.names
  rw [List.map_append, List.map_singleton, nodup_append_singleton hnames, List.lookup_eq_none_iff]
  refine ⟨fun hnew q hq => ?_, fun hnone hmem => ?_⟩
  · rw [bne_iff_ne]
    rintro rfl
    exact hnew (List.mem_map.2 ⟨q, hq, rfl⟩)
  · obtain ⟨q, hq, rfl⟩ := List.mem_map.1 hmem
    simpa using hnone q hq

/-- A resource is taken in under a new key. -/
theorem takes_addResource (b : Block) : Takes (addResource · b) b.resource := by
  refine .read fun r => .of_contribution (fun m hm hdistinct => ?_) fun m hm hclash => ?_
  · have hnew : m.resource? r.key = none := (nodup_keys_iff hm r).1 hdistinct.keys
    simp [hnew, extend, pure, Except.pure]
  · have hkeys : ¬ ((m.resources ++ [r]).map Resource.key).Nodup := by
      intro hkeys
      exact hclash ⟨hkeys, by simpa using hm.names⟩
    have hfirst := mt (nodup_keys_iff hm r).2 hkeys
    obtain ⟨first, hfirst⟩ := Option.ne_none_iff_exists'.1 hfirst
    simp only [hfirst]
    exact ⟨_, rfl, .resource hkeys⟩

/-- A requirement is taken in under a new name. -/
theorem takes_addRequirement (a : Attribute) : Takes (addRequirement · a) a.requirement := by
  unfold Attribute.requirement
  -- A name that is required already fails the step before its provider is read, so an error of the
  -- reading fails every step, but not always as this error.
  cases hp : requirementOf a with
  | error e =>
    refine .of_error fun m => ?_
    rw [addRequirement, hp]
    split <;> exact ⟨_, rfl⟩
  | ok p =>
    refine .of_contribution (fun m hm hdistinct => ?_) fun m hm hclash => ?_
    · have hnew : m.required.lookup a.name = none :=
        (nodup_names_iff hm a.name p).1 hdistinct.names
      simp [addRequirement, hnew, hp, extend, pure, Except.pure, bind, Except.bind]
    · have hnames : ¬ ((m.required ++ [(a.name, p)]).map Prod.fst).Nodup := by
        intro hnames
        exact hclash ⟨by simpa using hm.keys, hnames⟩
      have hfirst := mt (nodup_names_iff hm a.name p).2 hnames
      have hsome : (m.required.lookup a.name).isSome := Option.isSome_iff_ne_none.2 hfirst
      rw [addRequirement, if_pos hsome]
      exact ⟨_, rfl, .provider hnames⟩

theorem takes_addRequirements (b : Block) : Takes (addRequirements · b) b.requirements :=
  .read fun attributes => .foldlM takes_addRequirement attributes

theorem takes_addSettings (b : Block) : Takes (addSettings · b) b.settings :=
  .read fun content => .foldlM takes_addRequirements (content.blocksOfType "required_providers")

theorem takes_addFile (body : Body) : Takes (addFile · body) body.contribution :=
  .read fun content => .bind (.foldlM takes_addResource (content.blocksOfType "resource"))
    (.foldlM takes_addSettings (content.blocksOfType "terraform"))

/-! ## Loading -/

/-- Loading takes in one file after the other, wherever it gets what is on the disk from. The
property `I` is what the source of the files keeps. -/
theorem loadWith_map_fst {fetch : σ → String → Except ReadError (Body × σ)} {I : σ → Prop}
    {d : Disk} (hfetch : ∀ s, I s → ∀ path, (fetch s path).map Prod.fst = d.readConfig path ∧
      Ensures (fun found => I found.2) (fetch s path)) {s : σ} (hs : I s) {directory : String}
    (hdir : d.isDirectory directory = true) :
    (loadWith fetch s d directory).map Prod.fst = (configFiles d directory).foldlM
      (fun m path => (d.readConfig path).mapError .read >>= m.addFile) ⟨directory, [], []⟩ := by
  rw [loadWith, hdir]
  show Except.map Prod.fst (List.foldlM _ (Module.mk directory [] [], s) _) = _
  generalize Module.mk directory [] [] = m
  -- The source can change with each file, so the induction is for every source with the property.
  induction configFiles d directory generalizing m s with
  | nil => rfl
  | cons path paths ih =>
    obtain ⟨hread, hkept⟩ := hfetch s hs path
    rw [List.foldlM_cons, List.foldlM_cons, ← hread]
    cases hfound : fetch s path with
    | error e =>
      simp only [hfound]
      rfl
    | ok found =>
      obtain ⟨body, s'⟩ := found
      simp only [hfound]
      show Except.map _ ((m.addFile body >>= fun m => pure (m, s')) >>= _) = m.addFile body >>= _
      cases m.addFile body with
      | error e => rfl
      | ok m' => exact ih (hkept _ hfound) m'

theorem load_eq {d : Disk} {directory : String} (hdir : d.isDirectory directory = true) :
    load d directory = (configFiles d directory).foldlM
      (fun m path => (d.readConfig path).mapError .read >>= m.addFile) ⟨directory, [], []⟩ := by
  refine loadWith_map_fst (I := fun _ : Unit => True) ?_ trivial hdir
  intro s _ path
  constructor
  · cases d.readConfig path <;> rfl
  · exact .trivial

/-- Loading with an empty cache gives the same module, or the same error, as loading without one. -/
theorem loadCached_map_fst (d : Disk) (directory : String) :
    (loadCached {} d directory).map Prod.fst = load d directory := by
  cases hdir : d.isDirectory directory with
  | false =>
    simp only [load, loadCached, loadWith, hdir]
    rfl
  | true =>
    rw [load_eq hdir, loadCached]
    refine loadWith_map_fst (I := ParseCache.From d) (fun c hc path => ?_) (.empty d) hdir
    exact ⟨ParseCache.get_map_fst hc path,
      (c.ensures_get d path).mono fun _ hget => hget.2.2 hc⟩

/-- Where the names in a directory are in order already, its configuration files are in this order.
-/
theorem configFiles_of_pairwise {d : Disk} {directory : String}
    (h : (d.names directory).Pairwise (· ≤ ·)) :
    configFiles d directory = ((d.names directory).filter fun name =>
      FileName.isConfig name && !FileName.isOverride name &&
        d.isFile (Path.join directory name)).map (Path.join directory) := by
  have hsorted : (d.names directory).mergeSort (fun a b => a ≤ b) = d.names directory :=
    List.mergeSort_of_pairwise (h.imp fun hle => decide_eq_true hle)
  rw [configFiles, hsorted]

theorem distinct_empty : ({} : Contribution).Distinct :=
  ⟨List.nodup_nil, List.nodup_nil⟩

theorem takes_files (d : Disk) (directory : String) :
    Takes (fun m => (configFiles d directory).foldlM
        (fun m path => (d.readConfig path).mapError .read >>= m.addFile) m)
      (collect d.fileContribution (configFiles d directory)) :=
  .foldlM (fun _ => .read takes_addFile) _

variable {d : Disk} {directory : String}

/-- A directory can be loaded exactly if all its files can be read and nothing in them is declared
twice; the module holds what the files contribute. -/
theorem load_eq_ok_iff {m : Module} :
    load d directory = .ok m ↔
      ∃ c, d.contribution directory = .ok c ∧ c.Distinct ∧
        m = ⟨directory, c.resources, c.required⟩ := by
  cases hdir : d.isDirectory directory with
  | false =>
    simp only [load, loadWith, Disk.contribution, hdir]
    constructor
    · intro h
      cases h
    · rintro ⟨c, hc, -⟩
      cases hc
  | true =>
    rw [load_eq hdir, contribution_of_isDirectory hdir]
    exact (takes_files d directory).ok_iff (m := ⟨directory, [], []⟩) distinct_empty

/-- Nothing in a loaded module is declared twice. -/
theorem distinct_of_load {m : Module} (hm : load d directory = .ok m) :
    m.contribution.Distinct := by
  obtain ⟨c, -, hdistinct, rfl⟩ := load_eq_ok_iff.1 hm
  exact hdistinct

/-- The resources of a loaded module are what the `resource` blocks of its files declare. -/
theorem declares_of_load {m : Module} (hm : load d directory = .ok m) :
    List.Forall₂ Block.Declares (writtenResources d directory) m.resources := by
  obtain ⟨c, hc, -, rfl⟩ := load_eq_ok_iff.1 hm
  exact d.ensures_contribution directory c hc

/-- If all files can be read, loading fails only where something is declared twice. -/
theorem clash_of_load_eq_error {c : Contribution} {e : LoadError}
    (hc : d.contribution directory = .ok c) (he : load d directory = .error e) : e.Clash c := by
  have hdir := isDirectory_of_contribution hc
  rw [load_eq hdir] at he
  rw [contribution_of_isDirectory hdir] at hc
  exact (takes_files d directory).clash (m := ⟨directory, [], []⟩) distinct_empty hc he

end Module

end ResourceTables
