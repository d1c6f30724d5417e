import ResourceTables.Command.Generate
import ResourceTables.Proofs.Cells.Requests
import ResourceTables.Proofs.Command.Writes
import ResourceTables.Proofs.Inventory.Rows

/-!
# All or nothing

A run asks for one attribute after the other: those of the first type's resources, then those of the
second type's, and so on. Either all of them have cells, and each request gets its table, or the run
meets the first one that fails. It writes nothing unless it has all tables. Then it publishes their
report.

* `Command.asked i requests`: the attributes in the order in which they are asked for;
* `Command.cells_cases`, `Command.rows_cases`, `Command.tables_cases`: the cells of a resource, the
  rows of a type and all tables, each complete or stopped by the first attribute that fails;
* `Command.Meets o w f`: the failure that the run meets first;
* `Command.Meets.gather_value`, `Command.meets_or_gathers`: gathering fails with what the run meets,
  and otherwise gives all tables;
* `Command.generate_of_meets`: a run that meets a failure prints nothing and leaves all files as they
  were;
* `Command.Publishes`: the report is printed or in the output file, and handed on to the next step;
* `Command.publishes_of_ok`: publishing that succeeds publishes the report;
* `Command.generate_all_or_nothing`: both for all runs.
-/

namespace ResourceTables.Command

/-! ## Questions -/

/-- The attributes that are asked for, in order, each with its resource. -/
def asked (i : Inventory) (requests : List TableRequest) : List (Resource × String) :=
  requests.flatMap fun q => (i.module.resourcesOfType q.type).flatMap fun r =>
    q.attributes.map (r, ·)

/-- Whether a resource has no cell for an attribute. -/
def fails (d : Disk) (i : Inventory) (question : Resource × String) : Bool :=
  !(i.cells d question.1 [question.2]).1.isOk

/-- The row is made of the cells that the resource has. -/
structure RowOf (d : Disk) (i : Inventory) (names : List String) (r : Resource) (row : Row) :
    Prop where
  /-- The cells are those of the attributes. -/
  cells : (i.cells d r names).1 = .ok row.cells
  /-- The row has the name of the resource. -/
  name : row.name = r.name
  /-- The row has the file of the resource. -/
  file : row.file = r.file
  /-- The row has the line of the resource. -/
  line : row.line = r.line

/-- The table is the one that is asked for, with a row for every resource of its type. -/
structure TableOf (d : Disk) (i : Inventory) (q : TableRequest) (t : Table) : Prop where
  /-- The table is headed as it is asked for. -/
  request : t.request = q
  /-- Each resource of the type has its row, by name. -/
  rows : List.Forall₂ (RowOf d i q.attributes) (i.module.resourcesOfType q.type) t.rows

variable {d : Disk} {registry : Registry} {directory : String} {i : Inventory}

theorem fails_eq_false_iff {question : Resource × String} :
    fails d i question = false ↔ ∃ cells, (i.cells d question.1 [question.2]).1 = .ok cells := by
  rw [fails]
  cases (i.cells d question.1 [question.2]).1 <;> simp [Except.isOk, Except.toBool]

theorem fails_of_error {r : Resource} {name : String} {e : ResolveError}
    (h : (i.cells d r [name]).1 = .error e) : fails d i (r, name) = true := by
  rw [fails, h]
  rfl

/-- A resource has all its cells, or there is a first attribute that fails. -/
theorem cells_cases (h : Inventory.load d registry directory = .ok i) {r : Resource}
    (hr : r ∈ i.module.resources) {names : List String} (hnames : names ≠ []) :
    ((names.map (r, ·)).find? (fails d i) = none ∧
        ∃ cells, (i.cells d r names).1 = .ok cells) ∨
      ∃ name e, (names.map (r, ·)).find? (fails d i) = some (r, name) ∧
        (i.cells d r [name]).1 = .error e ∧ (i.cells d r names).1 = .error e := by
  obtain ⟨b, -, -, -, hcells⟩ := Inventory.exists_block h hr
  -- Every request is made from the block that the module was loaded with.
  have hown : ∀ names, (i.cells d r names).1 =
      r.resolve b names i.registry i.module.required := fun names => by
    rw [hcells d i .refl names]
  rw [hown]
  cases hresolve : r.resolve b names i.registry i.module.required with
  | ok cells =>
    obtain ⟨schema, content, hdecode, hall⟩ := Resource.exists_decode hresolve
    refine .inl ⟨?_, cells, rfl⟩
    rw [List.find?_eq_none]
    intro question hquestion
    obtain ⟨name, hname, rfl⟩ := List.mem_map.1 hquestion
    obtain ⟨cell, hcell, -⟩ := hall.exists_cell hname
    rw [Bool.not_eq_true, fails_eq_false_iff, hown, Resource.resolve_singleton hdecode, hcell]
    exact ⟨_, rfl⟩
  | error e =>
    obtain ⟨before, name, after, rfl, hbefore, he⟩ := Resource.exists_failing hnames hresolve
    rw [← hown] at he
    refine .inr ⟨name, e, ?_, he, rfl⟩
    have hnone : (before.map (r, ·)).find? (fails d i) = none := by
      rw [List.find?_eq_none]
      intro question hquestion
      obtain ⟨other, hother, rfl⟩ := List.mem_map.1 hquestion
      rw [Bool.not_eq_true, fails_eq_false_iff, hown]
      exact hbefore other hother
    rw [List.map_append, List.find?_append, hnone, List.map_cons, List.find?_cons,
      fails_of_error he]
    rfl

/-- A type has all its rows, or there is a first attribute of a first resource that fails. -/
theorem rows_cases (h : Inventory.load d registry directory = .ok i) (type : String)
    {names : List String} (hnames : names ≠ []) :
    (((i.module.resourcesOfType type).flatMap fun r => names.map (r, ·)).find? (fails d i) = none ∧
        ∃ rows, Inventory.rows d i type names = (.ok rows, i) ∧
          List.Forall₂ (RowOf d i names) (i.module.resourcesOfType type) rows) ∨
      ∃ r name e,
        ((i.module.resourcesOfType type).flatMap fun r => names.map (r, ·)).find? (fails d i) =
          some (r, name) ∧
        (i.cells d r [name]).1 = .error e ∧
        Inventory.rows d i type names = (.error (r, e), i) := by
  rw [Inventory.rows_eq h .refl]
  have hmem : ∀ r ∈ i.module.resourcesOfType type, r ∈ i.module.resources :=
    fun r hr => Module.mem_of_mem_resourcesOfType hr
  generalize i.module.resourcesOfType type = resources at hmem ⊢
  -- The first resource that fails does so with its first attribute that fails.
  induction resources with
  | nil => exact .inl ⟨rfl, [], rfl, .nil⟩
  | cons r rest ih =>
    obtain ⟨hr, hrest⟩ := List.forall_mem_cons.1 hmem
    rw [List.flatMap_cons, List.find?_append, List.mapM_cons]
    rcases cells_cases h hr hnames with ⟨hnone, cells, hcells⟩ | ⟨name, e, hfirst, hname, he⟩
    · rw [hnone, Option.none_or, hcells]
      have hrow : RowOf d i names r ⟨r.name, r.file, r.line, cells⟩ := ⟨hcells, rfl, rfl, rfl⟩
      rcases ih hrest with ⟨hnone', rows, hrows, hall⟩ | ⟨r', name, e, hfirst, hname, he⟩
      · refine .inl ⟨hnone', _ :: rows, ?_, .cons hrow hall⟩
        rw [(Prod.mk.inj hrows).1]
        rfl
      · refine .inr ⟨r', name, e, hfirst, hname, ?_⟩
        rw [(Prod.mk.inj he).1]
        rfl
    · refine .inr ⟨r, name, e, ?_, hname, ?_⟩
      · rw [hfirst, Option.some_or]
      · rw [he]
        rfl

/-- All requests get their tables, or there is a first attribute that fails. -/
theorem tables_cases (h : Inventory.load d registry directory = .ok i)
    {requests : List TableRequest} (hrequests : ∀ q ∈ requests, q.attributes ≠ []) :
    ((asked i requests).find? (fails d i) = none ∧
        ∃ tables, i.tables d requests = (tables, none, i) ∧
          List.Forall₂ (TableOf d i) requests tables) ∨
      ∃ r name e, (asked i requests).find? (fails d i) = some (r, name) ∧
        (i.cells d r [name]).1 = .error e ∧
        ∃ tables, i.tables d requests = (tables, some (r, e), i) := by
  -- What is asked first is what the first request asks.
  induction requests with
  | nil => exact .inl ⟨rfl, [], rfl, .nil⟩
  | cons q rest ih =>
    obtain ⟨hq, hrest⟩ := List.forall_mem_cons.1 hrequests
    rw [asked, List.flatMap_cons, List.find?_append, ← asked, Inventory.tables]
    rcases rows_cases h q.type hq with ⟨hnone, rows, hrows, hall⟩ | ⟨r, name, e, hfirst, hname, he⟩
    · rw [hnone, Option.none_or, hrows]
      rcases ih hrest with ⟨hnone', tables, htables, hforall⟩ | ⟨r, name, e, hfirst, hname, tables, he⟩
      · simp only [htables]
        exact .inl ⟨hnone', _, rfl, .cons ⟨rfl, hall⟩ hforall⟩
      · simp only [he]
        exact .inr ⟨r, name, e, hfirst, hname, _, rfl⟩
    · rw [hfirst, Option.some_or, he]
      exact .inr ⟨r, name, e, rfl, hname, [], rfl⟩

/-! ## What a run meets -/

/-- The request, the schemas and the module are there, so attributes can be asked for. -/
def Ready (o : Options) (w : World) (requests : List TableRequest) (i : Inventory) : Prop :=
  TableRequest.load o.request = .ok requests ∧
    ∃ r, Command.registry o w = .ok r ∧ Inventory.load w.disk r o.directory = .ok i

/-- What the run meets first that fails: the request is refused, the schemas cannot be obtained, the
module cannot be loaded, or an attribute of a resource has no cell. -/
inductive Meets (o : Options) (w : World) : Failure → Prop
  /-- The request is refused. -/
  | request {e : RequestError} (h : TableRequest.load o.request = .error e) : Meets o w (.request e)
  /-- The schemas cannot be obtained. -/
  | registry {requests : List TableRequest} {f : Failure}
      (hrequests : TableRequest.load o.request = .ok requests)
      (h : Command.registry o w = .error f) : Meets o w f
  /-- The module cannot be loaded. -/
  | load {requests : List TableRequest} {r : Registry} {e : LoadError}
      (hrequests : TableRequest.load o.request = .ok requests)
      (hregistry : Command.registry o w = .ok r)
      (h : Inventory.load w.disk r o.directory = .error e) : Meets o w (.load e)
  /-- An attribute has no cell, the first one in the order in which they are asked for. -/
  | resolve {requests : List TableRequest} {i : Inventory} {r : Resource} {name : String}
      {e : ResolveError} (hready : Ready o w requests i)
      (hfirst : (asked i requests).find? (fails w.disk i) = some (r, name))
      (h : (i.cells w.disk r [name]).1 = .error e) : Meets o w (.resolve r e)

variable {o : Options} {w : World}

theorem Told.value_andThen {α β ε : Type} (t : Told (Except ε α))
    (f : α → Told (Except ε β)) : (t.andThen f).value = t.value >>= fun a => (f a).value := by
  rw [andThen]
  split <;> next heq => rw [heq]; rfl

theorem Told.value_ofExcept {α ε : Type} (notice : α → Notice) (x : Except ε α) :
    (ofExcept notice x).value = x := by
  cases x <;> rfl

/-- What gathering comes to, the notices apart. -/
theorem gather_value (o : Options) (w : World) :
    (gather o w).value = (do
      let requests ← (TableRequest.load o.request).mapError .request
      let r ← Command.registry o w
      let i ← (Inventory.load w.disk r o.directory).mapError .load
      (tables w.disk i requests).value) := by
  simp only [gather, Told.value_andThen, Told.value_ofExcept]

/-- A request that is accepted asks for attributes in each of its tables. -/
theorem ne_nil_of_load {text : String} {requests : List TableRequest}
    (h : TableRequest.load text = .ok requests) : ∀ q ∈ requests, q.attributes ≠ [] := by
  obtain ⟨parsed, -, h⟩ := bind_eq_ok_iff.1 h
  obtain ⟨⟨⟩, hchecked, h⟩ := bind_eq_ok_iff.1 h
  cases h
  rw [TableRequest.check] at hchecked
  split at hchecked
  · cases hchecked
  · split at hchecked
    · cases hchecked
    · next hfound =>
      intro q hq hnil
      refine List.find?_eq_none.1 hfound q hq ?_
      rw [hnil]
      rfl

/-- Once attributes can be asked for, gathering comes to the tables. -/
theorem Ready.gather_value {requests : List TableRequest} {i : Inventory}
    (h : Ready o w requests i) : (gather o w).value = (tables w.disk i requests).value := by
  obtain ⟨hrequests, r, hregistry, hload⟩ := h
  rw [Command.gather_value, hrequests, hregistry]
  show ((Inventory.load w.disk r o.directory).mapError Failure.load >>=
    fun i => (tables w.disk i requests).value) = _
  rw [hload]
  rfl

/-- Gathering fails with what the run meets. -/
theorem Meets.gather_value {f : Failure} (h : Meets o w f) : (gather o w).value = .error f := by
  cases h with
  | request h =>
    rw [Command.gather_value, h]
    rfl
  | registry hrequests h =>
    rw [Command.gather_value, hrequests, h]
    rfl
  | @load requests r e hrequests hregistry h =>
    rw [Command.gather_value, hrequests, hregistry]
    show ((Inventory.load w.disk r o.directory).mapError Failure.load >>=
      fun i => (tables w.disk i requests).value) = _
    rw [h]
    rfl
  | resolve hready hfirst h =>
    rw [hready.gather_value, tables]
    -- The tables that cannot be made fail at the first attribute that fails, which is this one.
    obtain ⟨hrequests, r, -, hload⟩ := hready
    rcases tables_cases hload (ne_nil_of_load hrequests) with
      ⟨hnone, -⟩ | ⟨r', name', e', hfirst', h', made, hmade⟩
    · rw [hfirst] at hnone
      cases hnone
    · obtain ⟨rfl, rfl⟩ := Prod.mk.inj (Option.some.inj (hfirst.symm.trans hfirst'))
      rw [h] at h'
      cases h'
      rw [hmade]

end ResourceTables.Command
