import ResourceTables.Proofs.Inventory.Loading

/-!
# Required providers that are objects

A module requires providers by the entries of its `required_providers` blocks. An entry that is an
object is read for its source and its version, and other fields are passed over. But the object is
refused as a whole where any of its fields is not known, however deep.

* `Disk.outline`: what the files of a directory declare, with the entries still to be read;
* `Module.exists_load_iff`: a directory can be loaded exactly if it has an outline in which nothing
  is declared twice and all whose entries can be read;
* `Module.entry_of_object`: an entry that is an object with texts as its source and version keeps a
  directory from being loaded exactly if some field of the object is not wholly known.
-/

namespace ResourceTables

/-- What a piece of configuration declares: resources, and entries for required providers. -/
structure Outline where
  /-- The resources in the order of their declarations. -/
  resources : List Resource := []
  /-- The entries in the order of their declarations. -/
  entries : List Attribute := []

namespace Outline

/-- Two outlines, one after the other. -/
instance : Append Outline :=
  ⟨fun o o' => ⟨o.resources ++ o'.resources, o.entries ++ o'.entries⟩⟩

/-- The outlines of the elements of a list, one after the other. -/
def gather (f : α → Except LoadError Outline) : List α → Except LoadError Outline
  | [] => .ok {}
  | a :: rest => do return (← f a) ++ (← gather f rest)

/-- The contribution of an outline: its resources, and the providers that its entries require. -/
def complete (o : Outline) : Except LoadError Contribution := do
  return ⟨o.resources, ← o.entries.mapM fun a => do return (a.name, ← Module.requirementOf a)⟩

end Outline

/-- The outline of a `terraform` block: the entries of its `required_providers` blocks. -/
def Block.settingsOutline (b : Block) : Except LoadError Outline := do
  let content ← (b.body.partialContent Module.requirementsSchema).mapError .ofContent
  Outline.gather (fun b => do return ⟨[], ← b.body.justAttributes.mapError .ofContent⟩)
    (content.blocksOfType "required_providers")

/-- The outline of the body of a file. -/
def Body.outline (body : Body) : Except LoadError Outline := do
  let content ← (body.partialContent Module.schema).mapError .ofContent
  return (← Outline.gather (fun b => do return ⟨[← Module.resourceOf b], []⟩)
      (content.blocksOfType "resource")) ++
    (← Outline.gather Block.settingsOutline (content.blocksOfType "terraform"))

/-- The outline of a directory. -/
def Disk.outline (d : Disk) (directory : String) : Except LoadError Outline := do
  if !d.isDirectory directory then throw (.noDirectory directory)
  Outline.gather (fun path => do (← (d.readConfig path).mapError .read).outline)
    (Module.configFiles d directory)

namespace Outline

/-! ## From outlines to contributions -/

variable {o o' : Outline} {c : Contribution}

theorem complete_eq_ok_iff :
    o.complete = .ok c ↔
      c.resources = o.resources ∧
        (o.entries.mapM fun a => do return (a.name, ← Module.requirementOf a)) =
          Except.ok c.required := by
  rw [complete, bind_eq_ok_iff]
  constructor
  · rintro ⟨required, hrequired, h⟩
    cases h
    exact ⟨rfl, hrequired⟩
  · rintro ⟨hresources, hrequired⟩
    exact ⟨c.required, hrequired, by rw [← hresources]; rfl⟩

theorem complete_append_eq_ok_iff :
    (o ++ o').complete = .ok c ↔
      ∃ b b', o.complete = .ok b ∧ o'.complete = .ok b' ∧ c = b ++ b' := by
  simp only [complete_eq_ok_iff]
  show c.resources = o.resources ++ o'.resources ∧ (o.entries ++ o'.entries).mapM _ = _ ↔ _
  rw [List.mapM_append]
  simp only [bind_eq_ok_iff]
  constructor
  · rintro ⟨hresources, required, hleft, required', hright, h⟩
    refine ⟨⟨o.resources, required⟩, ⟨o'.resources, required'⟩, ⟨rfl, hleft⟩, ⟨rfl, hright⟩, ?_⟩
    have hrequired : required ++ required' = c.required := Except.ok.inj h
    show c = ⟨o.resources ++ o'.resources, required ++ required'⟩
    rw [← hresources, hrequired]
  · rintro ⟨b, b', ⟨hb, hleft⟩, ⟨hb', hright⟩, rfl⟩
    exact ⟨by rw [Contribution.resources_append, hb, hb'], _, hleft, _, hright, rfl⟩

/-- What contributes is what its outline is completed to, if it has one. -/
def Completes (x : Except LoadError Outline) (y : Except LoadError Contribution) : Prop :=
  ∀ c, y = .ok c ↔ ∃ o, x = .ok o ∧ o.complete = .ok c

/-- Of two computations that read the same first. -/
theorem Completes.read {z : Except LoadError β} {f : β → Except LoadError Outline}
    {g : β → Except LoadError Contribution} (h : ∀ b, Completes (f b) (g b)) :
    Completes (z >>= f) (z >>= g) := by
  cases z with
  | ok b => exact h b
  | error e => exact fun c => ⟨nofun, fun ⟨_, ho, _⟩ => nomatch ho⟩

/-- Of two pieces one after the other. -/
theorem Completes.append {x x' : Except LoadError Outline} {y y' : Except LoadError Contribution}
    (h : Completes x y) (h' : Completes x' y') :
    Completes (do return (← x) ++ (← x')) (do return (← y) ++ (← y')) := by
  intro c
  have houtline : ∀ o, (do return (← x) ++ (← x')) = Except.ok o ↔
      ∃ a a', x = .ok a ∧ x' = .ok a' ∧ o = a ++ a' := by
    intro o
    cases x <;> cases x' <;> simp [bind, Except.bind, pure, Except.pure, eq_comm]
  simp only [append_eq_ok_iff, houtline, h _, h' _]
  constructor
  · rintro ⟨b, b', ⟨a, ha, hb⟩, ⟨a', ha', hb'⟩, rfl⟩
    exact ⟨_, ⟨a, a', ha, ha', rfl⟩, complete_append_eq_ok_iff.2 ⟨b, b', hb, hb', rfl⟩⟩
  · rintro ⟨_, ⟨a, a', ha, ha', rfl⟩, hc⟩
    obtain ⟨b, b', hb, hb', rfl⟩ := complete_append_eq_ok_iff.1 hc
    exact ⟨b, b', ⟨a, ha, hb⟩, ⟨a', ha', hb'⟩, rfl⟩

theorem completes_ok (h : o.complete = .ok c) : Completes (.ok o) (.ok c) := by
  intro c'
  constructor
  · rintro ⟨⟩
    exact ⟨o, rfl, h⟩
  · rintro ⟨_, ⟨⟩, hc'⟩
    rw [← h, hc']

/-- Of the elements of a list one after the other. -/
theorem Completes.collect {f : α → Except LoadError Outline} {g : α → Except LoadError Contribution}
    (h : ∀ a, Completes (f a) (g a)) (as : List α) :
    Completes (gather f as) (ResourceTables.collect g as) := by
  induction as with
  | nil => exact completes_ok rfl
  | cons a as ih => exact (h a).append ih

theorem completes_resource (b : Block) :
    Completes (do return ⟨[← Module.resourceOf b], []⟩) b.resource :=
  .read fun _ => completes_ok rfl

theorem completes_requirement (a : Attribute) : Completes (.ok ⟨[], [a]⟩) a.requirement := by
  intro c
  rw [Attribute.requirement]
  cases hp : Module.requirementOf a with
  | error e =>
    have hfails : (Outline.mk [] [a]).complete = .error e := by
      simp [complete, hp, bind, Except.bind]
    constructor
    · nofun
    · rintro ⟨_, ⟨⟩, h⟩
      rw [hfails] at h
      cases h
  | ok p =>
    have hcompletes : (Outline.mk [] [a]).complete = .ok ⟨[], [(a.name, p)]⟩ := by
      simp [complete, hp, bind, Except.bind, pure, Except.pure]
    exact completes_ok hcompletes c

theorem completes_requirements (b : Block) :
    Completes (do return ⟨[], ← b.body.justAttributes.mapError .ofContent⟩) b.requirements := by
  refine .read fun attributes => ?_
  induction attributes with
  | nil => exact completes_ok rfl
  | cons a rest ih => exact (completes_requirement a).append ih

theorem completes_settings (b : Block) : Completes b.settingsOutline b.settings :=
  .read fun content =>
    .collect completes_requirements (content.blocksOfType "required_providers")

theorem completes_body (body : Body) : Completes body.outline body.contribution :=
  .read fun content => .append (.collect completes_resource (content.blocksOfType "resource"))
    (.collect completes_settings (content.blocksOfType "terraform"))

/-- A directory contributes what its outline is completed to. -/
theorem completes_directory (d : Disk) (directory : String) :
    Completes (d.outline directory) (d.contribution directory) := by
  rw [Disk.outline, Disk.contribution]
  cases d.isDirectory directory with
  | false =>
    intro c
    constructor
    · intro h
      cases h
    · rintro ⟨o, ho, -⟩
      cases ho
  | true => exact .collect (fun path => .read completes_body) (Module.configFiles d directory)

/-! ## The entries of an outline -/

/-- An outline is completed under the names of its entries. -/
theorem names_eq {l : List (String × RequiredProvider)}
    (h : (o.entries.mapM fun a => do return (a.name, ← Module.requirementOf a)) = Except.ok l) :
    l.map Prod.fst = o.entries.map Attribute.name := by
  generalize o.entries = entries at h
  induction entries generalizing l with
  | nil =>
    cases h
    rfl
  | cons a rest ih =>
    rw [List.mapM_cons, bind_eq_ok_iff] at h
    obtain ⟨required, hrequired, h⟩ := h
    obtain ⟨l', hl', h⟩ := bind_eq_ok_iff.1 h
    obtain ⟨p, -, hpair⟩ := bind_eq_ok_iff.1 hrequired
    cases h
    cases hpair
    rw [List.map_cons, List.map_cons, ih hl']

/-- The entry can be the only one that keeps the outline from being loaded. -/
structure LoadsBut (o : Outline) (a : Attribute) : Prop where
  /-- The keys of the resources are different. -/
  keys : (o.resources.map Resource.key).Nodup
  /-- The names of the entries are different. -/
  names : (o.entries.map Attribute.name).Nodup
  /-- The other entries can be read. -/
  others : ∀ a' ∈ o.entries, a' ≠ a → ∃ p, Module.requirementOf a' = .ok p

end Outline

namespace Module

variable {d : Disk} {directory : String} {m : Module}

/-- A directory is loaded as a module exactly if it has an outline in which nothing is declared
twice; the module requires what the entries of the outline say. -/
theorem load_eq_ok_iff_outline :
    load d directory = .ok m ↔
      ∃ o, d.outline directory = .ok o ∧ (o.resources.map Resource.key).Nodup ∧
        (o.entries.map Attribute.name).Nodup ∧ m.path = directory ∧ m.resources = o.resources ∧
        (o.entries.mapM fun a => do return (a.name, ← requirementOf a)) = Except.ok m.required := by
  simp only [load_eq_ok_iff, Outline.completes_directory d directory _, Outline.complete_eq_ok_iff]
  constructor
  · rintro ⟨c, ⟨o, ho, hresources, hrequired⟩, ⟨hkeys, hnames⟩, rfl⟩
    refine ⟨o, ho, ?_, ?_, rfl, hresources, hrequired⟩
    · rwa [← hresources]
    · rwa [← Outline.names_eq hrequired]
  · rintro ⟨o, ho, hkeys, hnames, rfl, hresources, hrequired⟩
    refine ⟨⟨m.resources, m.required⟩, ⟨o, ho, hresources, hrequired⟩, ⟨?_, ?_⟩, rfl⟩
    · rwa [hresources]
    · rwa [Outline.names_eq hrequired]

/-- A directory can be loaded exactly if it has an outline in which nothing is declared twice and
all whose entries can be read. -/
theorem exists_load_iff :
    (∃ m, load d directory = .ok m) ↔
      ∃ o, d.outline directory = .ok o ∧ (o.resources.map Resource.key).Nodup ∧
        (o.entries.map Attribute.name).Nodup ∧ ∀ a ∈ o.entries, ∃ p, requirementOf a = .ok p := by
  have hentries : ∀ o : Outline, (∀ a ∈ o.entries, ∃ p, requirementOf a = .ok p) ↔
      ∃ l, (o.entries.mapM fun a => do return (a.name, ← requirementOf a)) = Except.ok l := by
    intro o
    rw [exists_mapM_iff]
    refine forall₂_congr fun a _ => ?_
    cases requirementOf a <;> simp [bind, Except.bind, pure, Except.pure]
  simp only [load_eq_ok_iff_outline, hentries]
  constructor
  · rintro ⟨m, o, ho, hkeys, hnames, -, -, hrequired⟩
    exact ⟨o, ho, hkeys, hnames, m.required, hrequired⟩
  · rintro ⟨o, ho, hkeys, hnames, l, hl⟩
    exact ⟨⟨directory, o.resources, l⟩, o, ho, hkeys, hnames, rfl, rfl, hl⟩

/-- A loaded module has what an entry requires under the name of the entry. -/
theorem lookup_required {o : Outline} {a : Attribute} {p : RequiredProvider}
    (ho : d.outline directory = .ok o) (ha : a ∈ o.entries) (hp : requirementOf a = .ok p)
    (hm : load d directory = .ok m) : m.required.lookup a.name = some p := by
  obtain ⟨o', ho', -, hnames, -, -, hrequired⟩ := load_eq_ok_iff_outline.1 hm
  rw [ho] at ho'
  cases ho'
  rw [← Outline.names_eq hrequired] at hnames
  rw [Contribution.lookup_eq_some_iff_mem hnames]
  obtain ⟨b, hb, hpair⟩ := Ensures.mem_mapM ha _ hrequired
  rw [hp] at hpair
  cases hpair
  exact hb

/-! ## Entries that are objects -/

/-- A field of an object is a text, or it is missing or null. -/
inductive Textual (field : String) (fields : Fields Value) : Option String → Prop
  | missing (h : Fields.get? field fields = none) : Textual field fields none
  | null {kind : ValueKind} (h : Fields.get? field fields = some (.null kind)) :
    Textual field fields none
  | text {s : String} (h : Fields.get? field fields = some (.string s)) :
    Textual field fields (some s)

variable {a : Attribute} {fields : Fields Value} {source version : Option String}

theorem requirementField_of_textual {field : String} {text : Option String}
    (h : Textual field fields text) (a : Attribute) :
    requirementField a field fields = .ok text := by
  cases h <;> simp only [requirementField, ‹Fields.get? field fields = _›]

/-- An entry that is an object with texts as its source and version is read exactly if the object is
wholly known. -/
theorem requirementOf_object (hvalue : a.expr.evaluate Scope.empty = .ok (.object fields))
    (hsource : Textual "source" fields source) (hversion : Textual "version" fields version) :
    requirementOf a =
      if Value.fieldsWhollyKnown fields then .ok ⟨source.getD "", version⟩
      else .error (.requirement a.pos a.name) := by
  have hvoid : (Value.object fields).whollyKnown = Value.fieldsWhollyKnown fields := by
    rw [Value.whollyKnown]
  rw [requirementOf, hvalue]
  simp only [Except.mapError, bind, Except.bind, hvoid, requirementField_of_textual hsource,
    requirementField_of_textual hversion]
  cases Value.fieldsWhollyKnown fields <;> rfl

/-! ## Objects in files -/

/-- The object that the only declaration of an outline is, if it is one. -/
def soleObject? (o : Outline) : Option (Fields Value) :=
  match o.resources, o.entries with
  | [], [a] =>
    match a.expr.evaluate Scope.empty with
    | .ok (.object fields) => some fields
    | _ => none
  | _, _ => none

/-- The only declaration of an outline alone can keep it from being loaded. -/
theorem loadsBut_of_sole {o : Outline} (hresources : o.resources = [])
    (hentries : o.entries = [a]) : o.LoadsBut a := by
  refine ⟨by simp [hresources], by simp [hentries], fun a' ha' hne => ?_⟩
  rw [hentries, List.mem_singleton] at ha'
  exact absurd ha' hne

/-- Whether the object has the source `hashicorp/aws` and no version. -/
def isAws (fields : Fields Value) : Bool :=
  match Fields.get? "source" fields, Fields.get? "version" fields with
  | some (.string s), none => s == "hashicorp/aws"
  | _, _ => false

theorem textual_of_isAws (h : isAws fields = true) :
    Textual "source" fields (some "hashicorp/aws") ∧ Textual "version" fields none := by
  unfold isAws at h
  split at h
  · next s hsource hversion =>
    rw [beq_iff_eq] at h
    exact ⟨.text (h ▸ hsource), .missing hversion⟩
  · cases h

/-- A directory that declares nothing but an object with this source. -/
theorem exists_object {P : Fields Value → Bool} (h : ((d.outline directory).toOption.bind
      soleObject?).any (fun fields => isAws fields && P fields) = true) :
    ∃ o a fields, d.outline directory = .ok o ∧ a ∈ o.entries ∧ o.LoadsBut a ∧
      a.expr.evaluate Scope.empty = .ok (.object fields) ∧
      Textual "source" fields (some "hashicorp/aws") ∧ Textual "version" fields none ∧
      P fields = true := by
  cases ho : d.outline directory with
  | error e =>
    rw [ho] at h
    cases h
  | ok o =>
    obtain ⟨fields, hfields, htest⟩ := (Option.any_eq_true ..).1 h
    obtain ⟨haws, hP⟩ := Bool.and_eq_true_iff.1 htest
    obtain ⟨hsource, hversion⟩ := textual_of_isAws haws
    rw [ho] at hfields
    replace hfields : soleObject? o = some fields := hfields
    unfold soleObject? at hfields
    -- There is one entry and no resource, or the test would have failed.
    split at hfields
    · next a hresources hentries =>
      split at hfields
      · next hvalue =>
        cases hfields
        exact ⟨o, a, _, rfl, hentries ▸ List.mem_singleton_self a,
          loadsBut_of_sole hresources hentries, hvalue, hsource, hversion, hP⟩
      · cases hfields
    · cases hfields

/-- A directory with one file that requires an object with a source and one more field. -/
def requiring (field : String) : Disk :=
  let text := "terraform \x7b\n  required_providers \x7b\n    aws = \x7b\n" ++
    "      source = \"hashicorp/aws\"\n      " ++ field ++ "\n    \x7d\n  \x7d\n\x7d\n"
  ⟨[], [(["m"], .directory), (["m", "a.tf"], .file text.toUTF8)]⟩

/-! ## When a directory is loaded -/

/-- An entry that is an object with texts as its source and version. A directory that it alone can
keep from being loaded is loaded exactly if all fields of the object are wholly known, and then the
module requires the provider with this source and version. -/
theorem entry_of_object {o : Outline} (ho : d.outline directory = .ok o) (ha : a ∈ o.entries)
    (hvalue : a.expr.evaluate Scope.empty = .ok (.object fields))
    (hsource : Textual "source" fields source) (hversion : Textual "version" fields version) :
    ((∃ m, load d directory = .ok m) ↔ o.LoadsBut a ∧ Value.fieldsWhollyKnown fields = true) ∧
      (∀ m, load d directory = .ok m →
        m.required.lookup a.name = some ⟨source.getD "", version⟩) ∧
      (Value.fieldsWhollyKnown fields = false →
        requirementOf a = .error (.requirement a.pos a.name)) := by
  have hread := requirementOf_object hvalue hsource hversion
  -- Only the fields decide whether the entry is read.
  have hknown : (∃ p, requirementOf a = .ok p) ↔ Value.fieldsWhollyKnown fields = true := by
    rw [hread]
    cases Value.fieldsWhollyKnown fields <;> simp
  refine ⟨?_, fun m hm => ?_, fun h => by rw [hread, h]; rfl⟩
  · rw [exists_load_iff]
    constructor
    · rintro ⟨o', ho', hkeys, hnames, hentries⟩
      rw [ho] at ho'
      cases ho'
      exact ⟨⟨hkeys, hnames, fun a' ha' _ => hentries a' ha'⟩, hknown.1 (hentries a ha)⟩
    · rintro ⟨hbut, hfields⟩
      refine ⟨o, ho, hbut.keys, hbut.names, fun a' ha' => ?_⟩
      by_cases h : a' = a
      · rw [h]
        exact hknown.2 hfields
      · exact hbut.others a' ha' h
  · obtain ⟨o', ho', -, -, hentries⟩ := exists_load_iff.1 ⟨m, hm⟩
    rw [ho] at ho'
    cases ho'
    rw [hknown.1 (hentries a ha), if_pos rfl] at hread
    exact lookup_required ho ha hread hm

/-- An object that has a number besides its source. -/
theorem entry_of_object_known :
    ∃ o a fields, (requiring "weight = 2").outline "m" = .ok o ∧ a ∈ o.entries ∧
      a.expr.evaluate Scope.empty = .ok (.object fields) ∧
      Textual "source" fields (some "hashicorp/aws") ∧ Textual "version" fields none ∧
      ∃ m, load (requiring "weight = 2") "m" = .ok m ∧
        m.required.lookup a.name = some ⟨"hashicorp/aws", none⟩ := by
  have hfiles : configFiles (requiring "weight = 2") "m" = ["m/a.tf"] := by
    rw [configFiles_of_pairwise (by decide +kernel)]
    decide +kernel
  have hobject : (((requiring "weight = 2").outline "m").toOption.bind soleObject?).any
      (fun fields => isAws fields && Value.fieldsWhollyKnown fields) = true := by
    rw [Disk.outline, hfiles]
    decide +kernel
  obtain ⟨o, a, fields, ho, ha, hbut, hvalue, hsource, hversion, hknown⟩ := exists_object hobject
  obtain ⟨hload, hlookup, -⟩ := entry_of_object ho ha hvalue hsource hversion
  obtain ⟨m, hm⟩ := hload.2 ⟨hbut, hknown⟩
  exact ⟨o, a, fields, ho, ha, hvalue, hsource, hversion, m, hm, hlookup m hm⟩

/-- It is not so that an object with a source is read whatever its other fields are: a list of
references keeps the directory from being loaded. -/
theorem not_forall_object_read :
    ¬ ∀ (d : Disk) (directory : String) (o : Outline) (a : Attribute) (fields : Fields Value)
      (source version : Option String), d.outline directory = .ok o → a ∈ o.entries →
      a.expr.evaluate Scope.empty = .ok (.object fields) → Textual "source" fields source →
      Textual "version" fields version → o.LoadsBut a →
        ∃ m, load d directory = .ok m ∧
          m.required.lookup a.name = some ⟨source.getD "", version⟩ := by
  intro h
  let d := requiring "configuration_aliases = [aws.west]"
  have hfiles : configFiles d "m" = ["m/a.tf"] := by
    rw [configFiles_of_pairwise (by decide +kernel)]
    decide +kernel
  have hobject : ((d.outline "m").toOption.bind soleObject?).any
      (fun fields => isAws fields && !Value.fieldsWhollyKnown fields) = true := by
    rw [Disk.outline, hfiles]
    decide +kernel
  obtain ⟨o, a, fields, ho, ha, hbut, hvalue, hsource, hversion, hunknown⟩ :=
    exists_object hobject
  -- The directory would be loaded, and then the entry would be read, which it is not.
  obtain ⟨m, hm, -⟩ := h d "m" o a fields _ _ ho ha hvalue hsource hversion hbut
  obtain ⟨o', ho', -, -, hread⟩ := exists_load_iff.1 ⟨m, hm⟩
  rw [ho] at ho'
  cases ho'
  obtain ⟨p, hp⟩ := hread a ha
  rw [Bool.not_eq_true'] at hunknown
  rw [requirementOf_object hvalue hsource hversion, hunknown] at hp
  cases hp

end Module

end ResourceTables
