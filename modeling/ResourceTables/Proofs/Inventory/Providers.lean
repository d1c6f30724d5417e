import ResourceTables.Proofs.Inventory.References
import ResourceTables.Proofs.Inventory.Loading
import ResourceTables.Proofs.Writing.Resources

/-!
# When the providers of resources can be read

A resource can name its provider. Loading a directory takes the argument that does so for a
reference, or fails because of it. What the resources would be without these arguments does not
depend on them.

* `Disk.heading`: what a directory contributes if no resource names its provider;
* `Follows`: a step of loading takes in what is read without the providers, up to these, or is
  refused by one of them. Steps one after the other do so together;
* `Module.load_or_refused`: a directory whose files can be read without the providers, and in which
  nothing is declared twice, is loaded or refused because of a provider;
* `Module.load_providers`: which arguments are taken, for which references, and what else happens.
-/

namespace ResourceTables

/-! ## Reading without the providers -/

/-- The argument that names the provider of a resource, if it has one. -/
def Block.provider? (b : Block) : Option Attribute :=
  match b.body.partialContent Module.metaSchema with
  | .ok content => content.attribute? "provider"
  | .error _ => none

/-- The argument of a block in a file is made of names if it is a traversal. -/
theorem Module.spelled_of_provider? {d : Disk} {directory : String} {b : Block} {a : Attribute}
    (hb : b ∈ writtenResources d directory) (ha : b.provider? = some a) : a.expr.Spelled := by
  rw [Block.provider?] at ha
  split at ha
  · next content hcontent =>
    have hspelled :=
      Body.ensures_partialContent_spelled (spelled_of_mem_writtenResources hb) content hcontent
    exact hspelled a (List.mem_of_find?_eq_some ha)
  · cases ha

/-- The resource that a block declares, with the provider. -/
def Block.withProvider (b : Block) (provider : ProviderRef) : Resource :=
  ⟨b.labels.headD "", (b.labels.drop 1).headD "", b.pos.file, b.pos.line, provider⟩

/-- The provider that the type of a block's resource stands for. -/
def Block.impliedProvider (b : Block) : ProviderRef :=
  ⟨Module.impliedProvider (b.labels.headD ""), none⟩

/-- What a block contributes if it does not name its provider. -/
def Block.heading (b : Block) : Except LoadError Contribution :=
  ((b.body.partialContent Module.metaSchema).mapError .ofContent).map fun _ =>
    ⟨[b.withProvider b.impliedProvider], []⟩

/-- What the body of a file contributes if no resource names its provider. -/
def Body.heading (body : Body) : Except LoadError Contribution := do
  let content ← (body.partialContent Module.schema).mapError .ofContent
  return (← collect Block.heading (content.blocksOfType "resource")) ++
    (← collect Block.settings (content.blocksOfType "terraform"))

/-- What the configuration files of a directory contribute if no resource names its provider. -/
def Disk.heading (d : Disk) (directory : String) : Except LoadError Contribution := do
  if !d.isDirectory directory then throw (.noDirectory directory)
  collect (fun path => do (← (d.readConfig path).mapError .read).heading)
    (Module.configFiles d directory)

namespace Contribution

/-- The contributions differ at most in the providers of the resources. -/
structure Alike (c c' : Contribution) : Prop where
  /-- The keys of the resources are the same. -/
  keys : c.resources.map Resource.key = c'.resources.map Resource.key
  /-- The required providers are the same. -/
  required : c.required = c'.required

variable {c c' c'' c₁ c₁' : Contribution}

theorem Alike.refl (c : Contribution) : c.Alike c :=
  ⟨rfl, rfl⟩

theorem Alike.trans (h : c.Alike c') (h' : c'.Alike c'') : c.Alike c'' :=
  ⟨h.keys.trans h'.keys, h.required.trans h'.required⟩

theorem Alike.append (h : c.Alike c') (h₁ : c₁.Alike c₁') : (c ++ c₁).Alike (c' ++ c₁') where
  keys := by simp [h.keys, h₁.keys]
  required := by simp [h.required, h₁.required]

theorem Alike.distinct (h : c.Alike c') (hc : c.Distinct) : c'.Distinct where
  keys := h.keys ▸ hc.keys
  names := h.required ▸ hc.names

end Contribution

/-! ## Steps of loading -/

/-- Where nothing is declared twice, the step takes in what the reading says, up to the providers,
or fails with an error of the kind `R`. -/
def Follows (step : Module → Except LoadError Module) (x : Except LoadError Contribution)
    (R : LoadError → Prop) : Prop :=
  ∀ m c, x = .ok c → (m.contribution ++ c).Distinct →
    (∃ m', step m = .ok m' ∧ m'.contribution.Alike (m.contribution ++ c)) ∨
      ∃ e, step m = .error e ∧ R e

namespace Follows

variable {step next : Module → Except LoadError Module} {x y : Except LoadError Contribution}
  {R R' : LoadError → Prop}

theorem mono (h : Follows step x R) (hR : ∀ e, R e → R' e) : Follows step x R' :=
  fun m c hc hdistinct => (h m c hc hdistinct).imp_right fun ⟨e, he, hRe⟩ => ⟨e, he, hR e hRe⟩

/-- A step that takes a contribution in takes it in whatever the providers are. -/
theorem of_takes (h : Takes step x) : Follows step x R := by
  intro m c hc hdistinct
  have hm := hdistinct.of_append_left
  exact .inl ⟨m.extend c, (h.ok_iff hm).2 ⟨c, hc, hdistinct, rfl⟩, .refl _⟩

/-- Reading something first, whatever the module is. -/
theorem read {z : Except LoadError β} {step : Module → β → Except LoadError Module}
    {f : β → Except LoadError Contribution} (h : ∀ b, z = .ok b → Follows (step · b) (f b) R) :
    Follows (fun m => z >>= step m) (z >>= f) R := by
  cases z with
  | ok b => exact h b rfl
  | error e => exact fun m c hc => nomatch hc

/-- Two steps, one after the other. -/
theorem bind (hx : Follows step x R) (hy : Follows next y R) :
    Follows (fun m => step m >>= next) (do return (← x) ++ (← y)) R := by
  intro m c hc hdistinct
  obtain ⟨c₁, c₂, hc₁, hc₂, rfl⟩ := append_eq_ok_iff.1 hc
  rw [← Contribution.append_assoc] at hdistinct ⊢
  rcases hx m c₁ hc₁ hdistinct.of_append_left with ⟨m₁, hm₁, halike⟩ | ⟨e, he, hR⟩
  · -- Up to the providers the module behind the first step is what the second step starts from.
    have hboth := halike.append (.refl c₂)
    have hdistinct₁ : (m₁.contribution ++ c₂).Distinct :=
      Contribution.Alike.distinct ⟨hboth.keys.symm, hboth.required.symm⟩ hdistinct
    simp only [hm₁]
    exact (hy m₁ c₂ hc₂ hdistinct₁).imp_left fun ⟨m', hm', halike'⟩ =>
      ⟨m', hm', halike'.trans hboth⟩
  · simp only [he]
    exact .inr ⟨e, rfl, hR⟩

/-- A step for each element of a list. -/
theorem foldlM {step : Module → α → Except LoadError Module}
    {f : α → Except LoadError Contribution} {as : List α}
    (h : ∀ a ∈ as, Follows (step · a) (f a) R) :
    Follows (fun m => as.foldlM step m) (collect f as) R := by
  induction as with
  | nil =>
    rintro m c ⟨⟩ -
    rw [Contribution.append_empty]
    exact .inl ⟨m, rfl, .refl _⟩
  | cons a as ih =>
    simp only [List.foldlM_cons]
    exact (h a List.mem_cons_self).bind (ih fun a' ha' => h a' (List.mem_cons_of_mem a ha'))

end Follows

namespace Module

variable {m : Module} {b : Block} {d : Disk} {directory : String}

/-- The resource of a block that names no provider. -/
theorem resourceOf_of_none {c : Contribution} (hb : b.heading = .ok c) (h : b.provider? = none) :
    resourceOf b = .ok (b.withProvider b.impliedProvider) := by
  rw [Block.heading] at hb
  rw [Block.provider?] at h
  rw [resourceOf]
  cases hcontent : b.body.partialContent metaSchema with
  | error e =>
    rw [hcontent] at hb
    cases hb
  | ok content =>
    rw [hcontent] at h
    simp only [Except.mapError, bind, Except.bind, h]
    rfl

/-- The resource of a block whose provider is named by an argument. -/
theorem resourceOf_of_some {a : Attribute} (h : b.provider? = some a) :
    resourceOf b = (providerOf a).map b.withProvider := by
  rw [Block.provider?] at h
  rw [resourceOf]
  cases hcontent : b.body.partialContent metaSchema with
  | error e =>
    rw [hcontent] at h
    cases h
  | ok content =>
    rw [hcontent] at h
    simp only [Except.mapError, bind, Except.bind, h]
    cases providerOf a <;> rfl

/-- A resource with a new key is taken in. -/
theorem addResource_of_resourceOf {r : Resource} (hr : resourceOf b = .ok r)
    (hdistinct : (m.contribution ++ ⟨[r], []⟩).Distinct) :
    m.addResource b = .ok (m.extend ⟨[r], []⟩) := by
  have hnew := (nodup_keys_iff hdistinct.of_append_left r).1 hdistinct.keys
  simp [addResource, hr, hnew, extend, bind, Except.bind, pure, Except.pure]

/-- A resource whose key is new is taken in, or refused because of its provider. -/
theorem follows_addResource (b : Block) :
    Follows (addResource · b) b.heading fun e =>
      ∃ a, b.provider? = some a ∧ providerOf a = .error e := by
  intro m c hc hdistinct
  have hheading := hc
  obtain ⟨content, -, rfl⟩ := map_eq_ok_iff.1 hc
  -- The provider is no part of the key, so the key is as new as without the provider.
  have htaken : ∀ provider, resourceOf b = .ok (b.withProvider provider) →
      ∃ m', m.addResource b = .ok m' ∧ m'.contribution.Alike
        (m.contribution ++ ⟨[b.withProvider b.impliedProvider], []⟩) := by
    intro provider hr
    have halike : Contribution.Alike ⟨[b.withProvider b.impliedProvider], []⟩
        ⟨[b.withProvider provider], []⟩ := ⟨rfl, rfl⟩
    have hboth := (Contribution.Alike.refl m.contribution).append halike
    refine ⟨_, addResource_of_resourceOf hr (hboth.distinct hdistinct), ?_⟩
    exact ⟨hboth.keys.symm, hboth.required.symm⟩
  cases hprovider : b.provider? with
  | none => exact .inl (htaken _ (resourceOf_of_none hheading hprovider))
  | some a =>
    have hresource := resourceOf_of_some hprovider
    cases ha : providerOf a with
    | ok provider =>
      rw [ha] at hresource
      exact .inl (htaken provider hresource)
    | error e =>
      rw [ha] at hresource
      refine .inr ⟨e, ?_, a, rfl, ha⟩
      simp only [addResource, hresource]
      rfl

/-- A file is taken in, or refused because of the provider of one of its resources. -/
theorem follows_addFile (body : Body) :
    Follows (addFile · body) body.heading fun e => ∃ b ∈ body.blocks "resource" 2,
      ∃ a, b.provider? = some a ∧ providerOf a = .error e := by
  refine .read fun content hcontent => ?_
  rw [mapError_eq_ok_iff] at hcontent
  rw [← body.ensures_resourceBlocks content hcontent]
  refine .bind (.foldlM fun b hb => ?_) (.of_takes (.foldlM takes_addSettings _))
  exact (follows_addResource b).mono fun e ha => ⟨b, hb, ha⟩

/-- A directory whose files can be read without the providers, and in which nothing is declared
twice, is loaded, or it is refused because of the provider of a resource. -/
theorem load_or_refused {c : Contribution} (hc : d.heading directory = .ok c)
    (hdistinct : c.Distinct) :
    (∃ m, load d directory = .ok m) ∨ ∃ e, load d directory = .error e ∧
      ∃ b ∈ writtenResources d directory, ∃ a, b.provider? = some a ∧ providerOf a = .error e := by
  have hdir : d.isDirectory directory = true := by
    cases hdir : d.isDirectory directory with
    | true => rfl
    | false =>
      rw [Disk.heading, hdir] at hc
      cases hc
  have hfiles : d.heading directory = collect (fun path => do
      (← (d.readConfig path).mapError LoadError.read).heading) (configFiles d directory) := by
    rw [Disk.heading, hdir]
    rfl
  rw [hfiles] at hc
  rw [load_eq hdir]
  -- File by file, loading goes along with reading the headings until a provider is refused.
  have hfollows : Follows (fun m => (configFiles d directory).foldlM
      (fun m path => (d.readConfig path).mapError .read >>= m.addFile) m)
      (collect (fun path => do (← (d.readConfig path).mapError LoadError.read).heading)
        (configFiles d directory)) fun e => ∃ b ∈ writtenResources d directory,
          ∃ a, b.provider? = some a ∧ providerOf a = .error e := by
    refine .foldlM fun path hpath => .read fun body hbody => ?_
    rw [mapError_eq_ok_iff] at hbody
    refine (follows_addFile body).mono fun e ⟨b, hb, ha⟩ => ⟨b, ?_, ha⟩
    exact List.mem_flatMap.2 ⟨path, hpath, by rw [hbody]; exact hb⟩
  exact (hfollows ⟨directory, [], []⟩ c hc hdistinct).imp_left fun ⟨m, hm, _⟩ => ⟨m, hm⟩

end Module

/-! ## What can be loaded can be read without the providers -/

/-- What the second reading gives the first one gives too, up to the providers. -/
def Heads (x y : Except LoadError Contribution) : Prop :=
  ∀ c, y = .ok c → ∃ c', x = .ok c' ∧ c.Alike c'

namespace Heads

variable {x x' y y' : Except LoadError Contribution}

theorem refl (x : Except LoadError Contribution) : Heads x x :=
  fun c hc => ⟨c, hc, .refl c⟩

theorem read {z : Except LoadError β} {f g : β → Except LoadError Contribution}
    (h : ∀ b, Heads (f b) (g b)) : Heads (z >>= f) (z >>= g) := by
  cases z with
  | ok b => exact h b
  | error e => exact fun c hc => nomatch hc

theorem append (h : Heads x y) (h' : Heads x' y') :
    Heads (do return (← x) ++ (← x')) (do return (← y) ++ (← y')) := by
  intro c hc
  obtain ⟨a, b, ha, hb, rfl⟩ := append_eq_ok_iff.1 hc
  obtain ⟨a', ha', halike⟩ := h a ha
  obtain ⟨b', hb', halike'⟩ := h' b hb
  exact ⟨a' ++ b', append_eq_ok_iff.2 ⟨a', b', ha', hb', rfl⟩, halike.append halike'⟩

theorem collect {f g : α → Except LoadError Contribution} (h : ∀ a, Heads (f a) (g a))
    (as : List α) : Heads (ResourceTables.collect f as) (ResourceTables.collect g as) := by
  induction as with
  | nil => exact .refl _
  | cons a as ih => exact (h a).append ih

end Heads

/-- A block that declares a resource can be read without its provider. -/
theorem Block.heads_resource (b : Block) : Heads b.heading b.resource := by
  intro c hc
  obtain ⟨r, hr, h⟩ := bind_eq_ok_iff.1 hc
  cases h
  cases hcontent : b.body.partialContent Module.metaSchema with
  | error e =>
    rw [Module.resourceOf, hcontent] at hr
    cases hr
  | ok content =>
    have hheading : b.heading = .ok ⟨[b.withProvider b.impliedProvider], []⟩ := by
      rw [Block.heading, hcontent]
      rfl
    refine ⟨_, hheading, ?_, rfl⟩
    -- The provider makes no difference to the key.
    cases hprovider : b.provider? with
    | none =>
      rw [Module.resourceOf_of_none hheading hprovider] at hr
      cases hr
      rfl
    | some a =>
      rw [Module.resourceOf_of_some hprovider] at hr
      obtain ⟨provider, -, rfl⟩ := map_eq_ok_iff.1 hr
      rfl

theorem Disk.heads_contribution (d : Disk) (directory : String) :
    Heads (d.heading directory) (d.contribution directory) := by
  have hbody : ∀ body : Body, Heads body.heading body.contribution :=
    fun body => .read fun content => .append (.collect Block.heads_resource _) (.refl _)
  rw [Disk.heading, Disk.contribution]
  cases d.isDirectory directory with
  | false => rintro c ⟨⟩
  | true => exact .collect (fun path => .read hbody) _

namespace Module

variable {m : Module} {b : Block} {a : Attribute} {r : Resource} {d : Disk} {directory : String}

theorem exists_heading_of_load (hm : load d directory = .ok m) :
    ∃ c, d.heading directory = .ok c ∧ c.Distinct := by
  obtain ⟨c, hc, hdistinct, -⟩ := load_eq_ok_iff.1 hm
  obtain ⟨c', hc', halike⟩ := d.heads_contribution directory c hc
  exact ⟨c', hc', halike.distinct hdistinct⟩

/-- The block declares the resource with the provider that it names, or else with the one that the
type of the resource stands for. -/
structure Provides (b : Block) (r : Resource) : Prop extends b.Declares r where
  /-- An argument that names the provider refers to it, or is a text that frays. -/
  named : ∀ a, b.provider? = some a → a.expr.Refers r.provider ∨ a.expr.Frays r.provider
  /-- Without such an argument the type stands for the provider. -/
  implied : b.provider? = none → r.provider = ⟨impliedProvider r.type, none⟩

theorem provides_of_declares (hb : b ∈ writtenResources d directory) (h : b.Declares r) :
    Provides b r := by
  refine ⟨h, fun a ha => ?_, fun hnone => ?_⟩
  · have hr := h.reads
    rw [resourceOf_of_some ha] at hr
    obtain ⟨provider, hprovider, rfl⟩ := map_eq_ok_iff.1 hr
    exact (providerOf_eq_ok_iff (spelled_of_provider? hb ha)).1 hprovider
  · have hheading : ∃ c, b.heading = .ok c := by
      obtain ⟨c, hc, -⟩ := b.heads_resource ⟨[r], []⟩ (by rw [Block.resource, h.reads]; rfl)
      exact ⟨c, hc⟩
    obtain ⟨c, hc⟩ := hheading
    have hr := h.reads
    rw [resourceOf_of_none hc hnone] at hr
    cases hr
    rfl

/-- The resources of a loaded module have the providers that their blocks name. -/
theorem forall₂_provides_of_load (hm : load d directory = .ok m) :
    List.Forall₂ Provides (writtenResources d directory) m.resources := by
  have hboth := (List.forall₂_and_left _ _).2 ⟨fun _ hb => hb, declares_of_load hm⟩
  exact hboth.imp fun _ _ h => provides_of_declares h.1 h.2

/-- So each argument of a block in a loaded module refers to a provider or is a text that frays. -/
theorem exists_ref_of_load (hm : load d directory = .ok m)
    (hb : b ∈ writtenResources d directory) (ha : b.provider? = some a) :
    ∃ ref, a.expr.Refers ref ∨ a.expr.Frays ref := by
  obtain ⟨r, -, hr⟩ : ∃ r ∈ m.resources, Provides b r :=
    exists_of_forall₂ ((forall₂_provides_of_load hm).flip) hb
  exact ⟨r.provider, hr.named a ha⟩

/-! ## A directory with one resource -/

/-- A directory whose only file holds one resource is loaded as this resource. -/
theorem load_of_holds {path type name : String} {ref : ProviderRef} {body : Body}
    (hdir : d.isDirectory directory = true) (hfiles : configFiles d directory = [path])
    (hread : d.readConfig path = .ok body) (hbody : body.Holds type name ref) :
    ∃ line, load d directory = .ok ⟨directory, [⟨type, name, path, line, ref⟩], []⟩ := by
  obtain ⟨b, hcontent, htype, hr⟩ := hbody
  have hfits := Body.ensures_partialContent (d.ensures_readConfig path body hread) _ hcontent
  have hfile : b.pos.file = path := (hfits b (List.mem_singleton_self b)).pos
  have hresources : Content.blocksOfType ⟨[], [b]⟩ "resource" = [b] := by
    simp [Content.blocksOfType, htype]
  have hsettings : Content.blocksOfType ⟨[], [b]⟩ "terraform" = [] := by
    simp [Content.blocksOfType, htype]
  refine ⟨b.pos.line, load_eq_ok_iff.2 ⟨⟨[⟨type, name, path, b.pos.line, ref⟩], []⟩, ?_, ?_, rfl⟩⟩
  · rw [contribution_of_isDirectory hdir, hfiles]
    simp only [collect, Disk.fileContribution, hread, Body.contribution, hcontent, hresources,
      hsettings, Block.resource, hr, hfile, Except.mapError, bind, Except.bind, pure, Except.pure]
    rfl
  · exact ⟨List.pairwise_singleton _ _, List.nodup_nil⟩

/-- A resource that names its provider is loaded with it, in each of the ways to write it. -/
theorem load_of_written {path type name : String} {ref : ProviderRef} {n : ConfigNotation}
    {cs : List Char} (hwritten : ref.Written type name n cs) (hproper : ref.Proper)
    (hpath : FileName.notationOf path = n) (h : d.HoldsFile directory path (String.ofList cs)) :
    ∃ line, load d directory = .ok ⟨directory, [⟨type, name, path, line, ref⟩], []⟩ := by
  obtain ⟨body, hread, hbody⟩ := hwritten.holds_parseConfig hproper hpath
  refine load_of_holds h.isDirectory h.configFiles ?_ hbody
  rw [h.readConfig_eq (by simpa using hwritten.return_not_mem hproper), hread]

/-- A resource with a text in quotes that passes for a reference is loaded with it, and the argument
with the text is that of the one block in the file. -/
theorem load_of_passes {path type name s : String} {ref : ProviderRef}
    (hpasses : ref.Passes s.toList) (hpath : FileName.notationOf path = .native)
    (h : d.HoldsFile directory path
      (String.ofList (Native.resource type name (Native.quoted s)))) :
    (∃ line, load d directory = .ok ⟨directory, [⟨type, name, path, line, ref⟩], []⟩) ∧
      ∃ b o parts pos, writtenResources d directory = [b] ∧
        b.provider? = some ⟨"provider", .template o parts, pos⟩ ∧
        Part.literal? parts = some s := by
  obtain ⟨_, pos, hparse, o, parts, rfl, hliteral⟩ := Native.parse_resource path type name
    (Native.not_blank_quoted s) (Native.valueText_literal s)
  -- The text in quotes is one literal, and as a text it passes for the reference.
  have hprovider : providerOf ⟨"provider", .template o parts, pos⟩ = .ok ref := by
    rw [providerOf, providerOfExpr?, hliteral, Option.bind_some,
      ProviderRef.providerOfText?_eq_some_iff.2 hpasses]
  have hreturn : '\r' ∉ Native.resource type name (Native.quoted s) :=
    Native.return_not_mem_resource (Native.return_not_mem_quoted s)
  have hread := h.readConfig_eq (by simpa using hreturn)
  simp only [parseConfig, hpath, hparse] at hread
  refine ⟨load_of_holds h.isDirectory h.configFiles hread (Body.holds_native hprovider),
    ⟨"resource", [type, name], .native [.attribute ⟨"provider", .template o parts, pos⟩],
      ⟨path, 1, 1⟩⟩, o, parts, pos, ?_, rfl, hliteral⟩
  rw [writtenResources, h.configFiles]
  simp only [List.flatMap_cons, List.flatMap_nil, List.append_nil, hread]
  rfl

/-- A directory with one native file, which holds a resource with the value as its provider. -/
def naming (value : List Char) : Disk :=
  ⟨[], [(["m"], .directory),
    (["m", "a.tf"], .file (String.ofList (Native.resource "aws_x" "n" value)).toUTF8)]⟩

theorem holdsFile_naming (value : List Char) : (naming value).HoldsFile "m" "m/a.tf"
    (String.ofList (Native.resource "aws_x" "n" value)) where
  isDirectory := rfl
  configFiles := by
    have hnames : (naming value).names "m" = ["a.tf"] := rfl
    rw [configFiles_of_pairwise (hnames ▸ List.pairwise_singleton _ _), hnames]
    rfl
  read := rfl

/-! ## Which providers are read -/

/-- Loading a directory reads the provider of each resource that names it. If the files can be read
without the providers, with nothing declared twice, the directory is loaded exactly if each argument
refers to a provider or is a text that frays. Then the resources have the providers that their
arguments refer to, and else the error is that of an argument that refers to none. A reference that
is made of names is read as this reference, whether it is written as a traversal, as a text in quotes
or in JSON. -/
theorem load_providers (d : Disk) (directory : String) :
    ((∃ m, load d directory = .ok m) ↔
      (∃ c, d.heading directory = .ok c ∧ c.Distinct) ∧
        ∀ b ∈ writtenResources d directory, ∀ a, b.provider? = some a →
          ∃ ref, a.expr.Refers ref ∨ a.expr.Frays ref) ∧
      (∀ m, load d directory = .ok m →
        List.Forall₂ Provides (writtenResources d directory) m.resources) ∧
      (∀ c e, d.heading directory = .ok c → c.Distinct → load d directory = .error e →
        ∃ b ∈ writtenResources d directory, ∃ a, b.provider? = some a ∧
          (∀ ref, ¬ a.expr.Refers ref ∧ ¬ a.expr.Frays ref) ∧
          e = .providerReference a.pos a.expr.source) ∧
      ∀ path type name ref n cs, ProviderRef.Written type name ref n cs → ref.Proper →
        FileName.notationOf path = n → d.HoldsFile directory path (String.ofList cs) →
        ∃ line, load d directory = .ok ⟨directory, [⟨type, name, path, line, ref⟩], []⟩ := by
  have herror : ∀ b ∈ writtenResources d directory, ∀ a, b.provider? = some a →
      ∀ e, providerOf a = .error e → e = .providerReference a.pos a.expr.source ∧
        ∀ ref, ¬ a.expr.Refers ref ∧ ¬ a.expr.Frays ref :=
    fun b hb a ha e he => (providerOf_eq_error_iff (spelled_of_provider? hb ha)).1 he
  refine ⟨⟨?_, ?_⟩, fun m hm => forall₂_provides_of_load hm, ?_, ?_⟩
  · rintro ⟨m, hm⟩
    exact ⟨exists_heading_of_load hm, fun b hb a ha => exists_ref_of_load hm hb ha⟩
  · rintro ⟨⟨c, hc, hdistinct⟩, hrefs⟩
    -- If the directory were refused, then because of an argument that refers to nothing.
    refine (load_or_refused hc hdistinct).resolve_right ?_
    rintro ⟨e, -, b, hb, a, ha, he⟩
    obtain ⟨ref, href⟩ := hrefs b hb a ha
    obtain ⟨hrefers, hfrays⟩ := (herror b hb a ha e he).2 ref
    exact href.elim hrefers hfrays
  · intro c e hc hdistinct he
    obtain ⟨m, hm⟩ | ⟨e', he', b, hb, a, ha, hrefused⟩ := load_or_refused hc hdistinct
    · rw [hm] at he
      cases he
    · rw [he'] at he
      cases he
      obtain ⟨heq, hnone⟩ := herror b hb a ha _ hrefused
      exact ⟨b, hb, a, ha, hnone, heq⟩
  · intro path type name ref n cs hwritten hproper hpath h
    exact load_of_written hwritten hproper hpath h

/-- A name with an alias is read, and a text with a blank in it is refused. -/
theorem load_providers_dotted :
    let ref : ProviderRef := ⟨"aws", some "west"⟩
    let d := naming (Native.quoted "aws west")
    (∃ line, load (naming ref.chars) "m" =
        .ok ⟨"m", [⟨"aws_x", "n", "m/a.tf", line, ref⟩], []⟩) ∧
      load d "m" = .error (.providerReference ⟨"m/a.tf", 2, 3⟩ "\"aws west\"") ∧
      ∃ b ∈ writtenResources d "m", ∃ a, b.provider? = some a ∧
        (∀ ref, ¬ a.expr.Refers ref ∧ ¬ a.expr.Frays ref) ∧
        a.pos = ⟨"m/a.tf", 2, 3⟩ ∧ a.expr.source = "\"aws west\"" := by
  intro ref d
  have hproper : ProviderRef.Proper ⟨"aws", some "west"⟩ := by
    refine ⟨by decide +kernel, ?_⟩
    rintro _ ⟨⟩
    decide +kernel
  have hfiles := (holdsFile_naming (Native.quoted "aws west")).configFiles
  have hheading : d.heading "m" = .ok ⟨[⟨"aws_x", "n", "m/a.tf", 1, ⟨"aws", none⟩⟩], []⟩ := by
    rw [Disk.heading, hfiles]
    rfl
  -- The blank stands where a name has ended, so the text passes for no reference.
  have hload : load d "m" = .error (.providerReference ⟨"m/a.tf", 2, 3⟩ "\"aws west\"") := by
    rw [load_eq rfl, hfiles]
    rfl
  obtain ⟨-, -, -, hwritten⟩ := load_providers (naming ref.chars) "m"
  obtain ⟨-, -, hrefused, -⟩ := load_providers d "m"
  obtain ⟨b, hb, a, ha, hnone, he⟩ :=
    hrefused _ _ hheading ⟨List.pairwise_singleton _ _, List.nodup_nil⟩ hload
  injection he with hpos hsource
  refine ⟨hwritten "m/a.tf" "aws_x" "n" ref .native _ (.traversal (by decide)) hproper (by decide)
    (holdsFile_naming _), hload, b, hb, a, ha, hnone, hpos.symm, hsource.symm⟩

/-- It is not so that in each directory that is loaded the arguments refer to providers: behind a
name a newline is overlooked. -/
theorem not_forall_refers_of_load :
    ¬ ∀ (d : Disk) (directory : String), (∃ m, load d directory = .ok m) →
      ∀ b ∈ writtenResources d directory, ∀ a, b.provider? = some a → ∃ ref, a.expr.Refers ref := by
  intro h
  have hname : IsName ['a', 'w', 's'] := by decide +kernel
  have hpasses : ProviderRef.Passes "aws\n".toList ⟨"aws\n", none⟩ :=
    .name (n := ['a', 'w', 's', '\n']) (.inr ⟨_, hname, rfl⟩)
  obtain ⟨⟨line, hload⟩, b, o, parts, pos, hb, ha, hliteral⟩ :=
    load_of_passes hpasses (by decide) (holdsFile_naming (Native.quoted "aws\n"))
  obtain ⟨ref, href⟩ := h _ _ ⟨_, hload⟩ b (hb ▸ List.mem_singleton_self b) _ ha
  have hfrays : (Expr.template o parts).Frays ⟨"aws\n", none⟩ := by
    refine .text ?_ hpasses (.inl (by decide))
    rw [hliteral, String.ofList_toList]
  exact hfrays.not_refers href

end Module

end ResourceTables
