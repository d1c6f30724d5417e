import ResourceTables.Proofs.Inventory.Blocks
import ResourceTables.Proofs.Inventory.Declarations
import ResourceTables.Proofs.Inventory.Growth
import ResourceTables.Proofs.Inventory.Loading
import ResourceTables.Proofs.Limits.Evaluate
import ResourceTables.Proofs.Limits.Json

/-!
# Loading within the limits

What an error of loading has no words for is a number or a character beyond what values can hold. In
a directory whose configuration files stay within the limits nothing else can go wrong either: what
a schema finds in their bodies is within the limits, and what does not fit the schema is refused in
words. So loading fails in words only.

* `Body.Bounded`, `Content.Bounded`: what is asked of bodies, and what is found in them;
* `Body.members`: the values of a JSON body that are read as expressions;
* `Body.delivers_partialContent`, `Body.delivers_justAttributes`: what a body gives;
* `Body.requirementBlocks`: the blocks with the entries that loading reads;
* `Disk.WithinLimits`: the literals of the files, and the texts that loading converts to numbers,
  are in range;
* `Module.delivers_addFile`: one file within the limits;
* `Module.exists_load_or_message`: a directory within the limits is loaded or refused in words.
-/

namespace ResourceTables

/-- What the body says is within the limits. -/
def Body.Bounded : Body → Prop
  | .native items => ∀ item ∈ items, item.Bounded
  | .json _ pairs => ∀ p ∈ pairs, p.Bounded

/-- The error has words. -/
def ContentError.Worded (e : ContentError) : Prop :=
  e ≠ .read .beyondLimits

theorem ContentError.worded_fault {pos : Pos} {cause : DecodeCause} : (fault pos cause).Worded := by
  rintro ⟨⟩

theorem ContentError.worded_read {e : ReadError} (h : e.Worded) : (ContentError.read e).Worded := by
  rintro ⟨⟩
  exact h rfl

/-- What has been found is within the limits. -/
structure Content.Bounded (c : Content) : Prop where
  /-- So are the arguments. -/
  attributes : ∀ a ∈ c.attributes, a.expr.Bounded
  /-- And the bodies of the blocks. -/
  blocks : ∀ b ∈ c.blocks, b.body.Bounded

theorem Content.bounded_empty : Content.Bounded {} :=
  ⟨by simp, by simp⟩

theorem Content.Bounded.addAttribute {c : Content} {a : Attribute} (h : c.Bounded)
    (ha : a.expr.Bounded) : (c.addAttribute a).Bounded :=
  ⟨List.forall_mem_append.2 ⟨h.attributes, by simpa using ha⟩, h.blocks⟩

theorem Content.Bounded.addBlocks {c : Content} {bs : List Block} (h : c.Bounded)
    (hbs : ∀ b ∈ bs, b.body.Bounded) : (c.addBlocks bs).Bounded :=
  ⟨h.attributes, List.forall_mem_append.2 ⟨h.blocks, hbs⟩⟩

theorem Block.delivers_checkLabels (b : Block) (header : BlockHeader) :
    Delivers (fun _ => True) ContentError.Worded (b.checkLabels header) := by
  unfold checkLabels
  dsimp only
  split
  · exact .error ContentError.worded_fault
  · exact .error ContentError.worded_fault
  · exact .ok True.intro

namespace Body

variable {schema : BodySchema} {c : Content} {found : List Attribute} {p : JsonPair}
  {node : JsonNode} {body : Body}

/-! ## Native bodies -/

theorem delivers_addItem {item : Item} (hc : c.Bounded) (hitem : item.Bounded) :
    Delivers Content.Bounded ContentError.Worded (addItem schema c item) := by
  cases hitem with
  | «attribute» ha =>
    unfold addItem
    dsimp only
    split
    · split
      · exact .error ContentError.worded_fault
      · exact .ok (hc.addAttribute ha)
    · split
      · exact .error ContentError.worded_fault
      · exact .ok hc
  | block hitems =>
    unfold addItem
    dsimp only
    split
    · split
      · exact .error ContentError.worded_fault
      · exact .ok hc
    · refine .bind (Block.delivers_checkLabels _ _) fun _ _ => .ok (hc.addBlocks ?_)
      exact List.forall_mem_singleton.2 hitems

theorem delivers_addArgument {item : Item} (hfound : ∀ a ∈ found, a.expr.Bounded)
    (hitem : item.Bounded) :
    Delivers (fun found => ∀ a ∈ found, a.expr.Bounded) ContentError.Worded
      (addArgument found item) := by
  cases hitem with
  | «attribute» ha =>
    unfold addArgument
    dsimp only
    split
    · exact .error ContentError.worded_fault
    · exact .ok (List.forall_mem_append.2 ⟨hfound, by simpa using ha⟩)
  | block hitems => exact .error ContentError.worded_fault

/-! ## JSON bodies -/

/-- The values of the wanted members of a JSON body, without comments. -/
def members (wanted : String → Bool) : Body → List JsonNode
  | .native _ => []
  | .json _ pairs => (pairs.filter fun p => !p.isComment && wanted p.key).map JsonPair.value

theorem members_of_forall_not {wanted : String → Bool} (h : ∀ name, wanted name = false) :
    body.members wanted = [] := by
  cases body with
  | native items => rfl
  | json o pairs => simp [members, h]

theorem delivers_memberAttribute (hp : p.Bounded) (h : p.value.InRange) :
    Delivers (fun a => a.expr.Bounded) ContentError.Worded (memberAttribute p) := by
  cases hp with
  | mk hkey hvalue =>
    have hexpr := Json.delivers_expr _ hvalue h
    unfold memberAttribute
    split
    · next e he => exact .ok (hexpr.ensures e he)
    · next e he => exact .error (ContentError.worded_read (hexpr.failsWith e he))

theorem delivers_of_mem_objectsOf {cause : DecodeCause} (hnode : node.Bounded)
    {object : Except ContentError (Origin × List JsonPair)} (h : object ∈ objectsOf cause node) :
    Delivers (fun object => ∀ p ∈ object.2, JsonPair.Bounded p) ContentError.Worded object := by
  cases hnode with
  | scalar =>
    obtain rfl := List.mem_singleton.1 h
    exact .error ContentError.worded_fault
  | object _ hpairs =>
    obtain rfl := List.mem_singleton.1 h
    exact .ok hpairs
  | array _ hitems =>
    obtain ⟨item, hitem, rfl⟩ := List.mem_map.1 h
    cases hitems item hitem with
    | object _ hpairs => exact .ok hpairs
    | scalar | array => exact .error ContentError.worded_fault

/-- Below a value the bodies of the blocks are parts of it. -/
theorem delivers_jsonBlocks (type : String) (labels found : List String) (pos : Pos)
    (hnode : node.Bounded) :
    Delivers (fun bs => ∀ b ∈ bs, b.body.Bounded) ContentError.Worded
      (jsonBlocks type labels found pos node) := by
  induction labels generalizing found pos node with
  | nil =>
    rw [jsonBlocks]
    refine (Delivers.mapM fun object hobject => ?_).mono fun _ h => h.2
    exact .bind (delivers_of_mem_objectsOf hnode hobject) fun _ hpairs => .ok hpairs
  | cons label labels ih =>
    rw [jsonBlocks]
    refine .flatten fun object hobject => ?_
    refine .bind (delivers_of_mem_objectsOf hnode hobject) fun object hpairs => ?_
    refine .flatten fun p hp => ?_
    cases hpairs p (List.mem_filter.1 hp).1 with
    | mk _ hvalue => exact ih (found ++ [_]) _ hvalue

theorem delivers_addPair (hc : c.Bounded) (hp : p.Bounded)
    (h : p.isComment = false → schema.attributes.contains p.key = true → p.value.InRange) :
    Delivers Content.Bounded ContentError.Worded (addPair schema c p) := by
  unfold addPair
  split
  · exact .ok hc
  · next hcomment =>
    split
    · next hwanted =>
      split
      · exact .error ContentError.worded_fault
      · refine .map (delivers_memberAttribute hp (h ?_ hwanted)) fun _ ha => hc.addAttribute ha
        simpa using hcomment
    · split
      · exact .ok hc
      · cases hp with
        | mk _ hvalue =>
          exact .map (delivers_jsonBlocks _ _ [] _ hvalue) fun _ hbs => hc.addBlocks hbs

theorem delivers_addMember (hfound : ∀ a ∈ found, a.expr.Bounded) (hp : p.Bounded)
    (h : p.isComment = false → p.value.InRange) :
    Delivers (fun found => ∀ a ∈ found, a.expr.Bounded) ContentError.Worded
      (addMember found p) := by
  unfold addMember
  split
  · exact .ok hfound
  · next hcomment =>
    split
    · exact .error ContentError.worded_fault
    · refine .map (delivers_memberAttribute hp (h (by simpa using hcomment))) fun _ ha => ?_
      exact List.forall_mem_append.2 ⟨hfound, by simpa using ha⟩

/-! ## What a body gives -/

/-- What a schema finds in a body within the limits is within the limits. -/
theorem delivers_partialContent (hbody : body.Bounded)
    (h : ∀ node ∈ body.members schema.attributes.contains, node.InRange) :
    Delivers Content.Bounded ContentError.Worded (body.partialContent schema) := by
  cases body with
  | native items =>
    exact .foldlM (fun _ hc item hitem => delivers_addItem hc (hbody item hitem))
      Content.bounded_empty
  | json o pairs =>
    refine .foldlM (fun c hc p hp => delivers_addPair hc (hbody p hp) fun hcomment hwanted => ?_)
      Content.bounded_empty
    exact h _ (List.mem_map_of_mem (List.mem_filter.2 ⟨hp, by rw [hcomment, hwanted]; rfl⟩))

/-- The arguments of a body within the limits are within the limits. -/
theorem delivers_justAttributes (hbody : body.Bounded)
    (h : ∀ node ∈ body.members fun _ => true, node.InRange) :
    Delivers (fun found => ∀ a ∈ found, a.expr.Bounded) ContentError.Worded
      body.justAttributes := by
  cases body with
  | native items =>
    exact .foldlM (fun _ hfound item hitem => delivers_addArgument hfound (hbody item hitem))
      (by simp)
  | json o pairs =>
    refine .foldlM (fun _ hfound p hp => delivers_addMember hfound (hbody p hp) fun hcomment => ?_)
      (by simp)
    exact h _ (List.mem_map_of_mem (List.mem_filter.2 ⟨hp, by simp [hcomment]⟩))

end Body

/-! ## Loading -/

/-- The error has words. -/
def LoadError.Worded (e : LoadError) : Prop :=
  ∃ text, e.message? = some text

namespace LoadError

theorem worded_read {e : ReadError} (h : e.Worded) : (read e).Worded := by
  cases e with
  | malformed e => exact ⟨_, rfl⟩
  | beyondLimits => exact absurd rfl h

theorem worded_ofContent {e : ContentError} (h : e.Worded) : (ofContent e).Worded := by
  cases e with
  | decode e => exact ⟨_, rfl⟩
  | read e => exact worded_read fun he => h (congrArg ContentError.read he)

theorem worded_ofEval {e : EvalError} (h : e.Worded) : (ofEval e).Worded := by
  cases e with
  | invalid o cause => exact ⟨_, rfl⟩
  | beyondLimits => exact absurd rfl h

end LoadError

/-! ## What loading looks into -/

namespace Body

/-- The blocks of a file that hold entries for required providers. -/
def requirementBlocks (body : Body) : List Block :=
  following (body.partialContent Module.schema) fun content =>
    (content.blocksOfType "terraform").flatMap fun b =>
      following (b.body.partialContent Module.requirementsSchema)
        (·.blocksOfType "required_providers")

/-- The texts that the evaluation of the entries in a body converts to numbers. -/
def numerals (body : Body) : List String :=
  following body.justAttributes (·.flatMap fun a => a.expr.numerals Scope.empty)

/-- What loading reads as expressions and what it converts to numbers is in range. -/
structure InRange (body : Body) : Prop where
  /-- So it is with the values that name providers. -/
  providers : ∀ b ∈ body.resourceBlocks,
    ∀ node ∈ b.body.members Module.metaSchema.attributes.contains, node.InRange
  /-- And with the values that require providers. -/
  requirements : ∀ b ∈ body.requirementBlocks,
    ∀ node ∈ b.body.members fun _ => true, node.InRange
  /-- The texts that are converted to numbers are in range too. -/
  numerals : ∀ b ∈ body.requirementBlocks, ∀ t ∈ b.body.numerals, TextInRange t

instance (body : Body) : Decidable body.InRange :=
  decidable_of_iff
    ((∀ b ∈ body.resourceBlocks,
        ∀ node ∈ b.body.members Module.metaSchema.attributes.contains, node.InRange) ∧
      (∀ b ∈ body.requirementBlocks, ∀ node ∈ b.body.members fun _ => true, node.InRange) ∧
        ∀ b ∈ body.requirementBlocks, ∀ t ∈ b.body.numerals, TextInRange t)
    ⟨fun h => ⟨h.1, h.2.1, h.2.2⟩, fun h => ⟨h.providers, h.requirements, h.numerals⟩⟩

end Body

/-- The configuration files of a directory stay within the limits: their number literals are in
range, and so are their escapes and the texts that loading converts to numbers. -/
structure Disk.WithinLimits (d : Disk) (directory : String) : Prop where
  /-- The texts of the files can be held in memory. -/
  size : ∀ path ∈ Module.configFiles d directory,
    Ensures (·.length < Native.textLimit) (d.readText path)
  /-- The tokens of native files are in range. -/
  native : ∀ path ∈ Module.configFiles d directory, FileName.notationOf path = .native →
    Ensures (fun text => ∀ t ∈ Native.tokens .file path 1 text, t.InRange) (d.readText path)
  /-- The tokens of JSON files are in range. -/
  json : ∀ path ∈ Module.configFiles d directory, FileName.notationOf path = .json →
    Ensures (fun text => ∀ t ∈ Json.tokens path text, t.InRange) (d.readText path)
  /-- What is made of the files is in range. -/
  bodies : ∀ path ∈ Module.configFiles d directory, Ensures Body.InRange (d.readConfig path)

/-! ## Files -/

/-- A text within the limits is read as a body within the limits, or it is refused in words. -/
theorem delivers_parseConfig {path text : String} (hsize : text.length < Native.textLimit)
    (hnative : FileName.notationOf path = .native →
      ∀ t ∈ Native.tokens .file path 1 text, t.InRange)
    (hjson : FileName.notationOf path = .json → ∀ t ∈ Json.tokens path text, t.InRange) :
    Delivers Body.Bounded ReadError.Worded (parseConfig path text) := by
  unfold parseConfig
  split
  · next hnotation =>
    refine (Json.delivers_parse hsize (hjson hnotation)).mono ?_
    rintro _ ⟨o, pairs, rfl, hpairs⟩
    exact hpairs
  · next hnotation =>
    exact .map (Native.delivers_parseItems hsize (hnative hnotation)) fun _ hitems => hitems

/-- A configuration file is a file, so it can be asked for its bytes. -/
theorem Module.exists_read {d : Disk} {directory path : String}
    (h : path ∈ configFiles d directory) : ∃ bytes, d.read path = .ok bytes := by
  obtain ⟨name, hname, rfl⟩ := List.mem_map.1 h
  exact Disk.isFile_iff.1 (Bool.and_eq_true_iff.1 (List.mem_filter.1 hname).2).2

theorem Disk.WithinLimits.delivers_readConfig {d : Disk} {directory path : String}
    (h : d.WithinLimits directory) (hpath : path ∈ Module.configFiles d directory) :
    Delivers Body.Bounded ReadError.Worded (d.readConfig path) := by
  obtain ⟨bytes, hbytes⟩ := Module.exists_read hpath
  cases htext : d.readText path with
  | ok text =>
    have hbody := delivers_parseConfig (h.size path hpath text htext)
      (fun hnotation => h.native path hpath hnotation text htext)
      (fun hnotation => h.json path hpath hnotation text htext)
    simpa only [Disk.readConfig, hbytes, htext] using hbody
  | error reason =>
    simp only [Disk.readConfig, hbytes, htext]
    exact .error ReadError.worded_malformed

namespace Module

variable {m : Module} {b : Block} {a : Attribute} {body : Body}

/-! ## Declarations -/

theorem delivers_providerOf : Delivers (fun _ => True) LoadError.Worded (providerOf a) := by
  unfold providerOf
  split
  · exact .ok True.intro
  · exact .error ⟨_, rfl⟩

theorem delivers_resourceOf (hbody : b.body.Bounded)
    (h : ∀ node ∈ b.body.members metaSchema.attributes.contains, node.InRange) :
    Delivers (fun _ => True) LoadError.Worded (resourceOf b) := by
  refine .bind (.mapError (Body.delivers_partialContent hbody h)
    fun _ => LoadError.worded_ofContent) fun content _ => ?_
  dsimp only
  split
  · exact .bind delivers_providerOf fun _ _ => .ok True.intro
  · exact .ok True.intro

theorem delivers_requirementField {field : String} {fields : Fields Value} :
    Delivers (fun _ => True) LoadError.Worded (requirementField a field fields) := by
  unfold requirementField
  split
  · exact .ok True.intro
  · exact .ok True.intro
  · exact .ok True.intro
  · exact .error ⟨_, rfl⟩

/-- An entry is read, or it is refused in words, if what its evaluation converts is in range. -/
theorem delivers_requirementOf (ha : a.expr.Bounded)
    (h : ∀ t ∈ a.expr.numerals Scope.empty, TextInRange t) :
    Delivers (fun _ => True) LoadError.Worded (requirementOf a) := by
  refine .bind (.mapError (a.expr.delivers_evaluate _ ha Scope.bounded_empty h)
    fun _ => LoadError.worded_ofEval) fun v _ => ?_
  split
  · exact .ok True.intro
  · dsimp only
    split
    · exact .error ⟨_, rfl⟩
    · exact .bind delivers_requirementField fun _ _ =>
        .bind delivers_requirementField fun _ _ => .ok True.intro
  · exact .error ⟨_, rfl⟩

theorem delivers_addResource (hbody : b.body.Bounded)
    (h : ∀ node ∈ b.body.members metaSchema.attributes.contains, node.InRange) :
    Delivers (fun _ => True) LoadError.Worded (m.addResource b) := by
  refine .bind (delivers_resourceOf hbody h) fun r _ => ?_
  split
  · exact .error ⟨_, rfl⟩
  · exact .ok True.intro

theorem delivers_addRequirement (ha : a.expr.Bounded)
    (h : ∀ t ∈ a.expr.numerals Scope.empty, TextInRange t) :
    Delivers (fun _ => True) LoadError.Worded (m.addRequirement a) := by
  unfold addRequirement
  dsimp only
  split
  · exact .error ⟨_, rfl⟩
  · exact .bind (delivers_requirementOf ha h) fun _ _ => .ok True.intro

theorem delivers_addRequirements (hbody : b.body.Bounded)
    (hnodes : ∀ node ∈ b.body.members fun _ => true, node.InRange)
    (h : ∀ t ∈ b.body.numerals, TextInRange t) :
    Delivers (fun _ => True) LoadError.Worded (m.addRequirements b) := by
  refine .bind (.mapError (Body.delivers_justAttributes hbody hnodes).result
    fun _ => LoadError.worded_ofContent) ?_
  rintro found ⟨hfound, hresult⟩
  refine .foldlM (fun m _ a ha => delivers_addRequirement (hfound a ha) fun t ht => h t ?_)
    True.intro
  rw [Body.numerals, hresult]
  exact List.mem_flatMap.2 ⟨a, ha, ht⟩

/-- The entries of a `terraform` block are found from the file that it stands in. -/
theorem delivers_addSettings (hbody : b.body.Bounded)
    (hnodes : ∀ b' ∈ following (b.body.partialContent requirementsSchema)
      (·.blocksOfType "required_providers"), ∀ node ∈ b'.body.members fun _ => true, node.InRange)
    (h : ∀ b' ∈ following (b.body.partialContent requirementsSchema)
      (·.blocksOfType "required_providers"), ∀ t ∈ b'.body.numerals, TextInRange t) :
    Delivers (fun _ => True) LoadError.Worded (m.addSettings b) := by
  have hnone : b.body.members requirementsSchema.attributes.contains = [] :=
    Body.members_of_forall_not fun _ => rfl
  refine .bind (.mapError (Body.delivers_partialContent hbody (by simp [hnone])).result
    fun _ => LoadError.worded_ofContent) ?_
  rintro content ⟨hcontent, hresult⟩
  rw [hresult] at hnodes h
  exact .foldlM (fun m _ b' hb' => delivers_addRequirements
    (hcontent.blocks b' (List.mem_filter.1 hb').1) (hnodes b' hb') (h b' hb')) True.intro

/-- A file within the limits is added to a module, or it is refused in words. -/
theorem delivers_addFile (hbody : body.Bounded) (h : body.InRange) :
    Delivers (fun _ => True) LoadError.Worded (m.addFile body) := by
  -- At the top level only blocks are wanted, so no value is read as an expression.
  have hnone : body.members schema.attributes.contains = [] :=
    Body.members_of_forall_not fun _ => rfl
  refine .bind (.mapError (Body.delivers_partialContent hbody (by simp [hnone])).result
    fun _ => LoadError.worded_ofContent) ?_
  rintro content ⟨hcontent, hresult⟩
  have hresources : body.resourceBlocks = content.blocksOfType "resource" := by
    simp only [Body.resourceBlocks, hresult]
  have hrequirements : ∀ b ∈ content.blocksOfType "terraform",
      ∀ b' ∈ following (b.body.partialContent requirementsSchema)
        (·.blocksOfType "required_providers"), b' ∈ body.requirementBlocks := by
    intro b hb b' hb'
    rw [Body.requirementBlocks, hresult]
    exact List.mem_flatMap.2 ⟨b, hb, hb'⟩
  have hblock : ∀ {type} {b : Block}, b ∈ content.blocksOfType type → b.body.Bounded :=
    fun hb => hcontent.blocks _ (List.mem_filter.1 hb).1
  refine Delivers.bind (P := fun _ => True) (.foldlM (fun m _ b hb => ?_) True.intro) fun m _ =>
    .foldlM (fun m _ b hb => ?_) True.intro
  · exact delivers_addResource (hblock hb) (h.providers b (hresources ▸ hb))
  · exact delivers_addSettings (hblock hb)
      (fun b' hb' => h.requirements b' (hrequirements b hb b' hb'))
      (fun b' hb' => h.numerals b' (hrequirements b hb b' hb'))

/-! ## Directories -/

/-- Where the labels of a block are told apart, there are two. -/
theorem exists_labels {d : Disk} {path : String} (hb : b ∈ d.resourceBlocks path) :
    ∃ type name, b.labels = [type, name] := by
  unfold Disk.resourceBlocks at hb
  split at hb
  · next body _ =>
    unfold Body.resourceBlocks at hb
    split at hb
    · next content hcontent =>
      obtain ⟨hmem, htype⟩ := List.mem_filter.1 hb
      have hlabelled := body.ensures_partialContent_labelled content hcontent b hmem
      exact List.length_eq_two.1 (length_labels hlabelled (beq_iff_eq.1 htype))
    · cases hb
  · cases hb

/-- A directory whose configuration files stay within the limits, whatever else their bytes are, is
loaded, or loading fails in words. Where loading relies on something that is not looked at again, it
is so: a block that declares a resource has a type and a name, and what is taken for a heredoc has a
header. -/
theorem exists_load_or_message {d : Disk} {directory : String} (h : d.WithinLimits directory) :
    ((∃ m, load d directory = .ok m) ∨
        ∃ e text, load d directory = .error e ∧ e.message? = some text) ∧
      (∀ path ∈ configFiles d directory, ∀ b ∈ d.resourceBlocks path,
        ∃ type name, b.labels = [type, name]) ∧
      ∀ r file line text, ∀ t ∈ Native.tokens r file line text, t.kind = .heredoc →
        (Native.heredocHeader? t.text.toList).isSome := by
  have hload : Delivers (fun _ => True) LoadError.Worded (load d directory) := by
    cases hdir : d.isDirectory directory with
    | false =>
      have hmissing : load d directory = .error (.noDirectory directory) := by
        simp only [load, loadWith, hdir]
        rfl
      rw [hmissing]
      exact .error ⟨_, rfl⟩
    | true =>
      rw [load_eq hdir]
      refine .foldlM (fun m _ path hpath => ?_) True.intro
      refine .bind (.mapError (h.delivers_readConfig hpath).result
        fun _ => LoadError.worded_read) ?_
      rintro body ⟨hbody, hread⟩
      exact delivers_addFile hbody (h.bodies path hpath body hread)
  refine ⟨?_, fun _ _ b hb => exists_labels hb, fun r file line text t ht hkind => ?_⟩
  · cases hresult : load d directory with
    | ok m => exact .inl ⟨m, rfl⟩
    | error e =>
      -- A worded error is one that has a message.
      obtain ⟨text, htext⟩ := hload.failsWith e hresult
      exact .inr ⟨e, text, rfl, htext⟩
  · obtain ⟨accepted, m, hnext⟩ := Native.exists_nextToken? ht
    exact Native.isSome_heredocHeader? hnext hkind

/-- A directory with a native file, whose entry adds one to a text, and a JSON file. -/
def inBothNotations : Disk :=
  let native := "terraform \x7b\n required_providers \x7b\n" ++
    "  aws = \"~> $\x7b\"4\" + 1\x7d\"\n \x7d\n\x7d\n"
  let json := "\x7b\"resource\": \x7b\"aws_vpc\": \x7b\"main\": " ++
    "\x7b\"provider\": \"aws.west\", \"weight\": 2.5\x7d\x7d\x7d\x7d"
  ⟨[], [(["m"], .directory), (["m", "a.tf"], .file native.toUTF8),
    (["m", "b.tf.json"], .file json.toUTF8)]⟩

/-- Such a directory stays within the limits. -/
theorem exists_load_or_message_inBothNotations :
    inBothNotations.WithinLimits "m" ∧
      ((∃ m, load inBothNotations "m" = .ok m) ∨
        ∃ e text, load inBothNotations "m" = .error e ∧ e.message? = some text) := by
  have hfiles : configFiles inBothNotations "m" = ["m/a.tf", "m/b.tf.json"] := by
    rw [configFiles_of_pairwise (by decide +kernel)]
    decide +kernel
  have hlimits : inBothNotations.WithinLimits "m" := by
    constructor <;> rw [hfiles] <;> decide +kernel
  exact ⟨hlimits, (exists_load_or_message hlimits).1⟩

end Module

end ResourceTables
