import ResourceTables.Proofs.Comments.Expressions

/-!
# Modules with other comments

Decoding skips comments in each of its loops: among the members of a body, among those that stand
for the labels of blocks, and in the values of attributes. So bodies that differ in nothing but
comments and places have the same content, down to the bodies of blocks, which differ in nothing
else either. Loading a module goes through its files, their blocks and the arguments in these, and
each step is the same for such files.

* `Body.Recommented`, `Block.Recommented`, `Content.Alike`: bodies, blocks and what a schema finds;
* `Body.matches_jsonBlocks`: the blocks below a value;
* `Body.Recommented.matches_partialContent`, `Body.Recommented.matches_justAttributes`: what is
  decoded of bodies is alike, or both are refused for reasons of one class;
* `LoadError.errorClass`: the class of an error, which leaves out the place and the wording;
* `Module.Alike`: modules with the same resources and required providers, apart from places;
* `Disk.Recommented`: disks on which the configuration files of a directory differ in nothing but
  comments and places;
* `Disk.Recommented.matches_load`: such a directory is loaded as modules that are alike, or it
  cannot be loaded from either disk, for reasons of one class.
-/

namespace ResourceTables

/-- The attributes have one name, and nothing can be told apart in them. -/
structure Attribute.Alike (a a' : Attribute) : Prop where
  /-- They have the same name. -/
  name : a.name = a'.name
  /-- Their expressions cannot be told apart. -/
  expr : a.expr.Alike a'.expr

/-- The bodies are the same, or they are written in JSON and differ in nothing but comments and
places. -/
inductive Body.Recommented : Body → Body → Prop
  | same {body : Body} : Recommented body body
  | json {o o' : Origin} {pairs pairs' : List JsonPair}
      (h : JsonPair.AllRecommented pairs pairs') : Recommented (.json o pairs) (.json o' pairs')

/-- The blocks have the same header, stand in the same file, and have bodies that differ in nothing
but comments and places. -/
structure Block.Recommented (b b' : Block) : Prop where
  /-- They have the same type. -/
  type : b.type = b'.type
  /-- They have the same labels. -/
  labels : b.labels = b'.labels
  /-- They stand in the same file. -/
  file : b.pos.file = b'.pos.file
  /-- Their bodies differ in nothing but comments and places. -/
  body : b.body.Recommented b'.body

theorem Expr.Alike.refl (e : Expr) : e.Alike e :=
  .of_unplaced rfl

theorem Attribute.Alike.refl (a : Attribute) : a.Alike a :=
  ⟨rfl, .refl a.expr⟩

theorem Block.Recommented.refl (b : Block) : b.Recommented b :=
  ⟨rfl, rfl, rfl, .same⟩

namespace Content

/-- Attributes and blocks correspond one by one. -/
structure Alike (c c' : Content) : Prop where
  /-- The attributes cannot be told apart. -/
  attributes : List.Forall₂ Attribute.Alike c.attributes c'.attributes
  /-- The blocks differ in nothing but comments and places. -/
  blocks : List.Forall₂ Block.Recommented c.blocks c'.blocks

namespace Alike

variable {c c' : Content}

theorem refl (c : Content) : c.Alike c :=
  ⟨List.forall₂_same.2 fun a _ => .refl a, List.forall₂_same.2 fun b _ => .refl b⟩

/-- Looking for a name finds corresponding attributes, or none in either content. -/
theorem attribute? (h : c.Alike c') (name : String) :
    Option.Rel Attribute.Alike (c.attribute? name) (c'.attribute? name) :=
  rel_find? h.attributes fun a a' ha => by rw [ha.name]

theorem isSome_attribute? (h : c.Alike c') (name : String) :
    (c.attribute? name).isSome = (c'.attribute? name).isSome := by
  have hfound := h.attribute? name
  generalize c.attribute? name = a at hfound
  generalize c'.attribute? name = a' at hfound
  cases hfound <;> rfl

theorem blocksOfType (h : c.Alike c') (type : String) :
    List.Forall₂ Block.Recommented (c.blocksOfType type) (c'.blocksOfType type) :=
  List.rel_filter (fun b b' hb => by simp only [hb.type]) h.blocks

theorem addAttribute (h : c.Alike c') {a a' : Attribute} (ha : a.Alike a') :
    (c.addAttribute a).Alike (c'.addAttribute a') :=
  ⟨List.rel_append h.attributes (.cons ha .nil), h.blocks⟩

theorem addBlocks (h : c.Alike c') {bs bs' : List Block}
    (hbs : List.Forall₂ Block.Recommented bs bs') : (c.addBlocks bs).Alike (c'.addBlocks bs') :=
  ⟨h.attributes, List.rel_append h.blocks hbs⟩

end Alike

end Content

/-! ## Decoding -/

namespace Body

variable {schema : BodySchema} {c c' : Content} {p p' : JsonPair} {pairs pairs' : List JsonPair}
  {found found' : List Attribute}

/-- Values that differ in nothing but comments and places are taken apart into objects that do so,
or fail at the same place in the order. -/
theorem matches_objectsOf (cause : DecodeCause) {node node' : JsonNode}
    (h : node.Recommented node') :
    List.Forall₂
      (Matches ContentError.errorClass fun object object' =>
        JsonPair.AllRecommented object.2 object'.2)
      (objectsOf cause node) (objectsOf cause node') := by
  cases h with
  | scalar => exact .cons (.error rfl) .nil
  | object hpairs => exact .cons (.ok hpairs) .nil
  | array hitems =>
    rw [objectsOf, objectsOf, List.forall₂_map_left_iff, List.forall₂_map_right_iff]
    refine hitems.forall₂.imp fun item item' hitem => ?_
    cases hitem with
    | object hpairs => exact .ok hpairs
    | scalar | array => exact .error rfl

/-- Lists for corresponding elements are put together to corresponding lists. -/
theorem matches_flatten {f : ι → Except ContentError (List Block)}
    {g : κ → Except ContentError (List Block)} {as : List ι} {bs : List κ}
    (h : List.Forall₂ (fun a b => Matches ContentError.errorClass
      (List.Forall₂ Block.Recommented) (f a) (g b)) as bs) :
    Matches ContentError.errorClass (List.Forall₂ Block.Recommented)
      (do return (← as.mapM f).flatten) (do return (← bs.mapM g).flatten) :=
  .bind (.mapM h) fun _ _ hgroups => .ok (List.rel_flatten hgroups)

/-- The blocks below values that differ in nothing but comments and places. The induction is on the
labels that are still to come; at each level the members that are no comments correspond. -/
theorem matches_jsonBlocks (type : String) (labels found : List String) {pos pos' : Pos}
    {node node' : JsonNode} (hfile : pos.file = pos'.file) (h : node.Recommented node') :
    Matches ContentError.errorClass (List.Forall₂ Block.Recommented)
      (jsonBlocks type labels found pos node) (jsonBlocks type labels found pos' node') := by
  induction labels generalizing found pos pos' node node' with
  | nil =>
    rw [jsonBlocks, jsonBlocks]
    refine .mapM ((matches_objectsOf _ h).imp fun object object' hobject => ?_)
    exact .bind hobject fun _ _ hpairs => .ok ⟨rfl, rfl, hfile, .json hpairs⟩
  | cons label labels ih =>
    rw [jsonBlocks, jsonBlocks]
    refine matches_flatten ((matches_objectsOf _ h).imp fun object object' hobject => ?_)
    refine .bind hobject fun _ _ hpairs => matches_flatten (hpairs.forall₂.imp fun p p' hp => ?_)
    rw [hp.key]
    exact ih (found ++ [p'.key]) hp.file hp.value

theorem matches_memberAttribute (h : p.Recommented p') :
    Matches ContentError.errorClass Attribute.Alike (memberAttribute p) (memberAttribute p') := by
  unfold memberAttribute
  rcases h.value.matches_expr.cases with ⟨e, e', he, he', halike⟩ | ⟨e, e', he, he', hclass⟩
  · rw [he, he']
    exact .ok ⟨h.key, halike⟩
  · rw [he, he']
    refine .error ?_
    cases e <;> cases e' <;> first | rfl | cases hclass

/-- One member more keeps contents alike. -/
theorem matches_addPair (hc : c.Alike c') (h : p.Recommented p') :
    Matches ContentError.errorClass Content.Alike (addPair schema c p) (addPair schema c' p') := by
  unfold addPair
  -- Each test asks for the key or for names that have been found, which are the same.
  rw [h.isComment_eq, h.key, hc.isSome_attribute?]
  split
  · exact .ok hc
  · split
    · split
      · exact .error rfl
      · exact (matches_memberAttribute h).map fun _ _ ha => hc.addAttribute ha
    · split
      · exact .ok hc
      · exact (matches_jsonBlocks _ _ [] h.file h.value).map fun _ _ hbs => hc.addBlocks hbs

/-- Comments are skipped, so taking in the members is taking in those that are none. -/
theorem matches_foldlM {f : α → JsonPair → Except ContentError α} {R : α → α → Prop}
    (h : JsonPair.AllRecommented pairs pairs') (hskip : ∀ a p, p.isComment = true → f a p = .ok a)
    (hstep : ∀ a a' p p', R a a' → JsonPair.Recommented p p' →
      Matches ContentError.errorClass R (f a p) (f a' p')) {a a' : α} (ha : R a a') :
    Matches ContentError.errorClass R (pairs.foldlM f a) (pairs'.foldlM f a') := by
  have hmembers : ∀ (pairs : List JsonPair) a,
      pairs.foldlM f a = (pairs.filter (!·.isComment)).foldlM f a := by
    intro pairs a
    rw [List.foldlM_filter]
    congr 1
    funext a p
    cases hp : p.isComment with
    | true => exact hskip a p hp
    | false => rfl
  rw [hmembers pairs, hmembers pairs']
  exact .foldlM h.forall₂ hstep ha

theorem matches_addMember (hfound : List.Forall₂ Attribute.Alike found found')
    (h : p.Recommented p') :
    Matches ContentError.errorClass (List.Forall₂ Attribute.Alike) (addMember found p)
      (addMember found' p') := by
  have hany : found.any (·.name == p'.key) = found'.any (·.name == p'.key) := by
    induction hfound with
    | nil => rfl
    | cons ha _ ih => rw [List.any_cons, List.any_cons, ha.name, ih]
  unfold addMember
  rw [h.isComment_eq, h.key, hany]
  split
  · exact .ok hfound
  · split
    · exact .error rfl
    · exact (matches_memberAttribute h).map fun _ _ ha => List.rel_append hfound (.cons ha .nil)

variable {body body' : Body}

/-- What a schema finds in bodies that differ in nothing but comments and places is alike, or both
are refused for reasons of one class. -/
theorem Recommented.matches_partialContent (h : body.Recommented body') (schema : BodySchema) :
    Matches ContentError.errorClass Content.Alike (body.partialContent schema)
      (body'.partialContent schema) := by
  cases h with
  | same => exact .refl .refl
  | json hpairs =>
    refine matches_foldlM hpairs (fun c p hp => ?_) (fun _ _ _ _ hc hp => matches_addPair hc hp)
      ⟨.nil, .nil⟩
    rw [addPair, if_pos hp]

/-- So it is with bodies that hold arguments only. -/
theorem Recommented.matches_justAttributes (h : body.Recommented body') :
    Matches ContentError.errorClass (List.Forall₂ Attribute.Alike) body.justAttributes
      body'.justAttributes := by
  cases h with
  | same => exact .refl fun as => List.forall₂_same.2 fun a _ => .refl a
  | json hpairs =>
    refine matches_foldlM hpairs (fun found p hp => ?_)
      (fun _ _ _ _ hfound hp => matches_addMember hfound hp) .nil
    rw [addMember, if_pos hp]

end Body

/-! ## Modules -/

/-- The classes of errors that loading a module can end in. -/
inductive LoadErrorClass where
  /-- The directory is missing. -/
  | noDirectory
  /-- A file is malformed. -/
  | parse
  /-- A body does not fit the schema that it is decoded against. -/
  | decode
  /-- An expression is invalid. -/
  | evaluation
  /-- A resource is declared twice. -/
  | duplicateResource
  /-- An argument does not name a provider. -/
  | providerReference
  /-- A provider is required twice. -/
  | duplicateProvider
  /-- A requirement is malformed. -/
  | requirement
  /-- A number or a character is beyond what a value can hold. -/
  | beyondLimits
  deriving DecidableEq, Repr

/-- The class of an error. -/
def LoadError.errorClass : LoadError → LoadErrorClass
  | .noDirectory _ => .noDirectory
  | .read (.malformed _) => .parse
  | .read .beyondLimits => .beyondLimits
  | .decode _ => .decode
  | .invalid _ _ => .evaluation
  | .duplicateResource _ _ _ _ => .duplicateResource
  | .providerReference _ _ => .providerReference
  | .duplicateProvider _ _ => .duplicateProvider
  | .requirement _ _ | .requirementField _ _ _ => .requirement

namespace LoadError

theorem errorClass_ofContent {e e' : ContentError} (h : e.errorClass = e'.errorClass) :
    (ofContent e).errorClass = (ofContent e').errorClass := by
  rcases e with _ | _ | _ <;> rcases e' with _ | _ | _ <;> first | rfl | cases h

theorem errorClass_ofEval {e e' : EvalError} (h : e.cause? = e'.cause?) :
    (ofEval e).errorClass = (ofEval e').errorClass := by
  cases e <;> cases e' <;> first | rfl | cases h

theorem errorClass_read {e e' : ReadError} (h : e.isMalformed = e'.isMalformed) :
    (read e).errorClass = (read e').errorClass := by
  cases e <;> cases e' <;> first | rfl | cases h

end LoadError

/-- Computations that agree match. -/
theorem Matches.of_agree {f : ε → δ} {x x' : Except ε α} (h : AgreeUpTo f x x') :
    Matches f Eq x x' := by
  rcases h.cases with ⟨a, rfl, rfl⟩ | ⟨e, e', rfl, rfl, he⟩
  · exact .ok rfl
  · exact .error he

/-- The resources are declared alike in the same file, perhaps on different lines. -/
structure Resource.AlikeInFile (r r' : Resource) : Prop extends r.Alike r' where
  /-- The files are the same. -/
  file : r.file = r'.file

theorem Resource.Alike.key_eq {r r' : Resource} (h : r.Alike r') : r.key = r'.key := by
  rw [key, key, h.type, h.name]

namespace Module

/-- The modules have the same resources and required providers, apart from places. -/
structure Alike (m m' : Module) : Prop where
  /-- The resources correspond one by one. -/
  resources : List.Forall₂ Resource.AlikeInFile m.resources m'.resources
  /-- The required providers are the same. -/
  required : m.required = m'.required

variable {m m' : Module} {a a' : Attribute} {b b' : Block} {body body' : Body}

theorem matches_partialContent (h : body.Recommented body') (schema : BodySchema) :
    Matches LoadError.errorClass Content.Alike
      ((body.partialContent schema).mapError LoadError.ofContent)
      ((body'.partialContent schema).mapError LoadError.ofContent) :=
  (h.matches_partialContent schema).mapError fun _ _ => LoadError.errorClass_ofContent

/-! ## Resources -/

theorem matches_providerOf (h : a.Alike a') :
    Matches LoadError.errorClass Eq (providerOf a) (providerOf a') := by
  unfold providerOf
  rw [h.expr.provider]
  split
  · exact .ok rfl
  · exact .error rfl

/-- Blocks that differ in nothing but comments and places declare resources that are alike. -/
theorem matches_resourceOf (h : b.Recommented b') :
    Matches LoadError.errorClass Resource.AlikeInFile (resourceOf b) (resourceOf b') := by
  refine .bind (matches_partialContent h.body metaSchema) fun c c' hc => ?_
  rw [h.labels]
  have hfound := hc.attribute? "provider"
  generalize c.attribute? "provider" = a at hfound
  generalize c'.attribute? "provider" = a' at hfound
  cases hfound with
  | none => exact .ok ⟨⟨rfl, rfl, rfl⟩, h.file⟩
  | some ha => exact .bind (matches_providerOf ha) fun _ _ hp => .ok ⟨⟨rfl, rfl, hp⟩, h.file⟩

/-- One resource more keeps modules alike. -/
theorem matches_addResource (hm : m.Alike m') (h : b.Recommented b') :
    Matches LoadError.errorClass Alike (m.addResource b) (m'.addResource b') := by
  refine .bind (matches_resourceOf h) fun r r' hr => ?_
  -- An earlier declaration of the resource is there in both modules or in neither.
  have hfound : Option.Rel Resource.AlikeInFile (m.resource? r.key) (m'.resource? r'.key) :=
    rel_find? hm.resources fun q q' hq => by rw [hq.key_eq, hr.key_eq]
  generalize m.resource? r.key = first at hfound
  generalize m'.resource? r'.key = first' at hfound
  cases hfound with
  | some => exact .error rfl
  | none => exact .ok ⟨List.rel_append hm.resources (.cons hr .nil), hm.required⟩

/-! ## Required providers -/

theorem matches_requirementField (field : String) (fields : Fields Value) :
    Matches LoadError.errorClass Eq (requirementField a field fields)
      (requirementField a' field fields) := by
  unfold requirementField
  split
  · exact .ok rfl
  · exact .ok rfl
  · exact .ok rfl
  · exact .error rfl

/-- Arguments in which nothing can be told apart require the same. -/
theorem matches_requirementOf (h : a.Alike a') :
    Matches LoadError.errorClass Eq (requirementOf a) (requirementOf a') := by
  refine .bind ((Matches.of_agree h.expr.value).mapError fun _ _ => LoadError.errorClass_ofEval) ?_
  rintro v _ rfl
  split
  · exact .ok rfl
  · dsimp only
    split
    · exact .error rfl
    · refine .bind (matches_requirementField "source" _) ?_
      rintro source _ rfl
      refine .bind (matches_requirementField "version" _) ?_
      rintro version _ rfl
      exact .ok rfl
  · exact .error rfl

theorem matches_addRequirement (hm : m.Alike m') (h : a.Alike a') :
    Matches LoadError.errorClass Alike (m.addRequirement a) (m'.addRequirement a') := by
  unfold addRequirement
  rw [hm.required, h.name]
  split
  · exact .error rfl
  · refine .bind (matches_requirementOf h) ?_
    rintro p _ rfl
    exact .ok ⟨hm.resources, rfl⟩

theorem matches_addRequirements (hm : m.Alike m') (h : b.Recommented b') :
    Matches LoadError.errorClass Alike (m.addRequirements b) (m'.addRequirements b') := by
  refine .bind (h.body.matches_justAttributes.mapError fun _ _ => LoadError.errorClass_ofContent) ?_
  intro as as' has
  exact .foldlM has (fun _ _ _ _ => matches_addRequirement) hm

theorem matches_addSettings (hm : m.Alike m') (h : b.Recommented b') :
    Matches LoadError.errorClass Alike (m.addSettings b) (m'.addSettings b') := by
  refine .bind (matches_partialContent h.body requirementsSchema) fun c c' hc => ?_
  exact .foldlM (hc.blocksOfType "required_providers") (fun _ _ _ _ => matches_addRequirements) hm

/-! ## Files -/

/-- The body of one file more keeps modules alike. -/
theorem matches_addFile (hm : m.Alike m') (h : body.Recommented body') :
    Matches LoadError.errorClass Alike (m.addFile body) (m'.addFile body') := by
  refine .bind (matches_partialContent h schema) fun c c' hc => ?_
  refine .bind (.foldlM (hc.blocksOfType "resource") (fun _ _ _ _ => matches_addResource) hm) ?_
  intro m m' hm
  exact .foldlM (hc.blocksOfType "terraform") (fun _ _ _ _ => matches_addSettings) hm

end Module

/-- The configuration files of the directory are the same on both disks, but for comments in those
that are written in JSON, and for places. -/
structure Disk.Recommented (d d' : Disk) (directory : String) : Prop where
  /-- The directory is there on both disks, or on neither. -/
  isDirectory : d.isDirectory directory = d'.isDirectory directory
  /-- The configuration files have the same paths. -/
  configFiles : Module.configFiles d directory = Module.configFiles d' directory
  /-- Each file is read as bodies that differ in nothing but comments and places, or it cannot be
  read on either disk. -/
  readConfig : ∀ path ∈ Module.configFiles d directory,
    Matches ReadError.isMalformed Body.Recommented (d.readConfig path) (d'.readConfig path)

/-- The directory is loaded as modules that are alike, or it cannot be loaded from either disk, for
reasons of one class. -/
theorem Disk.Recommented.matches_load {d d' : Disk} {directory : String}
    (h : d.Recommented d' directory) :
    Matches LoadError.errorClass Module.Alike (Module.load d directory)
      (Module.load d' directory) := by
  have hfiles : List.Forall₂ (fun path path' => path = path' ∧
      path ∈ Module.configFiles d directory) (Module.configFiles d directory)
      (Module.configFiles d' directory) := by
    rw [← h.configFiles]
    exact List.forall₂_same.2 fun path hpath => ⟨rfl, hpath⟩
  unfold Module.load Module.loadWith
  rw [h.isDirectory]
  -- The reads of the two disks are different, so only the modules are carried along.
  refine .map (S := Module.Alike) (R := fun s s' => s.1.Alike s'.1) ?_ fun _ _ hm => hm
  split
  · exact .error rfl
  · refine .foldlM hfiles ?_ ⟨.nil, rfl⟩
    rintro ⟨m, _⟩ ⟨m', _⟩ path _ hm ⟨rfl, hpath⟩
    refine .bind (R := fun s s' => s.1.Recommented s'.1) ?_ fun s s' hbody => ?_
    · refine .mapError ?_ fun _ _ => LoadError.errorClass_read
      exact (h.readConfig path hpath).map fun _ _ hbody => hbody
    · exact .bind (Module.matches_addFile hm hbody) fun _ _ hm => .ok hm

end ResourceTables
