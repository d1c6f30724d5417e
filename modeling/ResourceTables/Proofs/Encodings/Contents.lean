import Mathlib.Data.List.Forall2
import ResourceTables.Inventory.Load
import ResourceTables.Proofs.Encodings.JsonFiles

/-!
# Decoding declarations

Whatever the notation of a file, a schema finds the same things in it, and a file on a disk that
holds declarations in either notation is read as a body that declares them.

* `Body.Sets`: which arguments a schema finds in a body, and that it refuses a body only for an
  argument that is set twice;
* `Body.Declares`: the schema of a module finds a block for each declaration, in order, with a body
  that sets its arguments;
* `Native.drafted_declares`, `Json.drafted_declares`: so it does in a file of either notation,
  unless a number is out of range;
* `Encoding.decode_toUTF8`: a text without carriage returns is read as it was written;
* `Disk.HoldsFile`: the module of a directory is one file with a given text;
* `Disk.HoldsDeclarations`: it is one file, whatever its notation, which declares given resources;
* `Disk.HoldsFile.native`, `Disk.HoldsFile.json`: a file with the text of some declarations in
  either notation declares them.
-/

namespace ResourceTables

/-! ## Arguments -/

/-- What decoding gives for the wanted arguments: attributes that set them, or a decode error if a
name is among them twice. -/
def Argument.Collected (found : List Argument) : Except ContentError Content → Prop
  | .ok content =>
    (found.map Argument.name).Nodup ∧ List.Forall₂ Argument.Sets found content.attributes
  | .error (.decode _) => ¬ (found.map Argument.name).Nodup
  | .error (.read _) => False

/-- A schema that wants some arguments finds those of the list that it names, in order. -/
def Body.Sets (arguments : List Argument) (body : Body) : Prop :=
  ∀ wanted : List String,
    Argument.Collected (arguments.filter fun a => wanted.contains a.name)
      (body.partialContent ⟨wanted, []⟩)

namespace Argument

/-- What decoding one more thing that sets the argument does to the content before it. -/
structure Taken (wanted : List String) (a : Argument)
    (step : Content → Except ContentError Content) : Prop where
  /-- An argument that is not wanted is passed over. -/
  skip : wanted.contains a.name = false → ∀ c, step c = .ok c
  /-- An argument that is there already is refused. -/
  again : wanted.contains a.name = true → ∀ c : Content, (c.attribute? a.name).isSome →
    ∃ e, step c = .error (.decode e)
  /-- Any other argument is added. -/
  add : wanted.contains a.name = true → ∀ c : Content, c.attribute? a.name = none →
    ∃ x, a.Sets x ∧ step c = .ok (c.addAttribute x)

theorem map_name_of_sets {found : List Argument} {attributes : List Attribute}
    (h : List.Forall₂ Sets found attributes) :
    attributes.map Attribute.name = found.map Argument.name := by
  induction h with
  | nil => rfl
  | cons hx _ ih => rw [List.map_cons, List.map_cons, hx.name, ih]

theorem isSome_attribute?_iff {found : List Argument} {c : Content}
    (h : List.Forall₂ Sets found c.attributes) (name : String) :
    (c.attribute? name).isSome ↔ name ∈ found.map Argument.name := by
  rw [← map_name_of_sets h, Content.attribute?, List.find?_isSome]
  simp

/-- The wanted arguments are collected one after the other. -/
theorem collected_foldlM {wanted : List String} {step : Content → α → Except ContentError Content}
    {arguments : List Argument} {xs : List α}
    (h : List.Forall₂ (fun a x => Taken wanted a (step · x)) arguments xs) {found : List Argument}
    {c : Content} (hc : List.Forall₂ Sets found c.attributes)
    (hnodup : (found.map Argument.name).Nodup) :
    Collected (found ++ arguments.filter fun a => wanted.contains a.name) (xs.foldlM step c) := by
  -- The induction keeps that the content sets what was found so far, each name once.
  induction h generalizing found c with
  | nil =>
    rw [List.filter_nil, List.append_nil]
    exact ⟨hnodup, hc⟩
  | @cons a x arguments xs hx _ ih =>
    rw [List.foldlM_cons, List.filter_cons]
    cases hwanted : wanted.contains a.name with
    | false =>
      rw [hx.skip hwanted c]
      exact ih hc hnodup
    | true =>
      have hmem := isSome_attribute?_iff hc a.name
      cases hfirst : c.attribute? a.name with
      | some first =>
        -- The name is there already: decoding stops, and the list has it twice.
        obtain ⟨e, he⟩ := hx.again hwanted c (by rw [hfirst]; rfl)
        rw [he]
        have hfound := hmem.1 (by rw [hfirst]; rfl)
        intro hall
        rw [if_pos rfl, List.map_append, List.map_cons] at hall
        exact (List.nodup_append.1 hall).2.2 a.name hfound a.name (by simp) rfl
      | none =>
        obtain ⟨y, hy, hstep⟩ := hx.add hwanted c hfirst
        have hnew : a.name ∉ found.map Argument.name := by
          rw [← hmem, hfirst]
          simp
        have hnodup' : ((found ++ [a]).map Argument.name).Nodup := by
          rw [List.map_append, List.map_cons, List.map_nil]
          refine List.nodup_append.2 ⟨hnodup, by simp, fun b hb b' hb' => ?_⟩
          obtain rfl := List.mem_singleton.1 hb'
          exact fun heq => hnew (heq ▸ hb)
        have hrest := ih (c := c.addAttribute y) (List.rel_append hc (.cons hy .nil)) hnodup'
        rw [hstep, if_pos rfl]
        rwa [List.append_assoc, List.singleton_append] at hrest

theorem taken_item {a : Argument} {item : ResourceTables.Item} (h : a.Item item)
    (wanted : List String) : Taken wanted a (Body.addItem ⟨wanted, []⟩ · item) := by
  obtain ⟨x, rfl, hx⟩ := h
  refine ⟨fun hwanted c => ?_, fun hwanted c hfirst => ?_, fun hwanted c hfirst => ⟨x, hx, ?_⟩⟩
  · simp only [Body.addItem, hx.name, hwanted]
    rfl
  · obtain ⟨first, hfirst⟩ := Option.isSome_iff_exists.1 hfirst
    simp only [Body.addItem, hx.name, hwanted, hfirst]
    exact ⟨_, rfl⟩
  · simp only [Body.addItem, hx.name, hwanted, hfirst]
    rfl

/-- An identifier marks no comment. -/
theorem name_ne_comment (a : Argument) : a.name ≠ JsonPair.commentKey := by
  intro heq
  have hlength := a.identifier
  rw [heq] at hlength
  exact absurd hlength (by decide)

theorem taken_pair {a : Argument} {p : JsonPair} (h : Json.SetsMember a p)
    (wanted : List String) : Taken wanted a (Body.addPair ⟨wanted, []⟩ · p) := by
  obtain ⟨hkey, e, he, hmeans⟩ := h
  have hcomment : p.isComment = false := by
    rw [JsonPair.isComment, hkey]
    exact beq_false_of_ne a.name_ne_comment
  have hmember : Body.memberAttribute p = .ok ⟨p.key, e, p.pos⟩ := by
    simp only [Body.memberAttribute, he]
  refine ⟨fun hwanted c => ?_, fun hwanted c hfirst => ?_,
    fun hwanted c hfirst => ⟨⟨p.key, e, p.pos⟩, ⟨hkey, hmeans⟩, ?_⟩⟩
  · simp only [Body.addPair, hcomment, hkey, hwanted]
    rfl
  · simp only [Body.addPair, hcomment, hkey, hwanted, hfirst]
    exact ⟨_, rfl⟩
  · simp only [Body.addPair, hcomment, hkey, hwanted, hfirst, hmember]
    rfl

end Argument

theorem Body.sets_native {arguments : List Argument} {items : List Item}
    (h : List.Forall₂ Argument.Item arguments items) : (Body.native items).Sets arguments := by
  intro wanted
  exact Argument.collected_foldlM (h.imp fun _ _ ha => Argument.taken_item ha wanted) (c := {}) .nil
    List.nodup_nil

theorem Body.sets_json {arguments : List Argument} {o : Origin} {pairs : List JsonPair}
    (h : List.Forall₂ Json.SetsMember arguments pairs) : (Body.json o pairs).Sets arguments := by
  intro wanted
  exact Argument.collected_foldlM (h.imp fun _ _ ha => Argument.taken_pair ha wanted) (c := {}) .nil
    List.nodup_nil

/-! ## Blocks -/

/-- The block has the labels of the declaration and sets its arguments. -/
structure Declaration.Block (d : Declaration) (b : ResourceTables.Block) : Prop where
  /-- It is a block for a resource. -/
  type : b.type = "resource"
  /-- The labels are the type and the name. -/
  labels : b.labels = [d.type, d.name]
  /-- The body sets the arguments. -/
  sets : b.body.Sets d.arguments

/-- The schema of a module finds the blocks of the declarations, in order. -/
def Body.Declares (ds : List Declaration) (body : Body) : Prop :=
  ∃ blocks, body.partialContent Module.schema = .ok ⟨[], blocks⟩ ∧
    List.Forall₂ Declaration.Block ds blocks

theorem block?_resource :
    Module.schema.block? "resource" = some ⟨"resource", ["type", "name"]⟩ := by
  decide

/-- An item that is the block of a declaration adds this block. -/
theorem Declaration.addItem_eq {d : Declaration} {item : ResourceTables.Item} (h : d.Item item) :
    ∃ b, d.Block b ∧ ∀ c, Body.addItem Module.schema c item = .ok (c.addBlocks [b]) := by
  obtain ⟨pos, items, rfl, hitems⟩ := h
  refine ⟨⟨"resource", [d.type, d.name], .native items, pos⟩,
    ⟨rfl, rfl, Body.sets_native hitems⟩, fun c => ?_⟩
  simp only [Body.addItem, block?_resource]
  rfl

theorem Body.declares_native {ds : List Declaration} {items : List Item}
    (h : List.Forall₂ Declaration.Item ds items) : (Body.native items).Declares ds := by
  have hfold : ∃ blocks, List.Forall₂ Declaration.Block ds blocks ∧
      ∀ c, items.foldlM (Body.addItem Module.schema) c = .ok (c.addBlocks blocks) := by
    induction h with
    | nil => exact ⟨[], .nil, fun c => by simp [Content.addBlocks, pure, Except.pure]⟩
    | cons hitem _ ih =>
      obtain ⟨b, hb, hstep⟩ := Declaration.addItem_eq hitem
      obtain ⟨blocks, hblocks, hrest⟩ := ih
      refine ⟨b :: blocks, .cons hb hblocks, fun c => ?_⟩
      rw [List.foldlM_cons, hstep]
      refine (hrest _).trans ?_
      simp [Content.addBlocks]
  obtain ⟨blocks, hblocks, hfold⟩ := hfold
  exact ⟨blocks, hfold {}, hblocks⟩

section Json

namespace Body

variable {type label : String} {labels found : List String} {pos : Pos} {o : Origin}

/-- The blocks below the members of an object, whose names are labels. -/
def blocksBelow (type : String) (labels found : List String) (pairs : List JsonPair) :
    Except ContentError (List ResourceTables.Block) := do
  let groups ← (pairs.filter (!·.isComment)).mapM fun p =>
    jsonBlocks type labels (found ++ [p.key]) p.pos p.value
  return groups.flatten

theorem jsonBlocks_cons (node : JsonNode) :
    jsonBlocks type (label :: labels) found pos node = do
      let groups ← (objectsOf (.labelObjectExpected type label) node).mapM
        fun object => object >>= fun object => blocksBelow type labels found object.2
      return groups.flatten := by
  rw [jsonBlocks]
  rfl

theorem jsonBlocks_object (pairs : List JsonPair) :
    jsonBlocks type (label :: labels) found pos (.object o pairs) =
      blocksBelow type labels found pairs := by
  rw [jsonBlocks_cons]
  simp only [objectsOf, List.mapM_cons, List.mapM_nil, bind, Except.bind, pure, Except.pure]
  cases blocksBelow type labels found pairs with
  | error e => rfl
  | ok blocks => simp

/-- An object with one member gives the blocks below this member. -/
theorem blocksBelow_singleton {p : JsonPair} (hp : p.key ≠ JsonPair.commentKey) :
    blocksBelow type labels found [p] =
      jsonBlocks type labels (found ++ [p.key]) p.pos p.value := by
  have hkept : [p].filter (fun p => !p.isComment) = [p] := by
    have hcomment : p.isComment = false := beq_false_of_ne hp
    simp [hcomment]
  simp only [blocksBelow, hkept, List.mapM_cons, List.mapM_nil, bind, Except.bind, pure,
    Except.pure]
  cases jsonBlocks type labels (found ++ [p.key]) p.pos p.value with
  | error e => rfl
  | ok blocks => simp

/-- An array of objects gives the blocks below its items one after the other. -/
theorem jsonBlocks_array {nodes : List JsonNode} {groups : List (List ResourceTables.Block)}
    (h : List.Forall₂ (fun node blocks => ∃ o pairs, node = .object o pairs ∧
      blocksBelow type labels found pairs = .ok blocks) nodes groups) :
    jsonBlocks type (label :: labels) found pos (.array o nodes) = .ok groups.flatten := by
  have hgroups : (objectsOf (.labelObjectExpected type label) (.array o nodes)).mapM
      (fun object => object >>= fun object => blocksBelow type labels found object.2) =
        .ok groups := by
    rw [objectsOf]
    induction h with
    | nil => rfl
    | cons hnode _ ih =>
      obtain ⟨o, pairs, rfl, hblocks⟩ := hnode
      rw [List.map_cons, List.mapM_cons, ih]
      simp only [bind, Except.bind, hblocks]
      rfl
  rw [jsonBlocks_cons, hgroups]
  rfl

/-- A value that holds a declaration gives its block. -/
theorem exists_block_of_holds {d : Declaration} {node : JsonNode}
    (h : Json.HoldsDeclaration d node) :
    ∃ b, d.Block b ∧ ∃ o pairs, node = .object o pairs ∧
      blocksBelow "resource" ["name"] [] pairs = .ok [b] := by
  obtain ⟨o, p, rfl, hp, o', p', hvalue, hp', o'', pairs, hvalue', hpairs⟩ := h
  -- The type and the name are the keys of the two objects around the arguments.
  have hbody : blocksBelow "resource" ["name"] [] [p] =
      .ok [⟨"resource", [p.key, p'.key], .json o'' pairs, p'.pos⟩] := by
    rw [blocksBelow_singleton (hp ▸ d.type_ne_comment), hvalue, jsonBlocks_object,
      blocksBelow_singleton (hp' ▸ d.name_ne_comment), hvalue', jsonBlocks, objectsOf]
    rfl
  rw [hp, hp'] at hbody
  exact ⟨_, ⟨rfl, rfl, sets_json hpairs⟩, o, [p], rfl, hbody⟩

theorem declares_json {ds : List Declaration} {body : Body} (h : Json.HoldsResources ds body) :
    body.Declares ds := by
  obtain ⟨o, p, rfl, hp, o', nodes, hvalue, hnodes⟩ := h
  have hblocks : ∃ blocks, List.Forall₂ Declaration.Block ds blocks ∧
      jsonBlocks "resource" ["type", "name"] [] p.pos p.value = .ok blocks := by
    -- Each node of the array gives one group with the one block of its declaration.
    have hgroups : ∃ groups : List (List ResourceTables.Block),
        List.Forall₂ Declaration.Block ds groups.flatten ∧
        List.Forall₂ (fun node blocks => ∃ o pairs, node = .object o pairs ∧
          blocksBelow "resource" ["name"] [] pairs = .ok blocks) nodes groups := by
      clear hvalue
      induction hnodes with
      | nil => exact ⟨[], .nil, .nil⟩
      | cons hnode _ ih =>
        obtain ⟨b, hb, hbelow⟩ := exists_block_of_holds hnode
        obtain ⟨groups, hgroups, hrest⟩ := ih
        exact ⟨[b] :: groups, .cons hb hgroups, .cons hbelow hrest⟩
    obtain ⟨groups, hgroups, hbelow⟩ := hgroups
    rw [hvalue]
    exact ⟨groups.flatten, hgroups, jsonBlocks_array hbelow⟩
  obtain ⟨blocks, hforall, hread⟩ := hblocks
  have hcomment : p.isComment = false := by
    rw [JsonPair.isComment, hp]
    decide
  have hpair : addPair Module.schema {} p = .ok ⟨[], blocks⟩ := by
    simp only [addPair, hcomment, hp, block?_resource, hread]
    rfl
  refine ⟨blocks, ?_, hforall⟩
  simp only [partialContent, List.foldlM_cons, List.foldlM_nil, hpair]
  rfl

end Body

end Json

/-! ## Files -/

/-- A native file declares what is written in it, unless a number is out of range. -/
theorem Native.drafted_declares (file : String) (ds : List Declaration) :
    Drafted (ds.all Declaration.withinLimits) (Body.Declares ds)
      (Native.parse file (Native.encodeFile ds)) := by
  refine (Native.drafted_parse file ds).mono ?_
  rintro body ⟨items, rfl, hitems⟩
  exact Body.declares_native hitems

/-- So does a JSON file. -/
theorem Json.drafted_declares (file : String) (ds : List Declaration) :
    Drafted (ds.all Declaration.withinLimits) (Body.Declares ds)
      (Json.parse file (Json.encodeFile ds)) :=
  (Json.drafted_parse file ds).mono fun _ => Body.declares_json

/-! ## Texts without carriage returns -/

theorem Encoding.plainNewlines_eq {cs : List Char} (h : '\r' ∉ cs) : plainNewlines cs = cs := by
  induction cs with
  | nil => rfl
  | cons c cs ih =>
    obtain ⟨hc, hcs⟩ := not_or.1 (mt List.mem_cons.2 h)
    have hplain : plainNewlines (c :: cs) = c :: plainNewlines cs :=
      plainNewlines.eq_3 c cs (by rintro _ rfl; exact absurd rfl hc) (by rintro rfl; exact hc rfl)
    rw [hplain, ih hcs]

/-- A text without carriage returns is read as it was written. -/
theorem Encoding.decode_toUTF8 {text : String} (h : '\r' ∉ text.toList) :
    decode text.toUTF8 = .ok text := by
  have hvalid : String.fromUTF8? text.toUTF8 = some text := dif_pos text.isValidUTF8
  simp only [decode, hvalid, plainNewlines_eq h, String.ofList_toList]

namespace Native

theorem isNameChar_of_mem {cs : List Char} (h : nameLength cs = cs.length) {c : Char}
    (hc : c ∈ cs) : isNameChar c = true := by
  -- Behind its first character a name has characters of one kind.
  have hall : ∀ {cs : List Char}, countWhile isNameChar cs = cs.length →
      ∀ c ∈ cs, isNameChar c = true := by
    intro cs
    induction cs with
    | nil => simp
    | cons d cs ih =>
      intro h c hc
      rw [countWhile] at h
      split at h
      · next hd =>
        rcases List.mem_cons.1 hc with rfl | hc
        · exact hd
        · exact ih (Nat.succ.inj h) c hc
      · cases h
  cases cs with
  | nil => cases hc
  | cons d cs =>
    rw [nameLength] at h
    split at h
    · next hd =>
      rcases List.mem_cons.1 hc with rfl | hc
      · rw [isNameChar, hd]
        rfl
      · exact hall (Nat.succ.inj h) c hc
    · cases h

theorem return_not_mem_quoted (s : String) : '\r' ∉ quoted s := by
  have hescaped := return_not_mem_escaped s.toList
  simp [quoted, hescaped]

end Native

theorem Numeral.return_not_mem (n : Numeral) : '\r' ∉ n.chars :=
  fun h => absurd (n.isNumeralChar_of_mem h) (by decide)

theorem return_not_mem_encodeBool (b : Bool) : '\r' ∉ encodeBool b := by
  cases b <;> decide

theorem return_not_mem_encodeNull : '\r' ∉ encodeNull := by
  decide

theorem Native.return_not_mem_encodeFile (ds : List Declaration) :
    '\r' ∉ (Native.encodeFile ds).toList := by
  have hconstant : ∀ c, '\r' ∉ Native.encodeConstant c := by
    rintro (s | n | b | _)
    · exact return_not_mem_quoted s
    · exact n.return_not_mem
    · exact return_not_mem_encodeBool b
    · exact return_not_mem_encodeNull
  have hname : ∀ a : Argument, '\r' ∉ a.name.toList :=
    fun a h => absurd (isNameChar_of_mem a.identifier h) (by decide)
  have hargument : ∀ a, '\r' ∉ encodeArgument a := by
    intro a
    simp [encodeArgument, hname a, hconstant a.value]
  have hdeclaration : ∀ d, '\r' ∉ encodeDeclaration d := by
    intro d
    simp [encodeDeclaration, return_not_mem_quoted, hargument]
  rw [encodeFile, String.toList_ofList, List.mem_flatMap]
  rintro ⟨d, -, hd⟩
  exact hdeclaration d hd

theorem Json.mem_separated {c : Char} {items : List (List Char)} (h : c ∈ separated items) :
    c = ',' ∨ ∃ item ∈ items, c ∈ item := by
  fun_induction separated items with
  | case1 => cases h
  | case2 item => exact .inr ⟨item, by simp, h⟩
  | case3 item items _ ih =>
    rcases List.mem_append.1 h with h | h
    · exact .inr ⟨item, by simp, h⟩
    · rcases List.mem_cons.1 h with h | h
      · exact .inl h
      · exact (ih h).imp_right fun ⟨item', hitem', hc⟩ => ⟨item', by simp [hitem'], hc⟩

namespace Json

/-! Each way of putting values together adds punctuation only. -/

theorem return_not_mem_separated {items : List (List Char)} (h : ∀ item ∈ items, '\r' ∉ item) :
    '\r' ∉ separated items := by
  intro hmem
  rcases mem_separated hmem with hcomma | ⟨item, hitem, hmem⟩
  · cases hcomma
  · exact h item hitem hmem

theorem return_not_mem_encodeArray {items : List (List Char)} (h : ∀ item ∈ items, '\r' ∉ item) :
    '\r' ∉ encodeArray items := by
  simp [encodeArray, return_not_mem_separated h]

theorem return_not_mem_encodeObject {items : List (List Char)} (h : ∀ item ∈ items, '\r' ∉ item) :
    '\r' ∉ encodeObject items := by
  simp [encodeObject, return_not_mem_separated h]

theorem return_not_mem_encodeMember (key : String) {value : List Char} (h : '\r' ∉ value) :
    '\r' ∉ encodeMember key value := by
  simp [encodeMember, return_not_mem_encode, h]

theorem return_not_mem_singleton (key : String) {value : List Char} (h : '\r' ∉ value) :
    '\r' ∉ encodeObject [encodeMember key value] :=
  return_not_mem_encodeObject (by simpa using return_not_mem_encodeMember key h)

theorem return_not_mem_encodeFile (ds : List Declaration) : '\r' ∉ (encodeFile ds).toList := by
  have hconstant : ∀ c, '\r' ∉ Json.encodeConstant c := by
    rintro (s | n | b | _)
    · exact return_not_mem_encode _
    · exact n.return_not_mem
    · exact return_not_mem_encodeBool b
    · exact return_not_mem_encodeNull
  have hdeclaration : ∀ d, '\r' ∉ encodeDeclaration d := by
    intro d
    refine return_not_mem_singleton d.type (return_not_mem_singleton d.name
      (return_not_mem_encodeObject fun item hitem => ?_))
    obtain ⟨a, -, rfl⟩ := List.mem_map.1 hitem
    exact return_not_mem_encodeMember a.name (hconstant a.value)
  rw [encodeFile, String.toList_ofList]
  refine return_not_mem_singleton "resource" (return_not_mem_encodeArray fun item hitem => ?_)
  obtain ⟨d, -, rfl⟩ := List.mem_map.1 hitem
  exact hdeclaration d

end Json

/-! ## Files on a disk -/

/-- The module of the directory is one file, which holds the text. -/
structure Disk.HoldsFile (d : Disk) (directory path text : String) : Prop where
  /-- The directory is there. -/
  isDirectory : d.isDirectory directory = true
  /-- The file is its only configuration file. -/
  configFiles : Module.configFiles d directory = [path]
  /-- The file holds the text. -/
  read : d.read path = .ok text.toUTF8

/-- The module of the directory is one file, which declares the resources unless a number is out of
range. -/
structure Disk.HoldsDeclarations (d : Disk) (directory path : String) (ds : List Declaration) :
    Prop where
  /-- The directory is there. -/
  isDirectory : d.isDirectory directory = true
  /-- The file is its only configuration file. -/
  configFiles : Module.configFiles d directory = [path]
  /-- The file declares the resources. -/
  drafted : Drafted (ds.all Declaration.withinLimits) (Body.Declares ds) (d.readConfig path)

/-- A file with a text is read as the text says in the notation of its name. -/
theorem Disk.readConfig_of_read {d : Disk} {path text : String}
    (h : d.read path = .ok text.toUTF8) (hreturn : '\r' ∉ text.toList) :
    d.readConfig path = parseConfig path text := by
  have htext : d.readText path = .ok text := by
    simp only [readText, h, Encoding.decode_toUTF8 hreturn]
  simp only [readConfig, h, htext]

namespace Disk.HoldsFile

variable {d : Disk} {directory path text : String} {ds : List Declaration}

theorem readConfig_eq (h : d.HoldsFile directory path text) (hreturn : '\r' ∉ text.toList) :
    d.readConfig path = parseConfig path text :=
  readConfig_of_read h.read hreturn

theorem native (h : d.HoldsFile directory path (Native.encodeFile ds))
    (hpath : FileName.notationOf path = .native) : d.HoldsDeclarations directory path ds := by
  refine ⟨h.isDirectory, h.configFiles, ?_⟩
  rw [h.readConfig_eq (Native.return_not_mem_encodeFile ds), parseConfig, hpath]
  exact Native.drafted_declares path ds

theorem json (h : d.HoldsFile directory path (Json.encodeFile ds))
    (hpath : FileName.notationOf path = .json) : d.HoldsDeclarations directory path ds := by
  refine ⟨h.isDirectory, h.configFiles, ?_⟩
  rw [h.readConfig_eq (Json.return_not_mem_encodeFile ds), parseConfig, hpath]
  exact Json.drafted_declares path ds

end Disk.HoldsFile

end ResourceTables
