import Mathlib.Data.List.Basic
import ResourceTables.Proofs.Inventory.Contributions

/-!
# Ways to the blocks of a JSON body

A way through a JSON value is written as numbers: which of its objects, which member of this object,
which of the objects of the member's value, and so on. Ways are compared from their first number on,
so that one comes before another exactly if what it leads to is written earlier. A value that blocks
are looked for in has to be an object or an array of objects, and so have the values of the members
that stand for labels. Nothing else can go wrong.

* `ListedBy`: a list has what each way leads to, in the order of the ways;
* `JsonNode.LeadsTo`: the ways through a value, one further key for each label;
* `JsonNode.listedBy_blocks`: the blocks below a value are what its ways lead to;
* `JsonNode.IsObjects`, `JsonNode.Meets`, `JsonNode.Fits`: what the values on the way have to be;
* `Body.exists_jsonBlocks_iff`: the blocks below a value are found exactly if all of them are;
* `Body.partialContent_single`: a body and one block type.
-/

namespace ResourceTables

/-- The list has one element for each way that leads somewhere, in the order of the ways. -/
def ListedBy (P : List Nat → α → Prop) (as : List α) : Prop :=
  ∃ ways : List (List Nat × α), ways.map Prod.snd = as ∧
    (ways.map Prod.fst).Pairwise (· < ·) ∧ ∀ way a, (way, a) ∈ ways ↔ P way a

namespace ListedBy

variable {P Q : List Nat → α → Prop} {as : List α}

theorem congr (h : ListedBy P as) (hiff : ∀ way a, P way a ↔ Q way a) : ListedBy Q as := by
  obtain ⟨ways, hsnd, hsorted, hways⟩ := h
  exact ⟨ways, hsnd, hsorted, fun way a => (hways way a).trans (hiff way a)⟩

theorem nil (h : ∀ way a, ¬ P way a) : ListedBy P [] :=
  ⟨[], rfl, .nil, fun way a => by simp [h way a]⟩

theorem singleton (a : α) : ListedBy (fun way b => way = [] ∧ b = a) [a] :=
  ⟨[([], a)], rfl, List.pairwise_singleton _ _, fun way b => by simp [Prod.ext_iff]⟩

/-- The elements are those that some way leads to. -/
theorem mem_iff (h : ListedBy P as) {a : α} : a ∈ as ↔ ∃ way, P way a := by
  obtain ⟨ways, rfl, -, hways⟩ := h
  simp only [← hways, List.mem_map, Prod.exists, exists_eq_right]

/-- The lists of several things one after the other are listed by the ways that begin with the
number of one of them. -/
theorem flatMap {P : β → List Nat → α → Prop} {f : β → List α} {bs : List β}
    (h : ∀ b ∈ bs, ListedBy (P b) (f b)) :
    ListedBy (fun way a => ∃ i b way', bs[i]? = some b ∧ way = i :: way' ∧ P b way' a)
      (bs.flatMap f) := by
  -- The numbers go up along the list, so they are counted from an arbitrary one.
  have hfrom : ∀ start, ∃ ways : List (List Nat × α), ways.map Prod.snd = bs.flatMap f ∧
      (ways.map Prod.fst).Pairwise (· < ·) ∧ ∀ way a, (way, a) ∈ ways ↔
        ∃ i b way', bs[i]? = some b ∧ way = (start + i) :: way' ∧ P b way' a := by
    induction bs with
    | nil => exact fun start => ⟨[], rfl, .nil, by simp⟩
    | cons b bs ih =>
      intro start
      obtain ⟨ways, hsnd, hsorted, hways⟩ := h b (by simp)
      obtain ⟨rest, hsnd', hsorted', hrest⟩ := ih (fun b hb => h b (by simp [hb])) (start + 1)
      refine ⟨ways.map (fun way => (start :: way.1, way.2)) ++ rest, ?_, ?_, fun way a => ?_⟩
      · simp [hsnd', ← hsnd]
      · rw [List.map_append, List.pairwise_append]
        refine ⟨?_, hsorted', ?_⟩
        · rw [List.map_map, List.pairwise_map]
          rw [List.pairwise_map] at hsorted
          exact hsorted.imp fun hlt => List.cons_lt_cons_iff.2 (.inr ⟨rfl, hlt⟩)
        · intro way hway way' hway'
          simp only [List.mem_map] at hway hway'
          obtain ⟨_, ⟨first, -, rfl⟩, rfl⟩ := hway
          obtain ⟨⟨_, a⟩, hmem, rfl⟩ := hway'
          obtain ⟨i, b', way', -, rfl, -⟩ := (hrest _ a).1 hmem
          exact List.cons_lt_cons_iff.2 (.inl (by omega))
      · rw [List.mem_append, hrest]
        constructor
        · rintro (hmem | ⟨i, b', way', hb', rfl, hway'⟩)
          · obtain ⟨⟨way', _⟩, hfirst, hpair⟩ := List.mem_map.1 hmem
            cases hpair
            exact ⟨0, b, way', rfl, rfl, (hways _ _).1 hfirst⟩
          · exact ⟨i + 1, b', way', hb', by rw [Nat.add_right_comm, Nat.add_assoc], hway'⟩
        · rintro ⟨i, b', way', hb', rfl, hway'⟩
          cases i with
          | zero =>
            cases hb'
            exact .inl (List.mem_map.2 ⟨(way', a), (hways _ _).2 hway', rfl⟩)
          | succ i =>
            exact .inr ⟨i, b', way', hb', by rw [Nat.add_right_comm, Nat.add_assoc], hway'⟩
  obtain ⟨ways, hsnd, hsorted, hways⟩ := hfrom 0
  exact ⟨ways, hsnd, hsorted, fun way a => by simpa using hways way a⟩

/-- Of those that are left out no way leads anywhere. -/
theorem flatMap_filter {P : β → List Nat → α → Prop} {f : β → List α} {bs : List β}
    {keep : β → Bool} (h : ∀ b ∈ bs, keep b = true → ListedBy (P b) (f b)) :
    ListedBy (fun way a => ∃ i b way', bs[i]? = some b ∧ keep b = true ∧ way = i :: way' ∧
      P b way' a) ((bs.filter keep).flatMap f) := by
  -- What is left out gives no blocks, but it is counted on the way.
  have hflatMap : (bs.filter keep).flatMap f = bs.flatMap fun b => if keep b then f b else [] := by
    induction bs with
    | nil => rfl
    | cons b bs ih =>
      have hrest := ih fun b hb => h b (by simp [hb])
      by_cases hb : keep b <;> simp [hb, hrest]
  have hkept : ∀ b ∈ bs, ListedBy (fun way a => keep b = true ∧ P b way a)
      (if keep b then f b else []) := by
    intro b hmem
    by_cases hb : keep b
    · rw [if_pos hb]
      exact (h b hmem hb).congr fun way a => by simp [hb]
    · rw [if_neg hb]
      exact .nil fun way a hway => hb hway.1
  rw [hflatMap]
  refine (flatMap hkept).congr fun way a => ?_
  constructor
  · rintro ⟨i, b, way', hi, hway, hb, hP⟩
    exact ⟨i, b, way', hi, hb, hway, hP⟩
  · rintro ⟨i, b, way', hi, hb, hway, hP⟩
    exact ⟨i, b, way', hi, hway, hb, hP⟩

end ListedBy

namespace JsonNode

/-- The way leads from a value, which stands behind a key at the given place, through a further key
for each of the labels to the object: at each value through one of its objects, and at each object
through one of its members that is no comment. The last place is that of the last key. -/
inductive LeadsTo : Pos → JsonNode → List Nat → List String → Pos → Origin → List JsonPair → Prop
  | here {pos node i o pairs} (hobject : node.objects[i]? = some (o, pairs)) :
    LeadsTo pos node [i] [] pos o pairs
  | further {pos node i o pairs j p way labels pos' o' inner}
      (hobject : node.objects[i]? = some (o, pairs)) (hmember : pairs[j]? = some p)
      (hcomment : p.isComment = false)
      (hrest : LeadsTo p.pos p.value way labels pos' o' inner) :
    LeadsTo pos node (i :: j :: way) (p.key :: labels) pos' o' inner

/-- The way leads to a block with the labels already found and as many more as are missing. -/
def LeadsToBlock (type : String) (missing : Nat) (found : List String) (pos : Pos) (node : JsonNode)
    (way : List Nat) (b : Block) : Prop :=
  ∃ labels pos' o inner, labels.length = missing ∧ LeadsTo pos node way labels pos' o inner ∧
    b = ⟨type, found ++ labels, .json o inner, pos'⟩

variable {type : String} {found : List String} {pos : Pos} {node : JsonNode} {way : List Nat}
  {b : Block}

theorem leadsToBlock_zero_iff :
    LeadsToBlock type 0 found pos node way b ↔
      ∃ i object way', node.objects[i]? = some object ∧ way = i :: way' ∧ way' = [] ∧
        b = ⟨type, found, .json object.1 object.2, pos⟩ := by
  constructor
  · rintro ⟨labels, pos', o, inner, hlength, hway, rfl⟩
    obtain rfl := List.length_eq_zero_iff.1 hlength
    cases hway with
    | here hobject => exact ⟨_, _, [], hobject, rfl, rfl, by rw [List.append_nil]⟩
  · rintro ⟨i, object, _, hobject, rfl, rfl, rfl⟩
    exact ⟨[], pos, _, _, rfl, .here hobject, by rw [List.append_nil]⟩

theorem leadsToBlock_succ_iff {missing : Nat} :
    LeadsToBlock type (missing + 1) found pos node way b ↔
      ∃ i object way', node.objects[i]? = some object ∧ way = i :: way' ∧
        ∃ j p way'', object.2[j]? = some p ∧ (!p.isComment) = true ∧ way' = j :: way'' ∧
          LeadsToBlock type missing (found ++ [p.key]) p.pos p.value way'' b := by
  constructor
  · rintro ⟨labels, pos', o, inner, hlength, hway, rfl⟩
    cases hway with
    | here => cases hlength
    | further hobject hmember hcomment hrest =>
      refine ⟨_, _, _, hobject, rfl, _, _, _, hmember, by simp [hcomment], rfl, ?_⟩
      exact ⟨_, _, _, _, Nat.succ.inj hlength, hrest, by simp⟩
  · rintro ⟨i, object, _, hobject, rfl, j, p, way'', hmember, hcomment, rfl, labels, pos', o, inner,
      hlength, hway, rfl⟩
    refine ⟨p.key :: labels, pos', o, inner, by rw [List.length_cons, hlength], ?_, by simp⟩
    exact .further hobject hmember (by simpa using hcomment) hway

/-- The blocks below a value are those that its ways lead to, in the order of the ways. -/
theorem listedBy_blocks (missing : Nat) (found : List String) (pos : Pos) (node : JsonNode) :
    ListedBy (LeadsToBlock type missing found pos node) (node.blocks type missing found pos) := by
  induction missing generalizing found pos node with
  | zero =>
    rw [blocks, List.map_eq_flatMap]
    refine (ListedBy.flatMap fun object _ => .singleton _).congr fun way b => ?_
    exact leadsToBlock_zero_iff.symm
  | succ missing ih =>
    rw [blocks]
    refine (ListedBy.flatMap fun object _ => ListedBy.flatMap_filter fun p _ _ =>
      ih (found ++ [p.key]) p.pos p.value).congr fun way b => ?_
    exact leadsToBlock_succ_iff.symm

end JsonNode

/-! ## Values on the way -/

namespace JsonNode

/-- The value is an object or an array of objects. -/
def IsObjects : JsonNode → Prop
  | .object _ _ => True
  | .array _ items => ∀ item ∈ items, ∃ o pairs, item = .object o pairs
  | .scalar _ _ => False

/-- The value is met on the ways through another one that take at most the given number of further
keys. -/
inductive Meets : Nat → JsonNode → JsonNode → Prop
  | here {n node} : Meets n node node
  | further {n node object p v} (hobject : object ∈ node.objects) (hmember : p ∈ object.2)
      (hcomment : p.isComment = false) (hrest : Meets n p.value v) : Meets (n + 1) node v

/-- All values on the way are made of objects. -/
def Fits (n : Nat) (node : JsonNode) : Prop :=
  ∀ v, node.Meets n v → v.IsObjects

variable {node : JsonNode}

theorem fits_zero_iff : node.Fits 0 ↔ node.IsObjects := by
  constructor
  · exact fun h => h node .here
  · rintro h _ (_ | _)
    exact h

theorem fits_succ_iff {n : Nat} :
    node.Fits (n + 1) ↔ node.IsObjects ∧ ∀ object ∈ node.objects,
      ∀ p ∈ object.2.filter (!·.isComment), p.value.Fits n := by
  constructor
  · refine fun h => ⟨h node .here, fun object hobject p hp v hv => ?_⟩
    obtain ⟨hmember, hcomment⟩ := List.mem_filter.1 hp
    exact h v (.further hobject hmember (by simpa using hcomment) hv)
  · rintro ⟨hnode, hbelow⟩ v hv
    cases hv with
    | here => exact hnode
    | further hobject hmember hcomment hrest =>
      exact hbelow _ hobject _ (List.mem_filter.2 ⟨hmember, by simp [hcomment]⟩) v hrest

end JsonNode

namespace Body

variable {type : String}

/-- A value is taken apart into objects exactly if it is made of them. -/
theorem forall_objectsOf_iff {cause : DecodeCause} {node : JsonNode}
    {P : Origin × List JsonPair → Prop} :
    (∀ x ∈ objectsOf cause node, ∃ object, x = .ok object ∧ P object) ↔
      node.IsObjects ∧ ∀ object ∈ node.objects, P object := by
  cases node with
  | scalar o value => simp [objectsOf, JsonNode.IsObjects]
  | object o pairs => simp [objectsOf, JsonNode.IsObjects, JsonNode.objects]
  | array o items =>
    rw [objectsOf, JsonNode.IsObjects, JsonNode.objects]
    induction items with
    | nil => simp
    | cons item items ih =>
      rw [List.map_cons, List.forall_mem_cons, List.forall_mem_cons, ih, List.filterMap_cons]
      cases item with
      | scalar | array => simp
      | object o pairs => simp [and_left_comm]

/-- The blocks below a value are found exactly if all values on the way are made of objects. -/
theorem exists_jsonBlocks_iff (labels found : List String) (pos : Pos) (node : JsonNode) :
    (∃ bs, jsonBlocks type labels found pos node = .ok bs) ↔ node.Fits labels.length := by
  induction labels generalizing found pos node with
  | nil =>
    rw [jsonBlocks, exists_mapM_iff, List.length_nil, JsonNode.fits_zero_iff]
    simp only [exists_bind_iff]
    rw [forall_objectsOf_iff]
    exact ⟨And.left, fun h => ⟨h, fun object _ => ⟨_, rfl⟩⟩⟩
  | cons label labels ih =>
    rw [jsonBlocks, exists_flatten_mapM_iff, List.length_cons, JsonNode.fits_succ_iff]
    simp only [exists_bind_iff]
    rw [forall_objectsOf_iff]
    refine and_congr_right fun _ => forall₂_congr fun object _ => ?_
    rw [← exists_bind_iff]
    exact exists_flatten_mapM_iff.trans
      (forall₂_congr fun p _ => ih (found ++ [p.key]) p.pos p.value)

theorem delivers_of_mem_objectsOf_fault {cause : DecodeCause} {node : JsonNode}
    {object : Except ContentError (Origin × List JsonPair)} (h : object ∈ objectsOf cause node) :
    Delivers (fun _ => True) (fun e => ∃ fault, e = .decode fault) object := by
  cases node with
  | scalar =>
    obtain rfl := List.mem_singleton.1 h
    exact .error ⟨_, rfl⟩
  | object =>
    obtain rfl := List.mem_singleton.1 h
    exact .ok trivial
  | array =>
    obtain ⟨item, -, rfl⟩ := List.mem_map.1 h
    cases item with
    | object => exact .ok trivial
    | scalar | array => exact .error ⟨_, rfl⟩

/-- Nothing else is wrong with the blocks below a value than that they do not fit. -/
theorem delivers_jsonBlocks_fault (labels found : List String) (pos : Pos) (node : JsonNode) :
    Delivers (fun bs => ∀ b ∈ bs, True) (fun e => ∃ fault, e = .decode fault)
      (jsonBlocks type labels found pos node) := by
  induction labels generalizing found pos node with
  | nil =>
    rw [jsonBlocks]
    refine (Delivers.mapM fun object hobject => ?_).mono fun _ h => h.2
    exact .bind (delivers_of_mem_objectsOf_fault hobject) fun _ _ => .ok trivial
  | cons label labels ih =>
    rw [jsonBlocks]
    refine .flatten fun object hobject => ?_
    refine .bind (delivers_of_mem_objectsOf_fault hobject) fun object _ => ?_
    exact .flatten fun p _ => ih (found ++ [p.key]) p.pos p.value

/-! ## A body and one block type -/

variable {o : Origin} {pairs : List JsonPair} {labels : List String}

/-- The schema of one block type. -/
def single (type : String) (labels : List String) : BodySchema :=
  ⟨[], [⟨type, labels⟩]⟩

/-- The member is one that blocks of the type are looked for in. -/
def holdsBlocks (type : String) (p : JsonPair) : Bool :=
  !p.isComment && p.key == type

/-- The blocks of the type in the members, one member after the other. -/
def blocksIn (type : String) (labels : List String) (pairs : List JsonPair) :
    Except ContentError (List Block) := do
  let groups ← (pairs.filter (holdsBlocks type)).mapM fun p =>
    jsonBlocks type labels [] p.pos p.value
  return groups.flatten

theorem addPair_single (c : Content) (p : JsonPair) :
    addPair (single type labels) c p =
      if holdsBlocks type p then (jsonBlocks type labels [] p.pos p.value).map c.addBlocks
      else .ok c := by
  unfold addPair holdsBlocks
  cases p.isComment with
  | true => rfl
  | false =>
    by_cases hkey : p.key = type
    · simp [single, BodySchema.block?, hkey]
    · simp [single, BodySchema.block?, hkey, Ne.symm hkey]

theorem foldlM_addPair_single (c : Content) :
    pairs.foldlM (addPair (single type labels)) c =
      (blocksIn type labels pairs).map c.addBlocks := by
  unfold blocksIn
  induction pairs generalizing c with
  | nil => simp [Content.addBlocks, Except.map, bind, Except.bind, pure, Except.pure]
  | cons p pairs ih =>
    rw [List.foldlM_cons, addPair_single, List.filter_cons]
    split
    · rw [List.mapM_cons]
      cases jsonBlocks type labels [] p.pos p.value with
      | error e => rfl
      | ok bs =>
        refine (ih (c.addBlocks bs)).trans ?_
        cases (pairs.filter (holdsBlocks type)).mapM fun p =>
            jsonBlocks type labels [] p.pos p.value with
        | error e => rfl
        | ok groups => simp [Content.addBlocks, Except.map, bind, Except.bind, pure, Except.pure]
    · exact ih c

/-- What is found of one block type is its blocks in the members, and no arguments. -/
theorem partialContent_single :
    (Body.json o pairs).partialContent (single type labels) =
      (blocksIn type labels pairs).map fun bs => ⟨[], bs⟩ :=
  foldlM_addPair_single {}

/-- The blocks of the type are found exactly if all values on the way are made of objects. -/
theorem exists_blocksIn_iff :
    (∃ bs, blocksIn type labels pairs = .ok bs) ↔
      ∀ p ∈ pairs.filter (holdsBlocks type), p.value.Fits labels.length := by
  refine exists_flatten_mapM_iff.trans ?_
  simp only [exists_jsonBlocks_iff]

theorem failsWith_blocksIn :
    FailsWith (fun e => ∃ fault, e = .decode fault) (blocksIn type labels pairs) := by
  have hdelivers : Delivers (fun bs => ∀ b ∈ bs, True) (fun e => ∃ fault, e = .decode fault)
      (blocksIn type labels pairs) :=
    .flatten fun p _ => delivers_jsonBlocks_fault labels [] p.pos p.value
  exact hdelivers.failsWith

/-- They are those of the tree. -/
theorem ensures_blocksIn :
    Ensures (· = (pairs.filter (holdsBlocks type)).flatMap fun p : JsonPair =>
      p.value.blocks type labels.length [] p.pos) (blocksIn type labels pairs) :=
  ensures_flatten_mapM (fun p : JsonPair => ensures_jsonBlocks_eq labels [] p.pos p.value) _

end Body

end ResourceTables
