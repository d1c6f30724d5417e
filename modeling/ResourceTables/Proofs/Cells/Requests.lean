import Mathlib.Data.List.Induction
import ResourceTables.Proofs.Ensures
import ResourceTables.Proofs.Inventory.Contributions
import ResourceTables.Proofs.Knownness.Evaluate
import ResourceTables.Proofs.Layout.Evaluation

/-!
# Cells that are asked for together

The cells of a resource are made one by one. So a request for several attributes is answered as the
requests for each of them are, and the cell of an attribute depends on nothing but the attribute's
own expression.

* `Body.HasAttribute`: a body sets an attribute, whatever else it holds and whatever is asked of it;
* `Body.ensures_setAttributes`: what a schema finds in a body are the attributes of its names that
  the body sets;
* `Resource.collectCells_cases`: cells are collected until one cannot be made;
* `Resource.exists_decode`, `Resource.exists_failing`: requests that are answered, and others;
* `Resource.cell_eq`: two attributes with one expression have one cell;
* `Resource.resolve_each`: requests for several attributes, and two answers side by side.
-/

namespace ResourceTables

/-! ## Attributes of a body -/

theorem Content.addBlocks_nil (c : Content) : c.addBlocks [] = c := by
  simp [addBlocks]

/-- The body sets the attribute: it is an item of a native body, or a member of a JSON body that is
no comment. -/
inductive Body.HasAttribute : Body → Attribute → Prop
  | native {items : List Item} {a : Attribute} (h : .attribute a ∈ items) :
      HasAttribute (.native items) a
  | json {o : Origin} {pairs : List JsonPair} {p : JsonPair} {e : Expr} (h : p ∈ pairs)
      (hcomment : p.isComment = false) (he : Json.expr p.value = .ok e) :
      HasAttribute (.json o pairs) ⟨p.key, e, p.pos⟩

namespace Body

variable {schema : BodySchema} {c : Content}

/-- What a schema finds: attributes that it names, among them each of these that is set. -/
structure SetAttributes (schema : BodySchema) (sets : Attribute → Prop) (c : Content) : Prop where
  /-- The schema names what is found. -/
  named : ∀ a ∈ c.attributes, schema.attributes.contains a.name = true
  /-- Each attribute that is set and named is found by its name. -/
  found : ∀ a, sets a → schema.attributes.contains a.name = true → c.attribute? a.name = some a

namespace SetAttributes

variable {sets sets' : Attribute → Prop} {a : Attribute}

/-- Nothing is found of what the schema does not name. -/
theorem skip (h : SetAttributes schema sets c)
    (hsets : ∀ x, sets' x → sets x ∨ schema.attributes.contains x.name = false)
    (bs : List Block) : SetAttributes schema sets' (c.addBlocks bs) where
  named := h.named
  found := by
    intro x hx hnamed
    rcases hsets x hx with hx | hnot
    · exact h.found x hx hnamed
    · rw [hnamed] at hnot
      cases hnot

/-- One more attribute of a name that is not there yet leaves the others where they are. -/
theorem add (h : SetAttributes schema sets c) (hsets : ∀ x, sets' x → sets x ∨ x = a)
    (hnamed : schema.attributes.contains a.name = true) (hnew : c.attribute? a.name = none) :
    SetAttributes schema sets' (c.addAttribute a) where
  named := by
    intro x hx
    rcases List.mem_append.1 hx with hx | hx
    · exact h.named x hx
    · rw [List.mem_singleton.1 hx]
      exact hnamed
  found := by
    have hfind : ∀ name, (c.addAttribute a).attribute? name =
        (c.attribute? name).or ([a].find? (·.name == name)) := fun name => List.find?_append
    intro x hx hx'
    rw [hfind]
    rcases hsets x hx with hx | rfl
    · rw [h.found x hx hx', Option.some_or]
    · rw [hnew, Option.none_or]
      simp

/-- Taking in an item of a native body keeps what is found in step with what is set. -/
theorem ensures_addItem {taken : List Item}
    (h : SetAttributes schema (HasAttribute (.native taken)) c) (item : Item) :
    Ensures (SetAttributes schema (HasAttribute (.native (taken ++ [item]))))
      (addItem schema c item) := by
  -- What the longer body sets, the shorter one did, or it is the new item.
  have hsets : ∀ x, HasAttribute (.native (taken ++ [item])) x →
      HasAttribute (.native taken) x ∨ item = .attribute x := by
    rintro x ⟨hx⟩
    rcases List.mem_append.1 hx with hx | hx
    · exact .inl (.native hx)
    · exact .inr (List.mem_singleton.1 hx).symm
  intro c' hadded
  cases addItem_eq_ok_iff.1 hadded with
  | «attribute» named new =>
    exact h.add (fun x hx => (hsets x hx).imp_right fun heq => (Item.attribute.inj heq).symm)
      named new
  | otherAttribute unnamed =>
    rw [← c.addBlocks_nil]
    refine h.skip (fun x hx => (hsets x hx).imp_right fun heq => ?_) []
    rwa [← Item.attribute.inj heq]
  | block => exact h.skip (fun x hx => .inl ((hsets x hx).resolve_right nofun)) _
  | otherBlock =>
    rw [← c.addBlocks_nil]
    exact h.skip (fun x hx => .inl ((hsets x hx).resolve_right nofun)) []

/-- So does taking in a member of a JSON body. -/
theorem ensures_addPair {o : Origin} {taken : List JsonPair}
    (h : SetAttributes schema (HasAttribute (.json o taken)) c) (p : JsonPair) :
    Ensures (SetAttributes schema (HasAttribute (.json o (taken ++ [p]))))
      (addPair schema c p) := by
  have hsets : ∀ x, HasAttribute (.json o (taken ++ [p])) x → HasAttribute (.json o taken) x ∨
      p.isComment = false ∧ ∃ e, Json.expr p.value = .ok e ∧ x = ⟨p.key, e, p.pos⟩ := by
    rintro x (_ | ⟨hmem, hcomment, he⟩)
    rcases List.mem_append.1 hmem with hmem | hmem
    · exact .inl (.json hmem hcomment he)
    · obtain rfl := List.mem_singleton.1 hmem
      exact .inr ⟨hcomment, _, he, rfl⟩
  -- A comment, or a member that the schema does not name, sets nothing that is asked for.
  have hskip : p.isComment = true ∨ schema.attributes.contains p.key = false → ∀ bs,
      SetAttributes schema (HasAttribute (.json o (taken ++ [p]))) (c.addBlocks bs) := by
    intro hp
    refine h.skip fun x hx => (hsets x hx).imp_right ?_
    rintro ⟨hcomment, e, -, rfl⟩
    exact hp.resolve_left (by simp [hcomment])
  intro c' hadded
  cases addPair_eq_ok_iff.1 hadded with
  | comment comment => exact c.addBlocks_nil ▸ hskip (.inl comment) []
  | «attribute» _ named new read =>
    unfold memberAttribute at read
    split at read
    · next e he =>
      cases read
      refine h.add (fun x hx => (hsets x hx).imp_right ?_) named new
      rintro ⟨-, e', he', rfl⟩
      rw [Except.ok.inj (he.symm.trans he')]
    · cases read
  | blocks _ noArgument => exact hskip (.inr noArgument) _
  | other _ noArgument => exact c.addBlocks_nil ▸ hskip (.inr noArgument) []

end SetAttributes

/-- The attributes that a schema finds in a body are those of its names that the body sets. -/
theorem ensures_setAttributes (body : Body) :
    Ensures (SetAttributes schema body.HasAttribute) (body.partialContent schema) := by
  cases body with
  | native items =>
    exact .foldlM_taken (I := fun taken => SetAttributes schema (HasAttribute (.native taken)))
      (fun taken c item _ h => h.ensures_addItem item) ⟨nofun, by rintro a ⟨⟨⟩⟩⟩
  | json o pairs =>
    exact .foldlM_taken (I := fun taken => SetAttributes schema (HasAttribute (.json o taken)))
      (fun taken c p _ h => h.ensures_addPair p) ⟨nofun, by rintro a (_ | ⟨⟨⟩, -, -⟩)⟩

end Body

namespace Resource

/-! ## One cell after the other -/

section Collecting

variable {f : String → Except ε Cell} {names : List String} {cells : List (String × Cell)}

/-- The cells of the names as `f` makes them, in the order of the names. -/
def collectCells (f : String → Except ε Cell) (names : List String) :
    Except ε (List (String × Cell)) :=
  names.foldlM (fun cells name => do return setCell cells name (← f name)) []

/-- These are the cells of some names, in the order in which the names occur first. -/
structure CellsOf (f : String → Except ε Cell) (names : List String)
    (cells : List (String × Cell)) : Prop where
  /-- Each name has one cell. -/
  names : cells.map (·.1) = names.eraseDups
  /-- It is the one that is made for the name. -/
  made : ∀ p ∈ cells, f p.1 = .ok p.2

theorem CellsOf.exists_cell (h : CellsOf f names cells) {name : String} (hname : name ∈ names) :
    ∃ cell, f name = .ok cell ∧ (name, cell) ∈ cells := by
  rw [← List.mem_eraseDups, ← h.names] at hname
  obtain ⟨p, hp, rfl⟩ := List.mem_map.1 hname
  exact ⟨p.2, h.made p hp, hp⟩

theorem CellsOf.lookup_eq (h : CellsOf f names cells) {name : String} {cell : Cell}
    (hname : name ∈ names) (hcell : f name = .ok cell) : cells.lookup name = some cell := by
  obtain ⟨_, -, hmem⟩ := h.exists_cell hname
  cases hlookup : cells.lookup name with
  | none =>
    have hnot := List.lookup_eq_none_iff.1 hlookup _ hmem
    simp at hnot
  | some found =>
    obtain ⟨before, after, rfl, -⟩ := List.lookup_eq_some_iff.1 hlookup
    have hfound := h.made (name, found) (by simp)
    rw [hcell] at hfound
    exact congrArg some (Except.ok.inj hfound).symm

/-- A cell that is made once more is the one that is there already. -/
theorem CellsOf.setCell (h : CellsOf f names cells) {name : String} {cell : Cell}
    (hcell : f name = .ok cell) : CellsOf f (names ++ [name]) (setCell cells name cell) := by
  have hmem : name ∈ names ↔ cells.any (·.1 == name) = true := by
    rw [← List.mem_eraseDups, ← h.names]
    simp
  unfold Resource.setCell
  split
  · next hany =>
    -- The cell in place was made for the same name, so it is this one.
    have hsame : ∀ p ∈ cells, (p.1, if p.1 == name then cell else p.2) = p := by
      intro p hp
      split
      · next heq =>
        have hp := h.made p hp
        rw [beq_iff_eq.1 heq, hcell] at hp
        rw [Except.ok.inj hp]
      · rfl
    rw [List.map_congr_left hsame, List.map_id']
    refine ⟨?_, h.made⟩
    rw [h.names, List.eraseDups_append]
    simp [List.removeAll, hmem.2 hany]
  · next hnot =>
    refine ⟨?_, fun p hp => ?_⟩
    · have hnew : name ∉ names := fun hname => hnot (hmem.1 hname)
      rw [List.map_append, h.names, List.eraseDups_append]
      simp [List.removeAll, hnew, List.eraseDups_cons]
    · rcases List.mem_append.1 hp with hp | hp
      · exact h.made p hp
      · rw [List.mem_singleton.1 hp]
        exact hcell

/-- Either each name has a cell and all are collected, or there is a first name that has none. -/
theorem collectCells_cases (f : String → Except ε Cell) (names : List String) :
    (∃ cells, collectCells f names = .ok cells ∧ CellsOf f names cells) ∨
      ∃ before name after e, names = before ++ name :: after ∧
        (∀ n ∈ before, ∃ cell, f n = .ok cell) ∧ f name = .error e ∧
        collectCells f names = .error e := by
  -- The induction takes names away at the end, as the cells are added there.
  induction names using List.reverseRecOn with
  | nil => exact .inl ⟨[], rfl, rfl, nofun⟩
  | append_singleton names name ih =>
    have hstep : collectCells f (names ++ [name]) = do
        return setCell (← collectCells f names) name (← f name) := by
      rw [collectCells, List.foldlM_append]
      refine congrArg _ (funext fun cells => ?_)
      rw [List.foldlM_cons]
      cases f name <;> rfl
    rcases ih with ⟨cells, hcells, hall⟩ | ⟨before, n, after, e, rfl, hbefore, hn, he⟩
    · rw [hstep, hcells]
      cases hcell : f name with
      | ok cell => exact .inl ⟨_, rfl, hall.setCell hcell⟩
      | error e =>
        refine .inr ⟨names, name, [], e, rfl, fun n hn => ?_, hcell, rfl⟩
        obtain ⟨cell, hcell, -⟩ := hall.exists_cell hn
        exact ⟨cell, hcell⟩
    · rw [hstep, he]
      exact .inr ⟨before, n, after ++ [name], e, by simp, hbefore, hn, rfl⟩

end Collecting

/-! ## Requests -/

section Requests

variable {r r' : Resource} {b b' : Block} {registry registry' : Registry}
  {required required' : List (String × RequiredProvider)} {names names' : List String}
  {cells cells' : List (String × Cell)} {name : String}

/-- The schema of the resource's type, and what it finds in the block. -/
def decode (r : Resource) (b : Block) (registry : Registry)
    (required : List (String × RequiredProvider)) :
    Except ResolveError (ResourceSchema × Content) := do
  let schema ← r.typeSchema registry required
  match b.body.partialContent ⟨schema.attributes.map (·.1), []⟩ with
  | .error (.decode e) => throw (.decodeBlock e)
  | .error (.read e) => throw (.read e)
  | .ok content => return (schema, content)

/-- The block is decoded before any cell is made. -/
theorem resolve_eq : r.resolve b names registry required =
    r.decode b registry required >>= fun decoded =>
      collectCells (resolveCell decoded.1 decoded.2) names := by
  unfold resolve decode
  cases r.typeSchema registry required with
  | error e => rfl
  | ok schema =>
    simp only [bind, Except.bind]
    cases b.body.partialContent ⟨schema.attributes.map (·.1), []⟩ with
    | error e => cases e <;> rfl
    | ok content => rfl

variable {schema : ResourceSchema} {content : Content}

/-- Once the block is decoded, the cells are made from what it holds. -/
theorem resolve_of_decode (h : r.decode b registry required = .ok (schema, content))
    (names : List String) :
    r.resolve b names registry required = collectCells (resolveCell schema content) names := by
  rw [resolve_eq, h]
  rfl

theorem resolve_singleton (h : r.decode b registry required = .ok (schema, content))
    (name : String) :
    r.resolve b [name] registry required =
      (resolveCell schema content name).map fun cell => [(name, cell)] := by
  rw [resolve_of_decode h, collectCells, List.foldlM_cons]
  cases resolveCell schema content name <;> rfl

/-- Cells of some names are what asking for each of them alone gives. -/
theorem resolve_singleton_of_mem (h : r.decode b registry required = .ok (schema, content))
    (hcells : CellsOf (resolveCell schema content) names cells) {p : String × Cell}
    (hp : p ∈ cells) : r.resolve b [p.1] registry required = .ok [p] := by
  rw [resolve_singleton h, hcells.made p hp]
  rfl

/-- A request that is answered has made a cell for each name. -/
theorem exists_decode (h : r.resolve b names registry required = .ok cells) :
    ∃ schema content, r.decode b registry required = .ok (schema, content) ∧
      CellsOf (resolveCell schema content) names cells := by
  rw [resolve_eq] at h
  obtain ⟨⟨schema, content⟩, hdecode, h⟩ := bind_eq_ok_iff.1 h
  obtain ⟨cells', hcells, hall⟩ | ⟨-, -, -, e, -, -, -, he⟩ :=
    collectCells_cases (resolveCell schema content) names
  · obtain rfl := Except.ok.inj (h.symm.trans hcells)
    exact ⟨schema, content, hdecode, hall⟩
  · rw [h] at he
    cases he

/-- A request that fails does so at the first name that asking for alone fails. -/
theorem exists_failing (hnames : names ≠ []) {e : ResolveError}
    (h : r.resolve b names registry required = .error e) :
    ∃ before name after, names = before ++ name :: after ∧
      (∀ n ∈ before, ∃ cells, r.resolve b [n] registry required = .ok cells) ∧
      r.resolve b [name] registry required = .error e := by
  cases hdecode : r.decode b registry required with
  | error e' =>
    -- Every request fails alike, so the first name is the first to fail.
    have hfails : ∀ names, r.resolve b names registry required = .error e' := by
      intro names
      rw [resolve_eq, hdecode]
      rfl
    obtain rfl := Except.error.inj (h.symm.trans (hfails names))
    obtain ⟨name, rest, rfl⟩ := List.exists_cons_of_ne_nil hnames
    exact ⟨[], name, rest, rfl, nofun, hfails _⟩
  | ok decoded =>
    obtain ⟨schema, content⟩ := decoded
    rw [resolve_of_decode hdecode] at h
    obtain ⟨cells, hcells, -⟩ | ⟨before, name, after, e', heq, hbefore, hname, he⟩ :=
      collectCells_cases (resolveCell schema content) names
    · rw [h] at hcells
      cases hcells
    · obtain rfl := Except.error.inj (h.symm.trans he)
      refine ⟨before, name, after, heq, fun n hn => ?_, ?_⟩
      · obtain ⟨cell, hcell⟩ := hbefore n hn
        rw [resolve_singleton hdecode, hcell]
        exact ⟨_, rfl⟩
      · rw [resolve_singleton hdecode, hname]
        rfl

/-- An attribute that has a cell is the one that the block sets. -/
theorem attribute?_eq {cell : Cell}
    (hdecode : r.decode b registry required = .ok (schema, content))
    (hcell : resolveCell schema content name = .ok cell) {a : Attribute}
    (ha : b.body.HasAttribute a) (hname : a.name = name) : content.attribute? name = some a := by
  obtain ⟨schema, hschema, hdecode⟩ := bind_eq_ok_iff.1 hdecode
  have hsets : Ensures (Body.SetAttributes ⟨schema.attributes.map (·.1), []⟩ b.body.HasAttribute)
      (b.body.partialContent ⟨schema.attributes.map (·.1), []⟩) := b.body.ensures_setAttributes
  split at hdecode
  · cases hdecode
  · cases hdecode
  · next content hcontent =>
    cases hdecode
    -- The name is one that the schema names, since something is found for it.
    cases hfound : content.attribute? name with
    | none =>
      rw [resolveCell, hfound] at hcell
      cases hcell
    | some x =>
      have hx : x.name = name := by simpa using List.find?_some hfound
      have hnamed := (hsets content hcontent).named x (List.mem_of_find?_eq_some hfound)
      rw [hx, ← hname] at hnamed
      rw [← hfound, ← hname]
      exact (hsets content hcontent).found a ha hnamed

/-- A value has the same cell at both attributes if these are written alike. -/
theorem cellOf_eq_ok_iff {a a' : Attribute} (hsource : a.expr.source = a'.expr.source) {v : Value}
    {cell : Cell} : cellOf a v = .ok cell ↔ cellOf a' v = .ok cell := by
  -- The places of the attributes only show in errors.
  unfold cellOf
  rw [hsource]
  split
  · simp
  · simp
  · cases v <;> simp

/-- Attributes with one expression have one cell, wherever the expression is written. -/
theorem cell_eq {schema' : ResourceSchema} {content' : Content} {a a' : Attribute}
    {cell cell' : Cell} (ha : content.attribute? name = some a)
    (ha' : content'.attribute? name = some a') (hexpr : a.expr.unplaced = a'.expr.unplaced)
    (hcell : resolveCell schema content name = .ok cell)
    (hcell' : resolveCell schema' content' name = .ok cell') : cell = cell' := by
  obtain ⟨v, hv, hvcell⟩ := resolveCell_eq_ok ha hcell
  obtain ⟨v', hv', hvcell'⟩ := resolveCell_eq_ok ha' hcell'
  have hsame := (a.expr.agree_evaluate_unplaced Scope.empty).eq_ok_iff.2 hv
  rw [hexpr, (a'.expr.agree_evaluate_unplaced Scope.empty).eq_ok_iff, hv'] at hsame
  obtain rfl := Except.ok.inj hsame
  have hsource : a.expr.source = a'.expr.source := by
    rw [← a.expr.source_unplaced, hexpr, a'.expr.source_unplaced]
  rw [cellOf_eq_ok_iff hsource, hvcell'] at hvcell
  exact (Except.ok.inj hvcell).symm

/-- A request gives the cells of its names in the order in which they occur first, each the one that
asking for the name alone gives; it fails if one of these requests fails, with the error of the
first. Two requests that succeed give one cell to a name whose attributes have the same expression,
whatever else is in the blocks, in the schemas and in the requests. -/
theorem resolve_each (r : Resource) (b : Block) (registry : Registry)
    (required : List (String × RequiredProvider)) {names : List String} (hnames : names ≠ []) :
    ((∃ cells, r.resolve b names registry required = .ok cells) ↔
        ∀ name ∈ names, ∃ cells, r.resolve b [name] registry required = .ok cells) ∧
      (∀ cells, r.resolve b names registry required = .ok cells →
        cells.map (·.1) = names.eraseDups ∧
          ∀ p ∈ cells, r.resolve b [p.1] registry required = .ok [p]) ∧
      (∀ e, r.resolve b names registry required = .error e →
        ∃ before name after, names = before ++ name :: after ∧
          (∀ n ∈ before, ∃ cells, r.resolve b [n] registry required = .ok cells) ∧
          r.resolve b [name] registry required = .error e) ∧
      ∀ (r' : Resource) (b' : Block) registry' required' names' cells cells',
        r.resolve b names registry required = .ok cells →
        r'.resolve b' names' registry' required' = .ok cells' →
        ∀ a a', b.body.HasAttribute a → b'.body.HasAttribute a' → a.name = a'.name →
          a.name ∈ names → a.name ∈ names' → a.expr.unplaced = a'.expr.unplaced →
          ∃ cell, cells.lookup a.name = some cell ∧ cells'.lookup a.name = some cell := by
  refine ⟨⟨?_, fun hall => ?_⟩, fun cells hok => ?_, fun e he => exists_failing hnames he, ?_⟩
  · rintro ⟨cells, hok⟩ name hname
    obtain ⟨schema, content, hdecode, hcells⟩ := exists_decode hok
    obtain ⟨cell, -, hmem⟩ := hcells.exists_cell hname
    exact ⟨_, resolve_singleton_of_mem hdecode hcells hmem⟩
  · cases hrequest : r.resolve b names registry required with
    | ok cells => exact ⟨cells, rfl⟩
    | error e =>
      obtain ⟨before, name, after, rfl, -, hname⟩ := exists_failing hnames hrequest
      obtain ⟨cells, hok⟩ := hall name (by simp)
      rw [hname] at hok
      cases hok
  · obtain ⟨schema, content, hdecode, hcells⟩ := exists_decode hok
    exact ⟨hcells.names, fun p hp => resolve_singleton_of_mem hdecode hcells hp⟩
  · intro r' b' registry' required' names' cells cells' hok hok' a a' ha ha' hname hmem hmem' hexpr
    obtain ⟨schema, content, hdecode, hcells⟩ := exists_decode hok
    obtain ⟨schema', content', hdecode', hcells'⟩ := exists_decode hok'
    obtain ⟨cell, hcell, -⟩ := hcells.exists_cell hmem
    obtain ⟨cell', hcell', -⟩ := hcells'.exists_cell hmem'
    -- Both cells are made from one expression, up to where it is written.
    obtain rfl := cell_eq (attribute?_eq hdecode hcell ha rfl)
      (attribute?_eq hdecode' hcell' ha' hname.symm) hexpr hcell hcell'
    exact ⟨cell, hcells.lookup_eq hmem hcell, hcells'.lookup_eq hmem' hcell'⟩

/-- A name that is asked for twice, in a block and in another one that sets it elsewhere. -/
theorem resolve_each_repeated :
    let zone (line : Nat) : Attribute :=
      ⟨"zone", .variable ⟨⟨"m.tf", line, 10⟩, "region"⟩ "region", ⟨"m.tf", line, 3⟩⟩
    let size : Attribute := ⟨"size", .literal default (.bool true), ⟨"m.tf", 3, 3⟩⟩
    let r : Resource := ⟨"t", "n", "m.tf", 1, ⟨"p", none⟩⟩
    let b : Block :=
      ⟨"resource", ["t", "n"], .native [.attribute (zone 2), .attribute size], default⟩
    let b' : Block := ⟨"resource", ["t", "m"], .native [.attribute (zone 7)], default⟩
    let schema : ProviderSchema := ⟨[("t", ⟨[("size", default), ("zone", default)]⟩)]⟩
    let registry : Registry := ⟨[(⟨"registry.terraform.io", "hashicorp", "p"⟩, schema)]⟩
    let required : List (String × RequiredProvider) := [("p", ⟨"hashicorp/p", none⟩)]
    let names := ["zone", "size", "zone"]
    let cells := [("zone", Cell.unknown (some "region")), ("size", .bool true)]
    let cells' := [("zone", Cell.unknown (some "region"))]
    r.resolve b names registry required = .ok cells ∧ cells.map (·.1) = names.eraseDups ∧
      r.resolve b ["zone"] registry required = .ok cells' ∧
      r.resolve b' ["zone"] registry required = .ok cells' ∧
      ∃ cell, cells.lookup "zone" = some cell ∧ cells'.lookup "zone" = some cell := by
  intro zone size r b b' schema registry required names cells cells'
  have hok : r.resolve b names registry required = .ok cells := by
    decide +kernel
  have hok' : r.resolve b' ["zone"] registry required = .ok cells' := by
    decide +kernel
  obtain ⟨-, hcells, -, hsame⟩ :=
    @resolve_each r b registry required names (List.cons_ne_nil _ _)
  obtain ⟨hnames, halone⟩ := hcells cells hok
  exact ⟨hok, hnames, halone _ (List.mem_cons_self ..), hok',
    hsame r b' registry required ["zone"] cells cells' hok hok' (zone 2) (zone 7)
      (.native (List.mem_cons_self ..)) (.native (List.mem_cons_self ..)) rfl
      (List.mem_cons_self ..) (List.mem_cons_self ..) rfl⟩

end Requests

end Resource

end ResourceTables
