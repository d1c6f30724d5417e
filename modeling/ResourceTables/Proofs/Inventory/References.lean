import Mathlib.Data.List.TakeWhile
import ResourceTables.Inventory.Load
import ResourceTables.Proofs.Inventory.Contributions
import ResourceTables.Proofs.Positions.Files
import ResourceTables.Proofs.Sources.Attributes
import ResourceTables.Proofs.Sources.Lengths
import ResourceTables.Proofs.Writing.Formulas

/-!
# References to providers

A resource can name its provider: by a local name, or by a local name and an alias behind a point.
The argument that does so is a traversal, or a text that writes one. In a file traversals are made of
names: a native file has been read that way, and of JSON no traversals are read but those in the
interpolations of texts.

* `IsName`: a letter or an underscore, and behind it letters, digits, underscores and hyphens;
* `Expr.Refers`: the expression is the traversal of a reference, or a text without interpolations
  that is a reference and nothing else;
* `Expr.Frays`: the expression is a text that is no reference, because a newline stands behind a
  name or nothing stands behind the point, and is taken for one all the same;
* `ProviderRef.passes_iff_of_not_frayed`: a text that does not fray is taken for a reference exactly
  if it is one;
* `Expr.Spelled`, `Body.Spelled`: traversals are made of names;
* `Module.providerOf_eq_ok_iff`: such an argument names a provider exactly if its expression refers
  to one or is a text that frays;
* `Disk.ensures_readConfig_spelled`, `Body.spelled_of_mem_blocks`: so it is in files and in blocks;
* `Body.ensures_partialContent_spelled`: and with the arguments that a schema finds in a body.
-/

namespace ResourceTables

/-- The characters are a name. -/
def IsName (cs : List Char) : Prop :=
  ∃ c more, cs = c :: more ∧ Native.isNameStart c = true ∧ ∀ d ∈ more, Native.isNameChar d = true

namespace IsName

variable {cs rest : List Char}

theorem isNameChar_of_mem (h : IsName cs) : ∀ c ∈ cs, Native.isNameChar c = true := by
  obtain ⟨c, more, rfl, hc, hmore⟩ := h
  refine List.forall_mem_cons.2 ⟨?_, hmore⟩
  simp [Native.isNameChar, hc]

/-- A character that is none of a name does not occur in one. -/
theorem not_mem (h : IsName cs) {c : Char} (hc : Native.isNameChar c = false) : c ∉ cs := by
  intro hmem
  rw [h.isNameChar_of_mem c hmem] at hc
  cases hc

theorem ne_nil (h : IsName cs) : cs ≠ [] := by
  obtain ⟨c, more, rfl, -⟩ := h
  simp

/-- The name at the start of a text reaches as far as its characters. -/
theorem nameLength_append (h : IsName cs)
    (hrest : ∀ c, rest.head? = some c → Native.isNameChar c = false) :
    Native.nameLength (cs ++ rest) = cs.length := by
  obtain ⟨c, more, rfl, hc, hmore⟩ := h
  rw [List.cons_append, Native.nameLength, if_pos hc,
    Native.countWhile_eq_of_stop hmore hrest, List.length_cons]

theorem nameLength_eq (h : IsName cs) : Native.nameLength cs = cs.length := by
  have hnone : ∀ c, ([] : List Char).head? = some c → Native.isNameChar c = false := by simp
  simpa using h.nameLength_append hnone

/-- The name as it is read. -/
theorem exists_identifier (h : IsName cs) : ∃ n : Native.Identifier, n.chars = cs :=
  ⟨⟨cs, h.ne_nil, h.nameLength_eq⟩, rfl⟩

end IsName

/-- What the name at the start of a text takes is a name, if there is one. -/
theorem isName_take_nameLength {cs : List Char} (h : Native.nameLength cs ≠ 0) :
    IsName (cs.take (Native.nameLength cs)) := by
  cases cs with
  | nil => exact absurd rfl h
  | cons c rest =>
    rw [Native.nameLength] at h ⊢
    split at h
    · next hc =>
      rw [if_pos hc, List.take_succ_cons]
      refine ⟨c, _, rfl, hc, ?_⟩
      exact fun d hd => Native.mem_take_countWhile hd
    · exact absurd rfl h

/-- A name is what is read as one to its end. -/
theorem isName_iff {cs : List Char} : IsName cs ↔ cs ≠ [] ∧ Native.nameLength cs = cs.length := by
  refine ⟨fun h => ⟨h.ne_nil, h.nameLength_eq⟩, ?_⟩
  rintro ⟨hne, hwhole⟩
  have hpos : Native.nameLength cs ≠ 0 := by rwa [hwhole, ne_eq, List.length_eq_zero_iff]
  have hname := isName_take_nameLength hpos
  rwa [hwhole, List.take_length] at hname

instance : DecidablePred IsName :=
  fun _ => decidable_of_iff _ isName_iff.symm

/-- What is read as a name is one. -/
theorem Native.Identifier.isName (n : Native.Identifier) : IsName n.chars :=
  isName_iff.2 ⟨n.ne_nil, n.whole⟩

theorem Native.Identifier.isName_text (n : Native.Identifier) : IsName n.text.toList := by
  rw [Native.Identifier.text, String.toList_ofList]
  exact n.isName

/-! ## Texts -/

namespace ProviderRef

/-- A name, perhaps with a newline behind it. -/
def NameOrLine (cs : List Char) : Prop :=
  IsName cs ∨ ∃ n, IsName n ∧ cs = n ++ ['\n']

/-- The reference as it is written. -/
def chars (ref : ProviderRef) : List Char :=
  ref.name.toList ++ match ref.tag with
    | some tag => '.' :: tag.toList
    | none => []

/-- The local name and the alias are names. -/
structure Proper (ref : ProviderRef) : Prop where
  /-- The local name is. -/
  name : IsName ref.name.toList
  /-- The alias is, if there is one. -/
  tag : ∀ tag, ref.tag = some tag → IsName tag.toList

/-- The text is taken for the reference. -/
inductive Passes : List Char → ProviderRef → Prop
  /-- A name alone. -/
  | name {n : List Char} (h : NameOrLine n) : Passes n ⟨String.ofList n, none⟩
  /-- A name and a point, which is overlooked. -/
  | point {n : List Char} (h : NameOrLine n) : Passes (n ++ ['.']) ⟨String.ofList n, none⟩
  /-- A name, a point and an alias. -/
  | tag {n a : List Char} (h : NameOrLine n) (h' : NameOrLine a) :
    Passes (n ++ '.' :: a) ⟨String.ofList n, some (String.ofList a)⟩

/-- There is a newline in the text, or a point stands at its end. -/
def Frayed (cs : List Char) : Prop :=
  '\n' ∈ cs ∨ cs.getLast? = some '.'

variable {cs : List Char} {ref : ProviderRef}

theorem NameOrLine.point_not_mem (h : NameOrLine cs) : '.' ∉ cs := by
  rcases h with h | ⟨n, h, rfl⟩
  · exact h.not_mem rfl
  · simp [h.not_mem (c := '.') rfl]

theorem NameOrLine.ne_nil (h : NameOrLine cs) : cs ≠ [] := by
  rcases h with h | ⟨n, h, rfl⟩
  · exact h.ne_nil
  · simp

theorem NameOrLine.isName (h : NameOrLine cs) (hline : '\n' ∉ cs) : IsName cs := by
  rcases h with h | ⟨n, -, rfl⟩
  · exact h
  · simp at hline

theorem isIdentifier_iff : Module.isIdentifier cs = true ↔ NameOrLine cs := by
  rw [Module.isIdentifier, Bool.and_eq_true, Bool.or_eq_true, bne_iff_ne, beq_iff_eq, beq_iff_eq]
  constructor
  · rintro ⟨hpos, hrest⟩
    have hname := isName_take_nameLength hpos
    rcases hrest with hlength | hline
    · rw [← hlength, List.take_length] at hname
      exact .inl hname
    · refine .inr ⟨_, hname, ?_⟩
      rw [← hline, List.take_append_drop]
  · rintro (h | ⟨n, h, rfl⟩)
    · rw [h.nameLength_eq]
      exact ⟨by simpa using h.ne_nil, .inl rfl⟩
    · rw [h.nameLength_append (by rintro _ ⟨⟩; rfl)]
      exact ⟨by simpa using h.ne_nil, .inr List.drop_left⟩

/-- A text without a point can only be a name. -/
theorem providerOfText?_of_not_mem {s : String} (h : '.' ∉ s.toList) :
    Module.providerOfText? s =
      if Module.isIdentifier s.toList then some ⟨s, none⟩ else none := by
  have hall : ∀ c ∈ s.toList, (c != '.') = true := fun c hc => bne_iff_ne.2 fun heq => h (heq ▸ hc)
  have hname : s.toList.takeWhile (· != '.') = s.toList := List.takeWhile_eq_self_iff.2 hall
  have htag : s.toList.dropWhile (· != '.') = [] := List.dropWhile_eq_nil_iff.2 hall
  simp [Module.providerOfText?, hname, htag]

/-- Of a text with a point the first one counts. -/
theorem providerOfText?_of_append {s : String} {n a : List Char} (hs : s.toList = n ++ '.' :: a)
    (h : '.' ∉ n) :
    Module.providerOfText? s =
      if Module.isIdentifier n && (a.isEmpty || Module.isIdentifier a) then
        some ⟨String.ofList n, if a.isEmpty then none else some (String.ofList a)⟩
      else none := by
  have hall : ∀ c ∈ n, (c != '.') = true := fun c hc => bne_iff_ne.2 fun heq => h (heq ▸ hc)
  have hname : s.toList.takeWhile (· != '.') = n := by
    rw [hs, List.takeWhile_append_of_pos hall]
    simp
  have htag : s.toList.dropWhile (· != '.') = '.' :: a := by
    rw [hs, List.dropWhile_append_of_pos hall]
    simp
  simp only [Module.providerOfText?, hname, htag, List.drop_succ_cons, List.drop_zero]

theorem passes_of_providerOfText? {s : String} (h : Module.providerOfText? s = some ref) :
    Passes s.toList ref := by
  -- The text is divided at its first point, if it has one.
  by_cases hpoint : '.' ∈ s.toList
  · obtain ⟨n, a, hs, hn⟩ := List.eq_append_cons_of_mem hpoint
    rw [providerOfText?_of_append hs hn] at h
    simp only [Option.ite_none_right_eq_some, Bool.and_eq_true, Bool.or_eq_true, isIdentifier_iff,
      List.isEmpty_iff, Option.some.injEq] at h
    obtain ⟨⟨hname, rfl | htag⟩, rfl⟩ := h
    · exact hs ▸ .point hname
    · rw [if_neg htag.ne_nil, hs]
      exact .tag hname htag
  · rw [providerOfText?_of_not_mem hpoint] at h
    simp only [Option.ite_none_right_eq_some, isIdentifier_iff, Option.some.injEq] at h
    obtain ⟨hname, rfl⟩ := h
    have hpasses := Passes.name hname
    rwa [String.ofList_toList] at hpasses

theorem providerOfText?_of_passes (h : Passes cs ref) :
    Module.providerOfText? (String.ofList cs) = some ref := by
  cases h with
  | name h =>
    rw [providerOfText?_of_not_mem (by simpa using h.point_not_mem), String.toList_ofList,
      if_pos (isIdentifier_iff.2 h)]
  | point h =>
    rw [providerOfText?_of_append String.toList_ofList h.point_not_mem, isIdentifier_iff.2 h]
    rfl
  | tag h h' =>
    rw [providerOfText?_of_append String.toList_ofList h.point_not_mem, isIdentifier_iff.2 h,
      isIdentifier_iff.2 h']
    simp [h'.ne_nil]

/-- A text is taken for a reference exactly if it passes for one. -/
theorem providerOfText?_eq_some_iff {s : String} :
    Module.providerOfText? s = some ref ↔ Passes s.toList ref := by
  refine ⟨passes_of_providerOfText?, fun h => ?_⟩
  have hread := providerOfText?_of_passes h
  rwa [String.ofList_toList] at hread

/-- A reference that is made of names passes for itself. -/
theorem Proper.passes (h : ref.Proper) : Passes ref.chars ref := by
  obtain ⟨name, tag⟩ := ref
  cases tag with
  | none =>
    have hpasses := Passes.name (.inl h.name)
    rw [String.ofList_toList] at hpasses
    simpa [chars] using hpasses
  | some tag =>
    have hpasses := Passes.tag (.inl h.name) (.inl (h.tag tag rfl))
    rw [String.ofList_toList, String.ofList_toList] at hpasses
    exact hpasses

theorem Proper.not_frayed (h : ref.Proper) : ¬ Frayed ref.chars := by
  obtain ⟨name, tag⟩ := ref
  have hline : '\n' ∉ name.toList := h.name.not_mem rfl
  cases tag with
  | none =>
    rintro (hmem | hlast)
    · simp [chars, hline] at hmem
    · have hmem := List.mem_of_getLast? hlast
      simp only [chars, List.append_nil] at hmem
      exact h.name.not_mem rfl hmem
  | some tag =>
    have htag : IsName tag.toList := h.tag tag rfl
    rintro (hmem | hlast)
    · have hline' : '\n' ∉ tag.toList := htag.not_mem rfl
      simp [chars, hline, hline'] at hmem
    · -- What ends the text ends the alias.
      have hcons : name.toList ++ '.' :: tag.toList = (name.toList ++ ['.']) ++ tag.toList := by
        simp
      simp only [chars, hcons] at hlast
      rw [List.getLast?_append_of_ne_nil _ htag.ne_nil] at hlast
      exact htag.not_mem rfl (List.mem_of_getLast? hlast)

/-- A text that does not fray passes for a reference exactly if it is one that is made of names. -/
theorem passes_iff_of_not_frayed (hfrayed : ¬ Frayed cs) :
    Passes cs ref ↔ ref.Proper ∧ cs = ref.chars := by
  obtain ⟨hline, hpoint⟩ := not_or.1 hfrayed
  constructor
  · rintro (h | h | ⟨h, h'⟩)
    · exact ⟨⟨by simpa using h.isName hline, nofun⟩, by simp [chars]⟩
    · simp at hpoint
    · simp only [List.mem_append, List.mem_cons, not_or] at hline
      refine ⟨⟨by simpa using h.isName hline.1, ?_⟩, by simp [chars]⟩
      rintro _ ⟨⟩
      simpa using h'.isName hline.2.2
  · rintro ⟨hproper, rfl⟩
    exact hproper.passes

end ProviderRef

/-! ## Expressions -/

/-- The expression is the traversal of the reference, or a text that is the reference and nothing
else. -/
inductive Expr.Refers : Expr → ProviderRef → Prop
  /-- A name. -/
  | name {o : Origin} {n : String} (h : IsName n.toList) : Refers (.variable o n) ⟨n, none⟩
  /-- A name with an alias. -/
  | tag {o o' : Origin} {n a : String} (h : IsName n.toList) (h' : IsName a.toList) :
    Refers (.getAttr o (.variable o' n) a) ⟨n, some a⟩
  /-- A text without interpolations. -/
  | text {o : Origin} {parts : List Part} {ref : ProviderRef}
    (h : Part.literal? parts = some (String.ofList ref.chars)) (hproper : ref.Proper) :
    Refers (.template o parts) ref

/-- The expression is a text that is no reference but is taken for one, as a newline behind a name
and a point at the end are overlooked. -/
inductive Expr.Frays : Expr → ProviderRef → Prop
  | text {o : Origin} {parts : List Part} {cs : List Char} {ref : ProviderRef}
    (h : Part.literal? parts = some (String.ofList cs)) (hpasses : ref.Passes cs)
    (hfrayed : ProviderRef.Frayed cs) : Frays (.template o parts) ref

/-- Whatever is referred to is made of names. -/
theorem Expr.Refers.proper {e : Expr} {ref : ProviderRef} (h : e.Refers ref) : ref.Proper := by
  cases h with
  | name h => exact ⟨h, nofun⟩
  | tag h h' =>
    refine ⟨h, ?_⟩
    rintro _ ⟨⟩
    exact h'
  | text _ hproper => exact hproper

/-- A text that frays is no reference to anything. -/
theorem Expr.Frays.not_refers {e : Expr} {ref ref' : ProviderRef} (h : e.Frays ref) :
    ¬ e.Refers ref' := by
  obtain ⟨h, -, hfrayed⟩ := h
  intro hrefers
  cases hrefers with
  | text h' hproper =>
    rw [h, Option.some.injEq, String.ofList_inj] at h'
    exact hproper.not_frayed (h' ▸ hfrayed)

/-- The names in a traversal are names. -/
def Expr.Spelled : Expr → Prop
  | .variable _ n => IsName n.toList
  | .getAttr _ (.variable _ n) a => IsName n.toList ∧ IsName a.toList
  | _ => True

namespace Module

variable {e : Expr} {a : Attribute} {ref : ProviderRef}

theorem providerOfExpr?_of_refers (h : e.Refers ref) : providerOfExpr? e = some ref := by
  cases h with
  | name | tag => rfl
  | text h hproper =>
    rw [providerOfExpr?, h, Option.bind_some]
    exact ProviderRef.providerOfText?_of_passes hproper.passes

/-- What an expression with proper names is taken for. -/
theorem providerOfExpr?_eq_some_iff (he : e.Spelled) :
    providerOfExpr? e = some ref ↔ e.Refers ref ∨ e.Frays ref := by
  constructor
  · intro h
    unfold providerOfExpr? at h
    split at h
    · cases h
      exact .inl (.name he)
    · cases h
      exact .inl (.tag he.1 he.2)
    · obtain ⟨s, hs, href⟩ := Option.bind_eq_some_iff.1 h
      have hpasses := ProviderRef.passes_of_providerOfText? href
      rw [← String.ofList_toList (s := s)] at hs
      -- A text that passes and does not fray is made of the names that it passes for.
      by_cases hfrayed : ProviderRef.Frayed s.toList
      · exact .inr (.text hs hpasses hfrayed)
      · obtain ⟨hproper, hchars⟩ := (ProviderRef.passes_iff_of_not_frayed hfrayed).1 hpasses
        exact .inl (.text (hchars ▸ hs) hproper)
    · cases h
  · rintro (h | ⟨h, hpasses, -⟩)
    · exact providerOfExpr?_of_refers h
    · rw [providerOfExpr?, h, Option.bind_some]
      exact ProviderRef.providerOfText?_of_passes hpasses

theorem providerOf_of_refers (h : a.expr.Refers ref) : providerOf a = .ok ref := by
  rw [providerOf, providerOfExpr?_of_refers h]

/-- An argument names a provider exactly if its expression refers to one or is a text that frays. -/
theorem providerOf_eq_ok_iff (ha : a.expr.Spelled) :
    providerOf a = .ok ref ↔ a.expr.Refers ref ∨ a.expr.Frays ref := by
  rw [← providerOfExpr?_eq_some_iff ha, providerOf]
  cases providerOfExpr? a.expr <;> simp

/-- Any other argument is refused with its source. -/
theorem providerOf_eq_error_iff (ha : a.expr.Spelled) {err : LoadError} :
    providerOf a = .error err ↔ err = .providerReference a.pos a.expr.source ∧
      ∀ ref, ¬ a.expr.Refers ref ∧ ¬ a.expr.Frays ref := by
  have hnone : (∀ ref, ¬ a.expr.Refers ref ∧ ¬ a.expr.Frays ref) ↔
      providerOfExpr? a.expr = none := by
    simp only [Option.eq_none_iff_forall_ne_some, ne_eq, providerOfExpr?_eq_some_iff ha, not_or]
  rw [hnone, providerOf]
  cases providerOfExpr? a.expr <;> simp [eq_comm]

end Module

/-! ## Arguments in files -/

/-- The traversals among the attributes are made of names, at any depth of blocks. -/
def Body.Spelled : Body → Prop
  | .native items => ∀ item ∈ items, item.Each (·.expr.Spelled)
  | .json _ _ => True

/-- The traversals among the arguments are made of names. -/
def Content.Spelled (content : Content) : Prop :=
  ∀ a ∈ content.attributes, a.expr.Spelled

theorem Expr.Stands.isName {text : List Char} {o : Origin} {n : String}
    (h : (Expr.variable o n).Stands text) : IsName n.toList := by
  obtain ⟨i, rfl⟩ := h.named
  exact i.isName_text

/-- An expression that stands in its place with all its parts is made of names. -/
theorem Expr.Each.spelled {text : List Char} {e : Expr} (h : e.Each (Expr.Stands text)) :
    e.Spelled := by
  -- Only a name, and a name with another one behind a point, are looked at as traversals.
  cases h with
  | «variable» h => exact h.isName
  | getAttr h htarget =>
    cases htarget with
    | «variable» htarget =>
      obtain ⟨i, rfl⟩ := h.named
      exact ⟨htarget.isName, i.isName_text⟩
    | _ => trivial
  | _ => trivial

theorem Item.Stands.each_spelled {text : List Char} {item : Item} (h : item.Stands text) :
    item.Each (·.expr.Spelled) := by
  induction h with
  | «attribute» _ hexpr => exact .attribute hexpr.spelled
  | block _ _ ih => exact .block ih

theorem ensures_parseConfig_spelled (path text : String) :
    Ensures Body.Spelled (parseConfig path text) := by
  unfold parseConfig
  split
  · refine .bind .trivial fun node _ => ?_
    split
    · exact .ok trivial
    · exact .error
  · refine (Native.ensures_parse_stands path text).mono ?_
    rintro _ ⟨items, rfl, hitems⟩
    exact fun item hitem => (hitems item hitem).each_spelled

/-- The traversals in a file are made of names. -/
theorem Disk.ensures_readConfig_spelled (d : Disk) (path : String) :
    Ensures Body.Spelled (d.readConfig path) :=
  d.ensures_readConfig_of (ensures_parseConfig_spelled path)

/-! ## Blocks -/

namespace JsonNode

/-- The bodies of the blocks below a JSON value are JSON. -/
theorem spelled_of_mem_blocks {type : String} {missing : Nat} {found : List String} {pos : Pos}
    {node : JsonNode} {b : Block} (hb : b ∈ node.blocks type missing found pos) :
    b.body.Spelled := by
  induction missing generalizing found pos node with
  | zero =>
    obtain ⟨_, -, rfl⟩ := List.mem_map.1 hb
    trivial
  | succ missing ih =>
    obtain ⟨_, -, hb⟩ := List.mem_flatMap.1 hb
    obtain ⟨_, -, hb⟩ := List.mem_flatMap.1 hb
    exact ih hb

end JsonNode

namespace Body

variable {body : Body} {schema : BodySchema} {content : Content}

/-- The bodies of the blocks in a body have no other traversals than it has. -/
theorem spelled_of_mem_blocks (h : body.Spelled) {type : String} {labels : Nat} {b : Block}
    (hb : b ∈ body.blocks type labels) : b.body.Spelled := by
  cases body with
  | native items =>
    obtain ⟨item, hitem, hblock⟩ := List.mem_filterMap.1 hb
    cases h item hitem with
    | «attribute» => cases hblock
    | block hitems =>
      rw [Item.block?, Option.ite_none_right_eq_some, Option.some.injEq] at hblock
      obtain ⟨-, rfl⟩ := hblock
      exact hitems
  | json o pairs =>
    obtain ⟨p, -, hb⟩ := List.mem_flatMap.1 hb
    exact JsonNode.spelled_of_mem_blocks hb

theorem spelled_addAttribute (h : content.Spelled) {a : Attribute} (ha : a.expr.Spelled) :
    (content.addAttribute a).Spelled := by
  simp only [Content.Spelled, Content.addAttribute, List.forall_mem_append, List.forall_mem_cons]
  exact ⟨h, ha, nofun⟩

theorem ensures_addItem_spelled (h : content.Spelled) {item : Item}
    (hitem : item.Each (·.expr.Spelled)) :
    Ensures Content.Spelled (addItem schema content item) := by
  intro content' hadded
  cases addItem_eq_ok_iff.1 hadded with
  | «attribute» =>
    cases hitem with
    | «attribute» ha => exact spelled_addAttribute h ha
  | otherAttribute | block | otherBlock => exact h

/-- A JSON value is no traversal. -/
theorem ensures_expr_spelled (node : JsonNode) : Ensures Expr.Spelled (Json.expr node) := by
  unfold Json.expr
  split
  · unfold Json.scalarExpr
    split
    · exact .ok trivial
    · exact .ok trivial
    · exact .ok trivial
    · exact .map .trivial fun _ _ => trivial
  · exact .map .trivial fun _ _ => trivial
  · exact .map .trivial fun _ _ => trivial

theorem ensures_memberAttribute_spelled (p : JsonPair) :
    Ensures (fun a => a.expr.Spelled) (memberAttribute p) := by
  unfold memberAttribute
  split
  · next e he => exact .ok (ensures_expr_spelled p.value e he)
  · exact .error

theorem ensures_addPair_spelled (h : content.Spelled) (p : JsonPair) :
    Ensures Content.Spelled (addPair schema content p) := by
  intro content' hadded
  cases addPair_eq_ok_iff.1 hadded with
  | «attribute» _ _ _ read => exact spelled_addAttribute h (ensures_memberAttribute_spelled p _ read)
  | comment | blocks | other => exact h

/-- What a schema finds in a body has no other traversals than the body. -/
theorem ensures_partialContent_spelled (h : body.Spelled) :
    Ensures Content.Spelled (body.partialContent schema) := by
  have hnone : Content.Spelled {} := by simp [Content.Spelled]
  cases body with
  | native items =>
    exact .foldlM (fun _ found item hitem => ensures_addItem_spelled found (h item hitem)) hnone
  | json o pairs => exact .foldlM (fun _ found p _ => ensures_addPair_spelled found p) hnone

end Body

namespace Module

/-- A resource in the files of a directory has no traversals that are not made of names. -/
theorem spelled_of_mem_writtenResources {d : Disk} {directory : String} {b : Block}
    (hb : b ∈ writtenResources d directory) : b.body.Spelled := by
  obtain ⟨path, -, hb⟩ := List.mem_flatMap.1 hb
  split at hb
  · next body hbody =>
    exact Body.spelled_of_mem_blocks (d.ensures_readConfig_spelled path body hbody) hb
  · cases hb

end Module

end ResourceTables
