import ResourceTables.Proofs.Encodings.Contents
import ResourceTables.Proofs.Inventory.References
import ResourceTables.Proofs.Writing.Heredocs

/-!
# Resources that name their providers

A resource with the argument that names its provider, as it is written in the two notations, and
what is read of it.

* `Native.valueText_name`, `Native.valueText_alias`: a name, and a name with an alias behind a
  point, are read as the traversals that they are;
* `Native.parse_resource`: the resource of a native file, whatever the value of the argument is;
* `Body.Holds`: a body holds nothing but one resource with a provider;
* `Written.holds_parseConfig`: a traversal, a text in quotes and a JSON string all hold the resource
  with the reference that they write.
-/

namespace ResourceTables

namespace Native

section Values

variable {first : Pos} {Q : Except ReadError Reader → Prop} {s : Newlines} {name : Token}
  {outer : List Frame} {m : Mark} {rest : List Char}

/-- What is read of a name that stands for no constant. -/
theorem expr_ofName (n : VariableName) {t : Token} (ht : t.text = n.text) :
    (Operand.ofName t).expr = .ok (.variable (t.start.originTo t.stop) n.text) := by
  obtain ⟨htrue, hfalse, hnull⟩ := n.not_constant
  simp only [Operand.ofName, ht]

/-- A name is read as the first operand of a value. -/
theorem Gives.variable (n : VariableName) (hm : m.rest = n.chars ++ rest) (hrest : EndsName rest)
    (h : ∀ t x m', Token.kind t = .name → x.expr = .ok (.variable (m.originTo t.stop) n.text) →
      m'.rest = rest → Gives .file first Q ⟨s.brackets, some t⟩
        ⟨some x, .attribute name :: outer⟩ m') :
    Gives .file first Q s ⟨none, .attribute name :: outer⟩ m := by
  refine .takePlain .name rfl hm n.ne_nil ?_ (fun _ => rfl) rfl fun m' hm' => ?_
  · rw [hm]
    exact firstToken?_name n.toIdentifier hrest rfl rfl rfl
  · exact h _ (.ofName (m.token .name n.chars.length)) m' rfl
      (expr_ofName n (Mark.text_token hm _)) hm'

theorem endsName_of_endsLine (h : EndsLine rest) : EndsName rest :=
  (endsFormula_of_endsLine h).name

/-- A name is a traversal. -/
theorem valueText_name (n : VariableName) :
    ValueText n.chars fun e => e.Refers ⟨n.text, none⟩ := by
  intro first Q s name outer rest m hrest hm hnext
  refine .variable n hm (endsName_of_endsLine hrest) fun t x m' ht hx hm' => ?_
  exact hnext x x _ _ t m' rfl hx (.name n.isName_text) (by simp [ht]) hm'

/-- So are a name and an alias behind a point. -/
theorem valueText_alias (n : VariableName) (a : Identifier) :
    ValueText (n.chars ++ '.' :: a.chars) fun e => e.Refers ⟨n.text, some a.text⟩ := by
  intro first Q s name outer rest m hrest hm hnext
  have hm₀ : m.rest = n.chars ++ ('.' :: (a.chars ++ rest)) := by
    rw [hm, List.append_assoc, List.cons_append]
  -- One point only, so it is not taken for an ellipsis.
  have hpoint : ∀ c, (a.chars ++ rest).head? = some c → c ≠ '.' := by
    rintro c hc rfl
    cases a.isNameStart_head _ hc
  refine .variable n hm₀ (endsName_cons rfl rfl (by decide) (by decide))
    fun t x m₁ ht hx hm₁ => ?_
  have hm₁' : m₁.rest = ['.'] ++ (a.chars ++ rest) := hm₁
  have hdot : Reader.feed ⟨some x, .attribute name :: outer⟩ (.ok []) (m₁.token .dot 1) =
      Reader.inside (.access x :: .attribute name :: outer) := by
    rw [Reader.feed]
    exact Reader.feedAfter_dot rfl (by simp)
  refine .takePlain .dot rfl hm₁' (by simp) ?_ (by rintro ⟨⟩) hdot fun m₂ hm₂ => ?_
  · rw [hm₁]
    exact firstToken?_dot hpoint
  refine .takePlain .name rfl hm₂ a.ne_nil ?_ (fun _ => rfl) rfl fun m₃ hm₃ => ?_
  · rw [hm₂]
    exact firstToken?_name a (endsName_of_endsLine hrest) rfl rfl rfl
  have htext : (m₂.token .name a.chars.length).text = a.text := Mark.text_token hm₂ _
  have hexpr : (x.getAttr (m₂.token .name a.chars.length)).expr =
      .ok (.getAttr (x.start.originTo (m₂.token .name a.chars.length).stop)
        (.variable (m.originTo t.stop) n.text) a.text) := by
    simp only [Operand.getAttr, hx, htext]
    rfl
  exact hnext _ _ _ _ _ m₃ rfl hexpr (.tag n.isName_text a.isName_text) (by simp [Mark.token]) hm₃

end Values

/-- The expression of a text in quotes is the text. -/
theorem valueText_literal (s : String) :
    ValueText (quoted s) fun e => ∃ o parts, e = .template o parts ∧
      ResourceTables.Part.literal? parts = some s := by
  intro first Q state name outer rest m _ hm hnext
  refine .quoted hm (fun _ => rfl) rfl fun x o m₀ m' hx hm' => ?_
  exact hnext x x _ _ _ m' rfl hx ⟨o, _, rfl, Part.literal?_addText s⟩ (by simp [Mark.token]) hm'

/-- The argument that names the provider, on a line of its own. -/
def providerLine (value : List Char) : List Char :=
  List.replicate 2 ' ' ++ 'p' :: (['r', 'o', 'v', 'i', 'd', 'e', 'r'] ++
    (Gap.blank.chars ++ ('=' :: (Gap.blank.chars ++ (value ++ ['\n'])))))

/-- The argument becomes an item of the block. -/
theorem Gives.providerLine {first : Pos} {Q : Except ReadError Reader → Prop} {type t : Token}
    {labels : List Label} {outer : List Frame} {m : Mark} {value rest : List Char}
    {P : Expr → Prop} (h : ValueText value P)
    (hblank : ∀ rest c, (value ++ '\n' :: rest).head? = some c → isBlankChar c = false)
    (hm : m.rest = Native.providerLine value ++ rest)
    (hnext : ∀ e pos t m', P e → Token.kind t = .newline → m'.rest = rest →
      Gives .file first Q ⟨[.block], some t⟩
        ⟨none, .block type labels [.ok (.attribute ⟨"provider", e, pos⟩)] :: outer⟩ m') :
    Gives .file first Q ⟨[.block], some t⟩ ⟨none, .block type labels [] :: outer⟩ m := by
  -- Two spaces, the name of the argument, the sign between two more spaces, and the value.
  have hm₁ : m.rest = List.replicate 2 ' ' ++ 'p' :: (['r', 'o', 'v', 'i', 'd', 'e', 'r'] ++
      (Gap.blank.chars ++ ('=' :: (Gap.blank.chars ++ (value ++ '\n' :: rest))))) := by
    rw [hm]
    simp [Native.providerLine]
  refine .blanks 1 hm₁ rfl rfl rfl fun m₂ hm₂ => ?_
  have hm₂' : m₂.rest = ['p', 'r', 'o', 'v', 'i', 'd', 'e', 'r'] ++
      (Gap.blank.chars ++ (['='] ++ (Gap.blank.chars ++ (value ++ '\n' :: rest)))) := hm₂
  refine .takePlain .name rfl hm₂' (by simp) ?_ (fun _ => rfl) rfl fun m₃ hm₃ => ?_
  · rw [hm₂']
    rfl
  refine .gap .blank hm₃ (by rintro _ ⟨⟩; rfl) rfl rfl fun m₄ hm₄ => ?_
  refine .takePlain .equal rfl hm₄ (by simp) ?_ (by rintro ⟨⟩) rfl fun m₅ hm₅ => ?_
  · rw [hm₄]
    rfl
  refine .gap .blank hm₅ (hblank _) rfl rfl fun m₆ hm₆ => ?_
  refine h _ _ _ _ _ _ m₆ (by rintro _ ⟨⟩; rfl) hm₆ fun x y e frames t m₇ hsettle he hP ht
    hm₇ => ?_
  refine .newline hm₇ (endsItem_block ht) (fun _ => rfl)
    ((feed_newline_attribute hsettle he rfl).trans rfl) fun t m₈ ht hm₈ => ?_
  have htext : (m₂.token .name 8).text = "provider" := Mark.text_token hm₂' .name
  have hitem := hnext e m₂.pos t m₈ hP ht hm₈
  rw [← htext] at hitem
  exact hitem

/-- A resource, whose provider is what the value says. -/
def resource (type name : String) (value : List Char) : List Char :=
  ['r', 'e', 's', 'o', 'u', 'r', 'c', 'e', ' '] ++ quoted type ++ ' ' :: quoted name ++
    ' ' :: '\x7b' :: '\n' :: (providerLine value ++ '\x7d' :: '\n' :: [])

theorem return_not_mem_resource {type name : String} {value : List Char} (h : '\r' ∉ value) :
    '\r' ∉ resource type name value := by
  simp [resource, providerLine, Gap.blank, return_not_mem_quoted, h]

/-- A file with one resource gives that resource, with the value as its provider. -/
theorem parse_resource {value : List Char} {P : Expr → Prop} (file type name : String)
    (hblank : ∀ rest c, (value ++ '\n' :: rest).head? = some c → isBlankChar c = false)
    (h : ValueText value P) :
    ∃ e pos, parse file (String.ofList (resource type name value)) = .ok (.native
        [.block "resource" [type, name] ⟨file, 1, 1⟩ [.attribute ⟨"provider", e, pos⟩]]) ∧
      P e := by
  have hm : (Mark.start file 1 (String.ofList (resource type name value)).toList).rest =
      resource type name value := by
    rw [Mark.start, String.toList_ofList]
  have hgives : Gives .file ⟨file, 1, 1⟩ (fun result => ∃ e pos,
      result = .ok ⟨none, [.file [.ok (.block "resource" [type, name] ⟨file, 1, 1⟩
        [.attribute ⟨"provider", e, pos⟩])]]⟩ ∧ P e) {} ⟨none, [.file []]⟩
      (Mark.start file 1 (String.ofList (resource type name value)).toList) := by
    refine .resource (R := fun read => ∃ e pos, read = [.ok (.attribute ⟨"provider", e, pos⟩)] ∧
      P e) type name (providerLine value) [] rfl hm ?_ ?_
    · intro type labels t m₁ ht hm₁ hnext
      refine .providerLine h hblank hm₁ fun e pos t m' hP ht hm' => ?_
      exact hnext _ t m' ⟨e, pos, rfl, hP⟩ ht hm'
    · rintro read t m' ⟨e, pos, rfl, hP⟩ ht hm'
      refine .stop hm' ⟨e, pos, ?_, hP⟩
      simp only [finish, Newlines.finish, ht, if_true]
      rfl
  obtain ⟨e, pos, hread, hP⟩ := hgives _ (Nat.lt_succ_self _)
  refine ⟨e, pos, ?_, hP⟩
  have hread' : read .file Reader.file file 1 (String.ofList (resource type name value)) = .ok _ :=
    hread
  rw [parse, parseItems, hread']
  rfl

/-- A text can be the value of an attribute. -/
theorem not_blank_quoted (s : String) :
    ∀ rest c, (quoted s ++ '\n' :: rest).head? = some c → isBlankChar c = false := by
  rintro rest c ⟨⟩
  rfl

end Native

/-! ## JSON -/

namespace Json

/-- A resource, whose provider is the text. -/
def resource (type name : String) (s : String) : List Char :=
  encodeObject [encodeMember "resource" (encodeObject [encodeMember type
    (encodeObject [encodeMember name (encodeObject [encodeMember "provider" (encode s)])])])]

/-- What is read of a resource with a text as its provider. -/
theorem parse_resource (file type name s : String) :
    ∃ o p, parse file (String.ofList (resource type name s)) = .ok (.json o [p]) ∧
      p.key = "resource" ∧ ∃ o₁ p₁, p.value = .object o₁ [p₁] ∧ p₁.key = type ∧
      ∃ o₂ p₂, p₁.value = .object o₂ [p₂] ∧ p₂.key = name ∧
      ∃ o₃ p₃, p₂.value = .object o₃ [p₃] ∧ p₃.key = "provider" ∧
      ∃ o₄, p₃.value = .scalar o₄ (.text s) := by
  have hwritten : Written file (resource type name s) true _ :=
    .singleton "resource" (.singleton type (.singleton name (.singleton "provider" (.text s))))
  have hnode := hwritten.drafted_parseNode
  unfold parse
  generalize parseNode file _ = result at hnode ⊢
  cases hnode with
  | beyondLimits hwithin => cases hwithin
  | ok hwithin hnode =>
    obtain ⟨o, p, rfl, hp⟩ := hnode
    exact ⟨o, p, rfl, hp⟩

/-- A text without sequences is its own template. -/
theorem expr_text {s : String} (o : Origin) (h : Native.doubled s.toList = s.toList) :
    expr (.scalar o (.text s)) = .ok (.template o (Native.Part.addText s [])) := by
  have hexpr := expr_doubled o s
  rwa [h, String.ofList_toList] at hexpr

end Json

/-! ## Bodies with one resource -/

/-- The body holds the resource with the provider, and nothing else. -/
def Body.Holds (type name : String) (ref : ProviderRef) (body : Body) : Prop :=
  ∃ b, body.partialContent Module.schema = .ok ⟨[], [b]⟩ ∧ b.type = "resource" ∧
    Module.resourceOf b = .ok ⟨type, name, b.pos.file, b.pos.line, ref⟩

namespace Body

variable {type name : String} {ref : ProviderRef}

theorem holds_native {pos pos' : Pos} {e : Expr}
    (h : Module.providerOf ⟨"provider", e, pos'⟩ = .ok ref) :
    (native [.block "resource" [type, name] pos [.attribute ⟨"provider", e, pos'⟩]]).Holds type name
      ref := by
  refine ⟨⟨"resource", [type, name], .native [.attribute ⟨"provider", e, pos'⟩], pos⟩, ?_, rfl, ?_⟩
  · simp only [partialContent, List.foldlM_cons, List.foldlM_nil, addItem, block?_resource]
    rfl
  · have hcontent : partialContent Module.metaSchema (.native [.attribute ⟨"provider", e, pos'⟩]) =
        .ok ⟨[⟨"provider", e, pos'⟩], []⟩ := rfl
    have hfind : Content.attribute? ⟨[⟨"provider", e, pos'⟩], []⟩ "provider" =
        some ⟨"provider", e, pos'⟩ := rfl
    simp only [Module.resourceOf, hcontent, Except.mapError, bind, Except.bind, hfind, h]
    rfl

theorem holds_json {o o₁ o₂ o₃ : Origin} {p p₁ p₂ p₃ : JsonPair} {e : Expr}
    (hp : p.key = "resource") (hvalue : p.value = .object o₁ [p₁]) (hp₁ : p₁.key = type)
    (hvalue₁ : p₁.value = .object o₂ [p₂]) (hp₂ : p₂.key = name)
    (hvalue₂ : p₂.value = .object o₃ [p₃]) (hp₃ : p₃.key = "provider")
    (htype : type ≠ JsonPair.commentKey) (hname : name ≠ JsonPair.commentKey)
    (he : Json.expr p₃.value = .ok e)
    (h : Module.providerOf ⟨p₃.key, e, p₃.pos⟩ = .ok ref) :
    (json o [p]).Holds type name ref := by
  refine ⟨⟨"resource", [type, name], .json o₃ [p₃], p₂.pos⟩, ?_, rfl, ?_⟩
  · have hcomment : p.isComment = false := by
      rw [JsonPair.isComment, hp]
      decide
    -- One member on each level leads down to one block.
    have hblocks : jsonBlocks "resource" ["type", "name"] [] p.pos p.value =
        .ok [⟨"resource", [type, name], .json o₃ [p₃], p₂.pos⟩] := by
      rw [hvalue, jsonBlocks_object, blocksBelow_singleton (hp₁ ▸ htype), hvalue₁,
        jsonBlocks_object, blocksBelow_singleton (hp₂ ▸ hname), hvalue₂, hp₁, hp₂, jsonBlocks,
        objectsOf]
      rfl
    simp only [partialContent, List.foldlM_cons, List.foldlM_nil, addPair, hcomment, hp,
      block?_resource, hblocks]
    rfl
  · have hcomment : p₃.isComment = false := by
      rw [JsonPair.isComment, hp₃]
      decide
    have hcontent : partialContent Module.metaSchema (.json o₃ [p₃]) =
        .ok ⟨[⟨p₃.key, e, p₃.pos⟩], []⟩ := by
      simp only [partialContent, List.foldlM_cons, List.foldlM_nil, addPair, hcomment, hp₃,
        memberAttribute, he]
      rfl
    have hfind : Content.attribute? ⟨[⟨p₃.key, e, p₃.pos⟩], []⟩ "provider" =
        some ⟨p₃.key, e, p₃.pos⟩ := by
      simp [Content.attribute?, hp₃]
    simp only [Module.resourceOf, hcontent, Except.mapError, bind, Except.bind, hfind, h]
    rfl

end Body

/-! ## References as they are written -/

namespace ProviderRef

variable {type name : String} {ref : ProviderRef} {n : ConfigNotation} {cs : List Char}

/-- The ways to write a resource whose provider is the reference. -/
inductive Written (type name : String) (ref : ProviderRef) : ConfigNotation → List Char → Prop
  /-- As a traversal, unless the local name is that of a constant. -/
  | traversal (h : ref.name ≠ "true" ∧ ref.name ≠ "false" ∧ ref.name ≠ "null") :
    Written type name ref .native (Native.resource type name ref.chars)
  /-- As a text in quotes. -/
  | quoted : Written type name ref .native
      (Native.resource type name (Native.quoted (String.ofList ref.chars)))
  /-- As a JSON string. -/
  | string (htype : type ≠ JsonPair.commentKey) (hname : name ≠ JsonPair.commentKey) :
    Written type name ref .json (Json.resource type name (String.ofList ref.chars))

/-- A reference that is made of names has no other characters than theirs and a point. -/
theorem Proper.not_mem (h : ref.Proper) {c : Char} (hc : Native.isNameChar c = false)
    (hpoint : c ≠ '.') : c ∉ ref.chars := by
  obtain ⟨provider, tag⟩ := ref
  have hprovider : c ∉ provider.toList := h.name.not_mem hc
  cases tag with
  | none => simpa [chars] using hprovider
  | some tag =>
    have htag : c ∉ tag.toList := (h.tag tag rfl).not_mem hc
    simp [chars, hprovider, htag, hpoint]

/-- A reference that is made of names is read as the traversal that it is. -/
theorem Proper.valueText (h : ref.Proper)
    (hname : ref.name ≠ "true" ∧ ref.name ≠ "false" ∧ ref.name ≠ "null") :
    Native.ValueText ref.chars (·.Refers ref) := by
  obtain ⟨provider, tag⟩ := ref
  obtain ⟨i, hi⟩ := h.name.exists_identifier
  obtain rfl : i.text = provider := by rw [Native.Identifier.text, hi, String.ofList_toList]
  cases tag with
  | none =>
    have hvalue := Native.valueText_name ⟨i, hname⟩
    rwa [hi, ← List.append_nil i.text.toList] at hvalue
  | some tag =>
    obtain ⟨j, hj⟩ := (h.tag tag rfl).exists_identifier
    obtain rfl : j.text = tag := by rw [Native.Identifier.text, hj, String.ofList_toList]
    have hvalue := Native.valueText_alias ⟨i, hname⟩ j
    rwa [hi, hj] at hvalue

/-- A reference that is made of names begins with no blank. -/
theorem Proper.not_blank (h : ref.Proper) :
    ∀ rest c, (ref.chars ++ '\n' :: rest).head? = some c → Native.isBlankChar c = false := by
  obtain ⟨d, more, hchars, hd, -⟩ := h.name
  intro rest c hc
  rw [chars, hchars] at hc
  obtain rfl : d = c := Option.some.inj hc
  exact Native.isBlankChar_of_isNameStart hd

/-- A text refers to what it writes. -/
theorem Proper.refers_text (h : ref.Proper) (o : Origin) :
    (Expr.template o (Native.Part.addText (String.ofList ref.chars) [])).Refers ref :=
  .text (Native.Part.literal?_addText _) h

/-- A resource with a provider that is made of names is read as such, however it is written. -/
theorem Written.holds_parseConfig (hwritten : ref.Written type name n cs) (h : ref.Proper)
    {path : String} (hpath : FileName.notationOf path = n) :
    ∃ body, parseConfig path (String.ofList cs) = .ok body ∧ body.Holds type name ref := by
  rw [parseConfig, hpath]
  cases hwritten with
  | traversal hname =>
    obtain ⟨e, pos, hparse, he⟩ :=
      Native.parse_resource path type name h.not_blank (h.valueText hname)
    exact ⟨_, hparse, Body.holds_native (Module.providerOf_of_refers he)⟩
  | quoted =>
    obtain ⟨e, pos, hparse, o, parts, rfl, hliteral⟩ := Native.parse_resource path type name
      (Native.not_blank_quoted _) (Native.valueText_literal (String.ofList ref.chars))
    exact ⟨_, hparse, Body.holds_native (Module.providerOf_of_refers (.text hliteral h))⟩
  | string htype hname =>
    obtain ⟨o, p, hparse, hp, o₁, p₁, hvalue, hp₁, o₂, p₂, hvalue₁, hp₂, o₃, p₃, hvalue₂, hp₃, o₄,
      hvalue₃⟩ := Json.parse_resource path type name (String.ofList ref.chars)
    -- A name has no dollar sign and no percent sign, so nothing of it is doubled.
    have hdoubled : Native.doubled (String.ofList ref.chars).toList =
        (String.ofList ref.chars).toList := by
      rw [String.toList_ofList, Native.doubled_of_not_mem (h.not_mem rfl (by decide))]
    have he : Json.expr p₃.value = .ok _ := hvalue₃ ▸ Json.expr_text o₄ hdoubled
    exact ⟨_, hparse, Body.holds_json hp hvalue hp₁ hvalue₁ hp₂ hvalue₂ hp₃ htype hname he
      (Module.providerOf_of_refers (h.refers_text o₄))⟩

/-- No carriage return stands in it. -/
theorem Written.return_not_mem (hwritten : ref.Written type name n cs) (h : ref.Proper) :
    '\r' ∉ cs := by
  cases hwritten with
  | traversal => exact Native.return_not_mem_resource (h.not_mem rfl (by decide))
  | quoted => exact Native.return_not_mem_resource (Native.return_not_mem_quoted _)
  | string =>
    refine Json.return_not_mem_singleton _ (Json.return_not_mem_singleton _
      (Json.return_not_mem_singleton _ (Json.return_not_mem_singleton _ ?_)))
    exact Json.return_not_mem_encode _

end ProviderRef

end ResourceTables
