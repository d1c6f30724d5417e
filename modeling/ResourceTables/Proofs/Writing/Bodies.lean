import Mathlib.Data.List.Forall2
import ResourceTables.Proofs.Writing.Layouts

/-!
# Bodies read back from their layouts

A body is read as what it says, however it is laid out, unless a block in it has the label `if`
right behind a quoted label: there the file is refused.

* `Gives.attribute`: an attribute with its value;
* `InHeader`, `Gives.header`: the labels of a block, up to its opening brace;
* `Entry.reads`, `Line.reads`, `Layout.reads`: the parts of a body, by induction on the layout;
* `parse_layout_iff`: a file is read as what it says if and only if it is readable.
-/

namespace ResourceTables.Native

/-! ## Attributes -/

section Attributes

variable {first : Pos} {Q : Except ReadError Reader → Prop} {s : Newlines} {m : Mark}
  {rest : List Char}

/-- A name begins an attribute or a block. -/
theorem IsBody.takeName {body : List (Draft Item) → List Frame} {items : List (Draft Item)}
    (hbody : IsBody body) (name : Identifier) (hm : m.rest = name.chars ++ rest)
    (hrest : EndsName rest)
    (h : ∀ m', m'.rest = rest →
      Gives .file first Q ⟨s.brackets, some (m.token .name name.chars.length)⟩
        ⟨none, .header (m.token .name name.chars.length) [] :: body items⟩ m') :
    Gives .file first Q s ⟨none, body items⟩ m := by
  refine .takePlain .name rfl hm name.ne_nil ?_ (fun _ => ?_) (hbody.name items _ _ rfl) h
  · rw [hm]
    rcases hbody.accepts items with haccepts | haccepts <;> rw [haccepts] <;>
      exact firstToken?_name name hrest rfl rfl rfl
  · rcases hbody.accepts items with haccepts | haccepts <;> rw [haccepts] <;> rfl

/-- A number or a text is read as the value of an attribute. -/
theorem Gives.scalar {name : Token} {outer : List Frame} (value : Scalar)
    (hm : m.rest = value.chars ++ rest) (hrest : EndsNumeral rest)
    (h : ∀ x e t m', Operand.expr x = .ok e → value.Is e →
      Token.kind t = .number ∨ t.kind = .quote → m'.rest = rest →
      Gives .file first Q ⟨s.brackets, some t⟩ ⟨some x, .attribute name :: outer⟩ m') :
    Gives .file first Q s ⟨none, .attribute name :: outer⟩ m := by
  cases value with
  | number n =>
    refine .takePlain .number rfl hm n.ne_nil ?_ (by rintro ⟨⟩) rfl fun m' hm' =>
      h _ _ _ m' (expr_ofNumber n (Mark.text_token hm _)) ⟨_, rfl⟩ (.inl rfl) hm'
    rw [hm]
    exact firstToken?_number n hrest.cuts
  | text text =>
    exact .quoted hm (fun _ => rfl) rfl fun x o m₀ m' hx hm' =>
      h x _ _ m' hx ⟨o, rfl⟩ (.inr rfl) hm'

/-- An attribute is read up to the newline that ends it. -/
theorem Gives.attribute {body : List (Draft Item) → List Frame} {items : List (Draft Item)}
    (hbody : IsBody body) (name : Identifier) (before behind : Gap) (value : Scalar)
    (hm : m.rest = (Entry.attribute name before behind value).chars ++ rest)
    (hrest : EndsNumeral rest)
    (h : ∀ item r s' m', Drafted true (Node.attribute name value).Is item →
      Rests (body (item :: items)) s' r → s'.brackets = s.brackets → m'.rest = rest →
      Gives .file first Q s' r m') : Gives .file first Q s ⟨none, body items⟩ m := by
  have hm₀ : m.rest = name.chars ++ (before.chars ++
      (['='] ++ (behind.chars ++ (value.chars ++ rest)))) := by
    simpa [Entry.chars] using hm
  obtain ⟨v, vs, hv, hvblank⟩ : ∃ v vs, value.chars = v :: vs ∧ isBlankChar v = false := by
    cases value with
    | number n => exact n.exists_head
    | text s => exact ⟨'"', _, rfl, rfl⟩
  -- The name ends before the gap or the sign.
  have hends : EndsName (before.chars ++ (['='] ++ (behind.chars ++ (value.chars ++ rest)))) :=
    endsName_gap _ (endsName_cons rfl rfl (by decide) (by decide))
  refine hbody.takeName name hm₀ hends fun m₁ hm₁ => ?_
  refine .gap before hm₁ (by rintro _ ⟨⟩; rfl) rfl rfl fun m₂ hm₂ => ?_
  refine .takePlain .equal rfl hm₂ (by simp) (by rw [hm₂]; rfl) (by rintro ⟨⟩) rfl fun m₃ hm₃ => ?_
  refine .gap behind hm₃ (by rw [hv]; rintro _ ⟨⟩; exact hvblank) rfl rfl fun m₄ hm₄ => ?_
  refine .scalar value hm₄ hrest fun x e t m₅ hx he ht hm₅ => ?_
  have hpos : (m.token .name name.chars.length).start.pos = m.pos := rfl
  refine h (.ok (.attribute ⟨name.text, e, m.pos⟩)) _ ⟨s.brackets, some t⟩ m₅
    (.ok rfl (.attribute he))
    ⟨hbody.accepts _, .inr rfl, fun t' ht' => ?_, fun hended => ?_⟩ rfl hm₅
  · have htext : (m.token .name name.chars.length).text = name.text := Mark.text_token hm₀ _
    rw [feed_newline_attribute rfl hx ht', htext, hpos, hbody.addItem]
    rfl
  · rcases hended t rfl with hkind | hkind <;> rw [hkind] at ht <;> rcases ht with ht | ht <;>
      cases ht

end Attributes

/-! ## Blocks -/

/-- The reader stands behind the labels of a block, last one first; `quoted` tells whether the last
one is quoted, and is an operand that has just been read. -/
inductive InHeader (type : Token) (outer : List Frame) : Bool → List Label → Reader → Prop
  | name (labels : List Label) :
      InHeader type outer false labels ⟨none, .header type labels :: outer⟩
  | quoted (x : Operand) (labels : List Label) :
      InHeader type outer true (.quoted x :: labels) ⟨some x, .header type labels :: outer⟩

/-- The label that was read is the label. -/
def BlockLabel.Is : BlockLabel → Label → Prop
  | .name n, .plain s => s = n.text
  | .text s, .quoted x => ∃ o, x.expr = .ok (.template o (Part.addText s []))
  | _, _ => False

theorem refine_of_ne_if {text : List Char} (h : text ≠ ['i', 'f']) :
    Kind.refine afterOperandKinds .name text = .name := by
  unfold Kind.refine
  split
  · next found hfound =>
    -- The words other than `if` are not accepted behind an operand.
    have hspelled := List.find?_some hfound
    have hmem := List.mem_of_find?_eq_some hfound
    simp only [List.mem_cons, List.not_mem_nil, or_false] at hmem
    rcases hmem with rfl | rfl | rfl | rfl | rfl | rfl
    · exact absurd (beq_iff_eq.1 hspelled).symm h
    all_goals rfl
  · rfl

namespace InHeader

variable {type : Token} {outer : List Frame} {quoted : Bool} {labels : List Label} {r : Reader}

theorem feed (h : InHeader type outer quoted labels r) (t : Token) :
    r.feed (.ok []) t = Reader.feedOpen (.header type labels :: outer) t (.ok []) := by
  cases h <;> rfl

theorem accepts (h : InHeader type outer quoted labels r) :
    r.accepts = [.equal, .openBrace, .name, .quote] ∨ r.accepts = [.openBrace, .name, .quote] ∨
      quoted = true ∧ r.accepts = afterOperandKinds := by
  cases h with
  | name labels => cases labels <;> simp [Reader.accepts, Frame.accepts]
  | quoted x labels => exact .inr (.inr ⟨rfl, rfl⟩)

theorem allows_name (h : InHeader type outer quoted labels r) :
    allows r.accepts .name = true ∧ allows r.accepts .textChars = false ∧
      allows r.accepts .templateChars = false := by
  rcases h.accepts with haccepts | haccepts | ⟨-, haccepts⟩ <;> rw [haccepts] <;>
    exact ⟨rfl, rfl, rfl⟩

theorem firstToken?_quote (h : InHeader type outer quoted labels r) (cs : List Char) :
    firstToken? (allows r.accepts) ('"' :: cs) = some (.quote, 1) := by
  rcases h.accepts with haccepts | haccepts | ⟨-, haccepts⟩ <;> rw [haccepts] <;> rfl

theorem firstToken?_openBrace (h : InHeader type outer quoted labels r) (cs : List Char) :
    firstToken? (allows r.accepts) ('\x7b' :: cs) = some (.openBrace, 1) := by
  rcases h.accepts with haccepts | haccepts | ⟨-, haccepts⟩ <;> rw [haccepts] <;> rfl

/-- A name stays a name, unless it is `if` behind a quoted label. -/
theorem refine_name (h : InHeader type outer quoted labels r) {text : List Char}
    (htext : ¬ (quoted = true ∧ text = ['i', 'f'])) : Kind.refine r.accepts .name text = .name := by
  rcases h.accepts with haccepts | haccepts | ⟨hquoted, haccepts⟩
  · exact Kind.refine_eq text fun _ => by rw [haccepts]; rfl
  · exact Kind.refine_eq text fun _ => by rw [haccepts]; rfl
  · rw [haccepts]
    exact refine_of_ne_if fun hif => htext ⟨hquoted, hif⟩

end InHeader

section Blocks

variable {form : Form} {first : Pos} {Q : Except ReadError Reader → Prop} {s : Newlines}
  {r : Reader} {m : Mark} {rest : List Char}

/-- At least one blank ends a name. -/
theorem endsName_separator (g : Separator)
    (h : ∀ c, rest.head? = some c → isGap c = false ∧ c ≠ '(') : EndsName (g.chars ++ rest) := by
  obtain ⟨⟨gap, hgap⟩, hne⟩ := g
  obtain ⟨b, more, rfl⟩ := List.exists_cons_of_ne_nil hne
  refine endsName_blanks hgap ?_
  cases rest with
  | nil => simp
  | cons c rest => simpa [(h c rfl).1] using (h c rfl).2

theorem BlockLabel.head (l : BlockLabel) :
    ∀ c, (l.chars ++ rest).head? = some c → isBlankChar c = false ∧ isGap c = false ∧ c ≠ '(' := by
  cases l with
  | name n =>
    intro c hc
    have hstart := n.isNameStart_head c hc
    have hblank := isBlankChar_of_isNameStart hstart
    refine ⟨hblank, ?_, ?_⟩
    · simp only [isBlankChar, Bool.or_eq_false_iff] at hblank
      exact hblank.1.1
    · rintro rfl
      cases hstart
  | text s =>
    rintro _ ⟨⟩
    exact ⟨rfl, rfl, by decide⟩

/-- What follows the type or a label of a block ends a name. -/
theorem endsName_labels (gap : Gap) (labels : List (Separator × BlockLabel)) :
    EndsName (labelsChars labels ++ (gap.chars ++ '\x7b' :: rest)) := by
  cases labels with
  | nil => exact endsName_gap gap (endsName_cons rfl rfl (by decide) (by decide))
  | cons label labels =>
    obtain ⟨g, l⟩ := label
    rw [labelsChars, List.flatMap_cons, List.append_assoc, List.append_assoc]
    exact endsName_separator g fun c hc => (l.head c hc).2

/-- A name is read as a label, unless it is `if` behind a quoted label. -/
theorem Gives.nameLabel {type : Token} {outer : List Frame} {quoted : Bool} {labels : List Label}
    (hr : InHeader type outer quoted labels r) (n : Identifier) (hm : m.rest = n.chars ++ rest)
    (hrest : EndsName rest) (hif : ¬ (quoted = true ∧ n.chars = ['i', 'f']))
    (h : ∀ m', m'.rest = rest → Gives form first Q
      ⟨s.brackets, some (m.token .name n.chars.length)⟩
      ⟨none, .header type (.plain n.text :: labels) :: outer⟩ m') : Gives form first Q s r m := by
  obtain ⟨hname, htext, htemplate⟩ := hr.allows_name
  have hfirst : firstToken? (allows r.accepts) m.rest = some (.name, n.chars.length) := by
    rw [hm]
    exact firstToken?_name n hrest hname htext htemplate
  have hrefine : Kind.refine r.accepts .name (m.rest.take n.chars.length) = .name :=
    hr.refine_name (by rwa [hm, List.take_left' rfl])
  have hfeed : r.feed (.ok []) (m.token .name n.chars.length) =
      some ⟨none, .header type (.plain n.text :: labels) :: outer⟩ := by
    have htext : (m.token .name n.chars.length).text = n.text := Mark.text_token hm _
    rw [hr.feed, ← htext]
    cases labels <;> rfl
  have hfeedAll : r.feedAll (.ok []) [m.token .name n.chars.length] =
      .ok ⟨none, .header type (.plain n.text :: labels) :: outer⟩ := by
    simp only [Reader.feedAll, hfeed]
  exact .takeToken .name hm n.ne_nil (nextToken?_of_refine hfirst hrefine) rfl (by simp) rfl
    hfeedAll h

/-- The name `if` behind a quoted label is taken for the word that begins a condition. -/
theorem Gives.rejectIf {type : Token} {outer : List Frame} {labels : List Label}
    (hr : InHeader type outer true labels r) (n : Identifier) (hm : m.rest = n.chars ++ rest)
    (hrest : EndsName rest) (hif : n.chars = ['i', 'f']) (h : ∀ e, Q (.error e)) :
    Gives form first Q s r m := by
  obtain ⟨hname, htext, htemplate⟩ := hr.allows_name
  have hfirst : firstToken? (allows r.accepts) m.rest = some (.name, n.chars.length) := by
    rw [hm]
    exact firstToken?_name n hrest hname htext htemplate
  have hne : m.rest ≠ [] := by
    rw [hm]
    exact List.append_ne_nil_of_left_ne_nil n.ne_nil _
  cases hr with
  | quoted x labels =>
    have hrefine : Kind.refine (Reader.accepts ⟨some x, .header type labels :: outer⟩) .name
        (m.rest.take n.chars.length) = .word .cond := by
      rw [hm, List.take_left' rfl, hif]
      rfl
    exact .reject hne (nextToken?_of_refine hfirst hrefine) rfl (by simp [Mark.token]) rfl rfl (h _)

/-- The labels of a block are read up to its opening brace, unless one of them is refused. -/
theorem Gives.header {type : Token} {outer : List Frame} (gap : Gap)
    (written : List (Separator × BlockLabel)) {quoted : Bool} {labels : List Label}
    (hr : InHeader type outer quoted labels r)
    (hlast : (s.lastIs .name || s.lastIs .quote) = true)
    (hm : m.rest = labelsChars written ++ (gap.chars ++ '\x7b' :: rest))
    (hrefused : readableLabels quoted (written.map Prod.snd) = false → ∀ e, Q (.error e))
    (h : readableLabels quoted (written.map Prod.snd) = true → ∀ read s' m',
      List.Forall₂ BlockLabel.Is (written.map Prod.snd) read →
      Newlines.brackets s' = .block :: s.brackets → m'.rest = rest →
      Gives form first Q s' ⟨none, .block type (read.reverse ++ labels) [] :: outer⟩ m') :
    Gives form first Q s r m := by
  induction written generalizing quoted labels r s m with
  | nil =>
    obtain ⟨-, htext, htemplate⟩ := hr.allows_name
    refine .gap gap hm (by rintro _ ⟨⟩; rfl) htext htemplate fun m₁ hm₁ => ?_
    have hm₁' : m₁.rest = ['\x7b'] ++ rest := hm₁
    -- Behind a name or a quote the brace opens the body of a block and no object.
    have hstep : s.step (m₁.token .openBrace 1) =
        ([m₁.token .openBrace 1], ⟨.block :: s.brackets, some (m₁.token .openBrace 1)⟩) := by
      simp [Newlines.step, Newlines.opens, Mark.token, hlast]
    have hfeed : r.feed (.ok []) (m₁.token .openBrace 1) =
        Reader.inside (.block type labels [] :: outer) := by
      rw [hr.feed]
      cases labels <;> rfl
    refine .takeOne .openBrace hm₁' (by simp) ?_ (by rintro ⟨⟩) rfl (by simp) hstep hfeed
      fun m₂ hm₂ => h rfl [] _ m₂ .nil rfl hm₂
    rw [hm₁]
    exact hr.firstToken?_openBrace rest
  | cons label written ih =>
    obtain ⟨g, l⟩ := label
    obtain ⟨hname, htext, htemplate⟩ := hr.allows_name
    rw [labelsChars, List.flatMap_cons, ← labelsChars, List.append_assoc, List.append_assoc] at hm
    refine .gap g.toGap hm (fun c hc => (l.head c hc).1) htext htemplate fun m₁ hm₁ => ?_
    cases l with
    | text s₀ =>
      have hfeed : r.feed (.ok []) (m₁.token .quote 1) =
          Reader.inside (.quoted m₁ [] :: .header type labels :: outer) := by
        rw [hr.feed]
        cases labels <;> rfl
      refine .quoted hm₁ hr.firstToken?_quote hfeed fun x o m₀ m₂ hx hm₂ => ?_
      refine ih (.quoted x labels) rfl hm₂ hrefused fun hreadable read s' m' hread hs' hm' => ?_
      have hnext := h hreadable (.quoted x :: read) s' m' (.cons ⟨o, hx⟩ hread) hs' hm'
      rwa [List.reverse_cons, List.append_assoc, List.singleton_append] at hnext
    | name n =>
      have hends : EndsName (labelsChars written ++ (gap.chars ++ '\x7b' :: rest)) :=
        endsName_labels gap written
      by_cases hif : quoted = true ∧ n.chars = ['i', 'f']
      · obtain ⟨rfl, hn⟩ := hif
        exact .rejectIf hr n hm₁ hends hn (hrefused (by simp [readableLabels, hn]))
      · have hreadable : readableLabels quoted (.name n :: written.map Prod.snd) =
            readableLabels false (written.map Prod.snd) := by
          have hkept : (quoted && n.chars == ['i', 'f']) = false := by simpa using hif
          rw [readableLabels, hkept, Bool.not_false, Bool.true_and]
        refine .nameLabel hr n hm₁ hends hif fun m₂ hm₂ => ?_
        refine ih (.name _) rfl hm₂ (fun hread => hrefused (hreadable.trans hread))
          fun hread read s' m' hlabels hs' hm' => ?_
        have hnext := h (hreadable.trans hread) (.plain n.text :: read) s' m' (.cons rfl hlabels)
          hs' hm'
        rwa [List.reverse_cons, List.append_assoc, List.singleton_append] at hnext

end Blocks

/-! ## Whole bodies -/

/-- What the labels say is what they were written as. -/
theorem mapM_labelText {labels : List BlockLabel} {read : List Label}
    (h : List.Forall₂ BlockLabel.Is labels read) :
    ∃ said, read.mapM Reader.labelDraft = .ok said ∧
      said.mapM Reader.labelText = .ok (labels.map BlockLabel.value) := by
  induction h with
  | nil => exact ⟨[], rfl, rfl⟩
  | @cons label found labels read hlabel _ ih =>
    obtain ⟨said, hread, hsaid⟩ := ih
    -- A name is kept as it is, and a quoted text is decoded to what was written.
    obtain ⟨one, hone, htext⟩ : ∃ one, Reader.labelDraft found = .ok one ∧
        Reader.labelText one = .ok label.value := by
      cases label with
      | name n =>
        cases found with
        | plain s => exact ⟨.inl s, rfl, congrArg Except.ok hlabel⟩
        | quoted x => cases hlabel
      | text s =>
        cases found with
        | plain s => cases hlabel
        | quoted x =>
          obtain ⟨o, hx⟩ := hlabel
          refine ⟨.inr (.template o (Part.addText s [])), ?_, ?_⟩
          · rw [Reader.labelDraft, hx]
            rfl
          · simp only [Reader.labelText, Part.literal?_addText]
            rfl
    refine ⟨one :: said, ?_, ?_⟩
    · rw [List.mapM_cons, hone, hread]
      rfl
    · rw [List.mapM_cons, htext, hsaid]
      rfl

/-- A block is what its type, its labels and its items say. -/
theorem drafted_block {type : Token} {n : Identifier} {labels : List BlockLabel}
    {nodes : List Node} {read : List Label} {items : List (Draft Item)} (htype : type.text = n.text)
    (hlabels : List.Forall₂ BlockLabel.Is labels read)
    (hitems : List.Forall₂ (fun node item => Drafted true (Node.Is node) item) nodes items) :
    Drafted true (Node.block n labels nodes).Is (Reader.blockItem type read items) := by
  obtain ⟨said, hread, hsaid⟩ := mapM_labelText hlabels
  have hbody : Drafted (nodes.all fun _ => true) (List.Forall₂ Node.Is nodes) (items.mapM id) :=
    .mapM hitems
  simp only [Reader.blockItem, hread, bind, Except.bind, hsaid]
  generalize items.mapM id = result at hbody ⊢
  cases hbody with
  | ok _ hitems =>
    refine .ok rfl ?_
    rw [htype]
    exact .block hitems
  | beyondLimits hwithin => simp at hwithin

/-- Where an item can begin, the characters are read as the items that the nodes are, up to the
newline that ends the last of them, if what stands behind them has the property `P`. If a label is
refused, so is the file. -/
def ReadsAs (P : List Char → Prop) (cs : List Char) (nodes : List Node) : Prop :=
  ∀ first Q s body items rest m, IsBody body → InBody (Newlines.brackets s) → P rest →
    Mark.rest m = cs ++ rest →
    (readableNodes nodes = false → ∀ e, Q (.error e)) →
    (readableNodes nodes = true → ∀ read r s' m',
      List.Forall₂ (fun node item => Drafted true (Node.Is node) item) nodes read →
      Rests (body (read.reverse ++ items)) s' r → Newlines.brackets s' = s.brackets →
      Mark.rest m' = rest → Gives .file first Q s' r m') →
    Gives .file first Q s ⟨none, body items⟩ m

/-- The characters continue no item and no blanks. -/
def EndsItem (rest : List Char) : Prop :=
  ∀ c, rest.head? = some c → isBlankChar c = false ∧ isNumeralChar c = false

theorem endsItem_closeBrace {rest : List Char} : EndsItem ('\x7d' :: rest) := by
  rintro _ ⟨⟩
  exact ⟨rfl, rfl⟩

theorem endsItem_lineEnd (comment : Option LineComment) (rest : List Char) :
    EndsItem (commentChars comment ++ '\n' :: rest) := by
  rcases comment with _ | ⟨_ | _, text, h⟩ <;> rintro _ ⟨⟩ <;> exact ⟨rfl, rfl⟩

theorem endsNumeral_filler (f : Filler) {rest : List Char} (h : EndsItem rest) :
    EndsNumeral (f.chars ++ rest) := by
  rw [Filler.chars, List.append_assoc]
  refine f.gap.forall_head (fun c => isNumeralChar_of_isGap) ?_
  cases f.comments with
  | nil => exact fun c hc => (h c hc).2
  | cons comment comments =>
    rintro _ ⟨⟩
    rfl

theorem Entry.exists_head (e : Entry) : ∃ c more, e.chars = c :: more ∧ isBlankChar c = false := by
  have hname : ∀ (n : Identifier) rest,
      ∃ c more, n.chars ++ rest = c :: more ∧ isBlankChar c = false := by
    intro n rest
    obtain ⟨c, more, hcs, hc⟩ := exists_isNameStart n.ne_nil n.whole
    exact ⟨c, _, by rw [hcs]; rfl, isBlankChar_of_isNameStart hc⟩
  cases e <;> rw [Entry.chars] <;> exact hname _ _

mutual

theorem Entry.reads (e : Entry) : ReadsAs EndsNumeral e.chars [e.node] := by
  intro first Q s body items rest m hbody hs hrest hm hrefused hnext
  match e with
  | .attribute name before behind value =>
    refine .attribute hbody name before behind value hm hrest
      fun item r s' m' hitem hr hs' hm' => ?_
    exact hnext rfl [item] r s' m' (.cons hitem .nil) hr hs' hm'
  | .block type labels gap layout =>
    rw [Entry.node, readableNodes, readableNodes, Bool.and_true, Node.readable] at hrefused hnext
    have hm₀ : m.rest = type.chars ++ (labelsChars labels ++
        (gap.chars ++ '\x7b' :: (layout.chars ++ '\x7d' :: rest))) := by
      simpa [Entry.chars] using hm
    refine hbody.takeName type hm₀ (endsName_labels gap labels) fun m₁ hm₁ => ?_
    refine .header gap labels (.name []) rfl hm₁ (fun hlabels => hrefused (by rw [hlabels]; rfl))
      fun hlabels said s₂ m₂ hsaid hs₂ hm₂ => ?_
    rw [hlabels, Bool.true_and] at hrefused hnext
    have htype : (m.token .name type.chars.length).text = type.text := Mark.text_token hm₀ _
    have hinner : InBody s₂.brackets := by
      rw [hs₂]
      rfl
    -- The body is read up to the brace that closes it, with the block as the innermost construct.
    refine layout.reads first Q s₂ _ [] ('\x7d' :: rest) m₂ (isBody_block _ _ (body items)) hinner
      endsItem_closeBrace hm₂ hrefused fun hnodes read r s₃ m₃ hread hr hs₃ hm₃ => ?_
    refine hr.closeBrace hbody (hs₃.trans hs₂) hm₃ fun s₄ m₄ hs₄ hm₄ => ?_
    refine hnext hnodes [_] _ s₄ m₄ (.cons ?_ .nil) (hbody.rests _ s₄) hs₄ hm₄
    simpa using drafted_block htype hsaid hread

theorem Line.reads (l : Line) : ReadsAs EndsItem l.chars l.nodes := by
  intro first Q s body items rest m hbody hs hrest hm hrefused hnext
  match l with
  | .empty filler =>
    have hr := hbody.rests items s
    rw [Line.chars] at hm
    refine .filler filler hm (fun c hc => (hrest c hc).1) hr.allows_text hr.allows_template
      fun m₁ hm₁ => hnext rfl [] _ s m₁ .nil hr rfl hm₁
  | .entry before entry behind =>
    have hr := hbody.rests items s
    obtain ⟨c, more, hcs, hc⟩ := entry.exists_head
    rw [Line.chars, List.append_assoc, List.append_assoc] at hm
    refine .filler before hm (by rw [hcs]; rintro _ ⟨⟩; exact hc) hr.allows_text
      hr.allows_template fun m₁ hm₁ => ?_
    refine entry.reads first Q s body items _ m₁ hbody hs (endsNumeral_filler behind hrest) hm₁
      hrefused fun hreadable read r s' m₂ hread hr' hs' hm₂ => ?_
    exact .filler behind hm₂ (fun c hc => (hrest c hc).1) hr'.allows_text hr'.allows_template
      fun m₃ hm₃ => hnext hreadable read r s' m₃ hread hr' hs' hm₃

theorem Layout.reads (l : Layout) : ReadsAs EndsItem l.chars l.nodes := by
  intro first Q s body items rest m hbody hs hrest hm hrefused hnext
  match l with
  | .last line => exact line.reads first Q s body items rest m hbody hs hrest hm hrefused hnext
  | .next line comment below =>
    rw [Layout.nodes, readableNodes_append] at hrefused hnext
    have hm₀ : m.rest = line.chars ++ (commentChars comment ++ '\n' :: (below.chars ++ rest)) := by
      rw [hm, Layout.chars]
      simp
    refine line.reads first Q s body items _ m hbody hs (endsItem_lineEnd comment _) hm₀
      (fun hline => hrefused (by rw [hline, Bool.false_and]))
      fun hline read r s₁ m₁ hread hr hs₁ hm₁ => ?_
    rw [hline, Bool.true_and] at hrefused hnext
    refine hr.lineEnd (hs₁ ▸ hs) comment hm₁ fun s₂ m₂ hs₂ hm₂ => ?_
    have hbrackets : s₂.brackets = s.brackets := hs₂.trans hs₁
    refine below.reads first Q s₂ body _ rest m₂ hbody (hbrackets ▸ hs) hrest hm₂ hrefused
      fun hbelow read' r' s' m' hread' hr' hs' hm' => ?_
    refine hnext hbelow (read ++ read') r' s' m' (List.rel_append hread hread') ?_
      (hs'.trans hbrackets) hm'
    rwa [List.reverse_append, List.append_assoc]

end

/-! ## Files -/

/-- At the end of the file a newline that is missing is called for. -/
theorem Rests.finish {items : List (Draft Item)} {s : Newlines} {r : Reader}
    (h : Rests [.file items] s r) (first : Pos) :
    finish .file first s r = .ok ⟨none, [.file items]⟩ := by
  -- Behind a newline nothing is called for.
  have hr : (∀ l, s.last = some l → l.kind = .newline) →
      Native.finish .file first s r = .ok ⟨none, [.file items]⟩ := by
    intro hlast
    have hnone : s.finish = [] := by
      rw [Newlines.finish]
      split
      · next l hl => exact if_pos (hlast l hl)
      · rfl
    rw [h.ended fun l hl => .inl (hlast l hl), Native.finish, hnone]
    rfl
  by_cases hlast : ∀ l, s.last = some l → l.kind = .newline
  · exact hr hlast
  · simp only [not_forall] at hlast
    obtain ⟨l, hl, hkind⟩ := hlast
    have hsome : s.finish = [l.newlineAt] := by
      simp only [Newlines.finish, hl, if_neg hkind]
    simp only [Native.finish, hsome, Reader.feedAll, h.newline l.newlineAt rfl]
    rfl

/-- A file is read as what it says if and only if no block in it has the label `if` right behind a
quoted label. -/
theorem parse_layout_iff (file : String) (l : FileLayout) :
    (∃ items, parse file l.text = .ok (.native items) ∧
      List.Forall₂ Node.Is l.body.nodes items) ↔ readableNodes l.body.nodes = true := by
  -- What reading the file gives settles both directions, so that the layout is gone through once.
  have hgives : Gives .file ⟨file, 1, 1⟩ (fun result =>
      (readableNodes l.body.nodes = true → ∃ drafts, result = .ok ⟨none, [.file drafts.reverse]⟩ ∧
        List.Forall₂ (fun node item => Drafted true (Node.Is node) item) l.body.nodes drafts) ∧
      (readableNodes l.body.nodes = false → ∃ e, result = .error e)) {} Reader.file
      (Mark.start file 1 l.text.toList) := by
    refine l.body.reads _ _ _ _ [] (commentChars l.comment) _ isBody_file rfl ?_
      String.toList_ofList (fun hrefused e => ?_) fun hreadable drafts r s m hdrafts hr _ hm => ?_
    · rcases l.comment with _ | ⟨_ | _, text, h⟩ <;> rintro _ ⟨⟩ <;> exact ⟨rfl, rfl⟩
    · exact ⟨fun hreadable => (Bool.eq_false_iff.1 hrefused hreadable).elim, fun _ => ⟨e, rfl⟩⟩
    · have hm₀ : m.rest = commentChars l.comment ++ [] := by rw [hm, List.append_nil]
      refine hr.comment l.comment hm₀ (by rintro _ ⟨⟩) fun m₁ hm₁ => .stop hm₁ ?_
      refine ⟨fun _ => ⟨drafts, ?_, hdrafts⟩, fun hrefused => ?_⟩
      · rw [hr.finish, List.append_nil]
      · exact (Bool.eq_false_iff.1 hrefused hreadable).elim
  obtain ⟨hok, herror⟩ := hgives _ (Nat.lt_succ_self _)
  constructor
  · rintro ⟨items, hparse, -⟩
    by_contra hrefused
    obtain ⟨e, he⟩ := herror (Bool.eq_false_iff.2 hrefused)
    have hread : read .file Reader.file file 1 l.text = .error e := he
    rw [parse, parseItems, hread] at hparse
    cases hparse
  · intro hreadable
    obtain ⟨drafts, hread, hdrafts⟩ := hok hreadable
    have hread' : read .file Reader.file file 1 l.text = .ok ⟨none, [.file drafts.reverse]⟩ := hread
    have hitems : parseItems file l.text = drafts.reverse.reverse.mapM id := by
      rw [parseItems, hread']
      rfl
    have hbody : Drafted (l.body.nodes.all fun _ => true) (List.Forall₂ Node.Is l.body.nodes)
        (drafts.mapM id) := .mapM hdrafts
    rw [parse, hitems, List.reverse_reverse]
    generalize drafts.mapM id = result at hbody ⊢
    cases hbody with
    | ok _ hitems => exact ⟨_, rfl, hitems⟩
    | beyondLimits hwithin => simp at hwithin

/-- A block of type `a` with a quoted label and then the label `if`: `a "x" if {}`. -/
def labelledIf : FileLayout where
  body := .last (.entry ⟨.none, []⟩
    (.block ⟨['a'], by simp, rfl⟩
      [(⟨.blank, by simp [Gap.blank]⟩, .text "x"),
        (⟨.blank, by simp [Gap.blank]⟩, .name ⟨['i', 'f'], by simp, rfl⟩)]
      .blank (.last (.empty ⟨.none, []⟩)))
    ⟨.none, []⟩)
  comment := none

example : labelledIf.text = "a \"x\" if \x7b\x7d" := rfl

/-- Not every file is read as what it says. -/
theorem not_forall_parse_layout :
    ¬ ∀ file (l : FileLayout), ∃ items, parse file l.text = .ok (.native items) ∧
      List.Forall₂ Node.Is l.body.nodes items := by
  intro h
  obtain ⟨items, hparse, -⟩ := h "t.tf" labelledIf
  have hrefused : (parse "t.tf" labelledIf.text).isOk = false := by decide +kernel
  rw [hparse] at hrefused
  cases hrefused

end ResourceTables.Native
