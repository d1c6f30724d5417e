import ResourceTables.Proofs.Positions.Trees
import ResourceTables.Proofs.Quotes.Readers

/-!
# Readers in their places

All places that a reader keeps are places of the file: those where constructs begin, those of names
and types, and those of the keywords of directives. So what it builds of them stands in its place.

* `Frame.Stands`, `Reader.Stands`: what a reader holds stands in its place;
* `Reader.Carries`: what the next token brings in;
* `Reader.stands_feed`: one token more.
-/

namespace ResourceTables.Native

variable {file text : String}

/-! ## Constructs -/

/-- The token is a name that stands on the line of its place. -/
structure Token.IsHeader (text : String) (t : Token) : Prop where
  /-- It begins at a place of the file. -/
  start : t.start.Located text.toList
  /-- It stands on the line of that place. -/
  onLine : OnLine text.toList t.start.pos.line t.text.toList

/-- The items stand in their places, or a fault in them can be traced. -/
def DraftsStand (file text : String) (items : List (Draft Item)) : Prop :=
  ∀ d ∈ items, Delivers (Item.Stands text.toList) (ReadError.Traced file text) d

/-- The items of a template stand in their places, or a fault in them can be traced. -/
def TemplateStands (file text : String) (items : List (Draft TemplateItem)) : Prop :=
  ∀ d ∈ items, Delivers (TemplateItem.Stands file text) (ReadError.Traced file text) d

/-- A quoted label stands in its place. -/
def Label.Stands (file text : String) : Label → Prop
  | .plain _ => True
  | .quoted x => x.Stands file text

/-- The `for` begins at a place of the file, or at its keyword. -/
def LoopOwner.Stands (file text : String) : LoopOwner → Prop
  | .tuple start | .object start => start.Located text.toList
  | .directive _ pos => KeywordAt file text pos .loop

/-- What the open construct holds stands in its place. -/
def Frame.Stands (file text : String) : Frame → Prop
  | .file items => DraftsStand file text items
  | .header type labels => type.IsHeader text ∧ ∀ l ∈ labels, l.Stands file text
  | .block type labels items =>
    type.IsHeader text ∧ (∀ l ∈ labels, l.Stands file text) ∧ DraftsStand file text items
  | .attribute name => name.IsHeader text
  | .unary start _ | .parens start => start.Located text.toList
  | .callee name => name.start.Located text.toList
  | .binary x _ | .test x | .access x | .subscript x | .fullSplat x | .interpEnd _ x =>
    x.Stands file text
  | .branch x y => x.Stands file text ∧ y.Stands file text
  | .tuple start xs => start.Located text.toList ∧ ∀ x ∈ xs, x.Stands file text
  | .call name xs | .spread name xs =>
    name.start.Located text.toList ∧ ∀ x ∈ xs, x.Stands file text
  | .key start pairs => start.Located text.toList ∧ PairsStand file text pairs
  | .value start pairs x =>
    start.Located text.toList ∧ PairsStand file text pairs ∧ x.Stands file text
  | .loopName owner | .loopMore owner _ | .loopSecond owner _ | .loopIn owner _ _
  | .loopOver owner _ => owner.Stands file text
  | .elements head | .keys head => head.Stands file text
  | .elementsIf head x | .values head x => head.Stands file text ∧ x.Stands file text
  | .grouped head x y | .valuesIf head x y _ =>
    head.Stands file text ∧ x.Stands file text ∧ y.Stands file text
  | .quoted start items => start.Located text.toList ∧ TemplateStands file text items
  | .template items => TemplateStands file text items
  | .directiveIf _ pos => KeywordAt file text pos .cond
  | .directiveEnd _ pos d _ =>
    Delivers (Directive.Stands file text pos) (ReadError.Traced file text) d
  | .interp _ | .directive _ => True

/-- What the open constructs hold stands in its place. -/
def FramesStand (file text : String) (frames : List Frame) : Prop :=
  ∀ f ∈ frames, f.Stands file text

@[simp]
theorem framesStand_nil : FramesStand file text [] := by
  simp [FramesStand]

@[simp]
theorem framesStand_cons {f : Frame} {outer : List Frame} :
    FramesStand file text (f :: outer) ↔ f.Stands file text ∧ FramesStand file text outer :=
  List.forall_mem_cons

/-- What the reader holds stands in its place. -/
structure Reader.Placed (file text : String) (r : Reader) : Prop where
  /-- So it is with the open constructs. -/
  frames : FramesStand file text r.frames
  /-- And with the operand. -/
  operand : ∀ x, r.operand = some x → x.Stands file text

namespace Reader

/-- If there is a reader, what it holds stands in its place. -/
def Places (file text : String) (r : Option Reader) : Prop :=
  ∀ r', r = some r' → r'.Placed file text

/-- What a token brings in has its place in the file. -/
structure Carries (file text : String) (r : Reader) (t : Token) (heredoc : Draft (List Part)) :
    Prop where
  /-- The token begins at a place of the file. -/
  start : t.start.Located text.toList
  /-- A name is one. -/
  name : t.kind = .name → ∃ n : Identifier, t.text = n.text
  /-- It stands on the line of its place. -/
  onLine : t.kind = .name → OnLine text.toList t.start.pos.line t.text.toList
  /-- A keyword in a directive is met at its place. -/
  keyword : ∀ w before outer, t.kind = .word w → r = ⟨none, .directive before :: outer⟩ →
    KeywordAt file text t.start.pos w
  /-- The template of a heredoc stands in its place. -/
  heredoc : PartsDraft file text heredoc
  /-- So does the text that a quote ends. -/
  quote : t.kind = .quote → ∀ start items outer, r = ⟨none, .quoted start items :: outer⟩ →
    (Operand.ofQuoted start t.stop items.reverse).Stands file text

section Steps

variable {frames outer : List Frame} {t : Token} {heredoc : Draft (List Part)} {x : Operand}

@[simp]
theorem places_none : Places file text none := by
  simp [Places]

@[simp]
theorem places_after :
    Places file text (after x frames) ↔ FramesStand file text frames ∧ x.Stands file text := by
  constructor
  · intro h
    exact ⟨(h _ rfl).frames, (h _ rfl).operand x rfl⟩
  · rintro ⟨hframes, hx⟩ _ ⟨⟩
    exact ⟨hframes, by rintro _ ⟨⟩; exact hx⟩

@[simp]
theorem places_inside : Places file text (inside frames) ↔ FramesStand file text frames := by
  constructor
  · exact fun h => (h _ rfl).frames
  · rintro hframes _ ⟨⟩
    exact ⟨hframes, by rintro _ ⟨⟩⟩

theorem places_addItem {d : Draft Item}
    (hd : Delivers (Item.Stands text.toList) (ReadError.Traced file text) d)
    (h : FramesStand file text frames) : Places file text (addItem d frames) := by
  unfold addItem
  split <;> simp_all [Frame.Stands, DraftsStand]

theorem places_addTemplateItem {d : Draft TemplateItem}
    (hd : Delivers (TemplateItem.Stands file text) (ReadError.Traced file text) d)
    (h : FramesStand file text frames) : Places file text (addTemplateItem d frames) := by
  unfold addTemplateItem
  split <;> simp_all [Frame.Stands, TemplateStands]

theorem traced_labelText {found : String ⊕ Expr} :
    Delivers (fun _ => True) (ReadError.Traced file text) (labelText found) := by
  unfold labelText
  split
  · exact .ok True.intro
  · split
    · split
      · exact .ok True.intro
      · exact .error (ReadError.traced_of_not rfl)
    · exact .error (ReadError.traced_of_not rfl)

/-- A block has its place where its type stands. -/
theorem stands_blockItem {type : Token} {labels : List Label} {items : List (Draft Item)}
    (htype : type.IsHeader text) (hlabels : ∀ l ∈ labels, l.Stands file text)
    (hitems : DraftsStand file text items) :
    Delivers (Item.Stands text.toList) (ReadError.Traced file text)
      (blockItem type labels items) := by
  have hdraft : ∀ l ∈ labels,
      Delivers (fun _ => True) (ReadError.Traced file text) (labelDraft l) := by
    intro l hl
    have hlabel := hlabels l hl
    cases l with
    | plain s => exact .ok True.intro
    | quoted x => exact .map hlabel.expr fun _ _ => True.intro
  refine .bind (.mapM hdraft) fun found _ => .bind (.mapM hitems) fun inner hinner => ?_
  exact .bind (.mapM fun _ _ => traced_labelText) fun texts _ => .ok (.block htype.onLine hinner.2)

theorem stands_interpItem {trim : Trim} (hx : x.Stands file text) :
    Delivers (TemplateItem.Stands file text) (ReadError.Traced file text) (interpItem trim x) :=
  .map hx.expr fun _ he => he

theorem stands_directiveItem {trim : Trim} {pos : Pos} {d : Draft Directive}
    (hd : Delivers (Directive.Stands file text pos) (ReadError.Traced file text) d) :
    Delivers (TemplateItem.Stands file text) (ReadError.Traced file text)
      (directiveItem trim pos d) :=
  .map hd fun _ h => h

theorem places_beginOperand {r : Reader} (ht : Carries file text r t heredoc)
    (h : FramesStand file text frames) : Places file text (beginOperand frames t heredoc) := by
  have hstart := ht.start
  unfold beginOperand
  split
  · next hk => exact places_after.2 ⟨h, Operand.stands_ofName hstart (ht.name hk)⟩
  · exact places_after.2 ⟨h, Operand.stands_ofNumber hstart⟩
  · exact places_after.2 ⟨h, Operand.stands_ofHeredoc hstart ht.heredoc⟩
  all_goals simp_all [Frame.Stands, TemplateStands]

theorem places_feedDirective {before : Bool}
    (hkeyword : ∀ w, t.kind = .word w → KeywordAt file text t.start.pos w)
    (h : FramesStand file text outer) : Places file text (feedDirective before outer t) := by
  have hends : ∀ d : Directive, d.expr? = none → t.kind = .word d.word →
      d.Stands file text t.start.pos := by
    intro d hd hk
    refine ⟨hkeyword _ hk, fun e he => ?_⟩
    rw [hd] at he
    cases he
  unfold feedDirective
  split
  · split <;> simp_all [Frame.Stands]
  · next hk => exact places_inside.2 (framesStand_cons.2 ⟨hkeyword _ hk, h⟩)
  · next hk => exact places_inside.2 (framesStand_cons.2 ⟨hkeyword _ hk, h⟩)
  · next hk => exact places_inside.2 (framesStand_cons.2 ⟨hends .otherwise rfl hk, h⟩)
  · next hk => exact places_inside.2 (framesStand_cons.2 ⟨hends .endCond rfl hk, h⟩)
  · next hk => exact places_inside.2 (framesStand_cons.2 ⟨hends .endLoop rfl hk, h⟩)
  · exact places_none

theorem places_feedTemplate (h : FramesStand file text frames) :
    Places file text (feedTemplate frames t) := by
  unfold feedTemplate
  split
  · exact places_addTemplateItem (.ok True.intro) h
  · exact places_addTemplateItem (.ok True.intro) h
  all_goals simp_all [Frame.Stands]

theorem places_feedOpen (ht : Carries file text ⟨none, frames⟩ t heredoc)
    (h : FramesStand file text frames) : Places file text (feedOpen frames t heredoc) := by
  have hstart := ht.start
  have hname := ht.name
  have hquote := ht.quote
  have hheader : t.kind = .name → t.IsHeader text := fun hk => ⟨hstart, ht.onLine hk⟩
  unfold feedOpen
  split
  · exact places_none
  · next frame outer =>
    obtain ⟨hframe, houters⟩ := framesStand_cons.1 h
    split
    rotate_right
    -- Any other token is the first one of an operand, or cannot stand there.
    · split
      · exact places_beginOperand ht h
      · exact places_none
    -- Most tokens lead on to a construct that holds what the one before held.
    all_goals try
      simp_all [Frame.Stands, Label.Stands, LoopOwner.Stands, DraftsStand, TemplateStands,
        Operand.Stands.getAttr, Operand.Stands.splat, Operand.Stands.tuple, Operand.Stands.object,
        PairsStand.reverse, Operand.Stands.call, Operand.Stands.forObject, places_addTemplateItem,
        stands_interpItem, stands_directiveItem]
      done
    · obtain ⟨htype, hlabels, hitems⟩ := hframe
      refine places_addItem (stands_blockItem htype ?_ ?_) houters
      · exact fun l hl => hlabels l (List.mem_reverse.1 hl)
      · exact fun d hd => hitems d (List.mem_reverse.1 hd)
    · exact places_after.2 ⟨houters, .index hframe (Operand.stands_numberExpr hstart)⟩
    · exact places_feedTemplate h
    · exact places_feedTemplate h
    · exact places_feedDirective (fun w hk => ht.keyword w _ outer hk rfl) houters

/-! Putting operators together takes constructs away and keeps the others as they are. -/

theorem stands_reduce (level : Nat) (hx : x.Stands file text) (h : FramesStand file text frames) :
    (reduce level x frames).1.Stands file text ∧
      FramesStand file text (reduce level x frames).2 := by
  fun_induction reduce level x frames with
  | case1 x start op outer ih =>
    obtain ⟨hstart, houters⟩ := framesStand_cons.1 h
    exact ih (.unary hstart hx) houters
  | case2 x left op outer hlevel ih =>
    obtain ⟨hleft, houters⟩ := framesStand_cons.1 h
    exact ih (.binary hleft hx) houters
  | case3 x left op outer hlevel => exact ⟨hx, h⟩
  | case4 x frames => exact ⟨hx, h⟩

theorem stands_settle (hx : x.Stands file text) (h : FramesStand file text frames) :
    (settle x frames).1.Stands file text ∧ FramesStand file text (settle x frames).2 := by
  fun_induction settle x frames with
  | case1 x start op outer ih =>
    obtain ⟨hstart, houters⟩ := framesStand_cons.1 h
    exact ih (.unary hstart hx) houters
  | case2 x left op outer ih =>
    obtain ⟨hleft, houters⟩ := framesStand_cons.1 h
    exact ih (.binary hleft hx) houters
  | case3 x cond yes outer ih =>
    obtain ⟨⟨hcond, hyes⟩, houters⟩ := framesStand_cons.1 h
    exact ih (.conditional hcond hyes hx) houters
  | case4 x frames => exact ⟨hx, h⟩

theorem places_feedDirectiveEnd {before : Bool} {pos : Pos} {d : Draft Directive}
    (hd : Delivers (Directive.Stands file text pos) (ReadError.Traced file text) d)
    (h : FramesStand file text outer) :
    Places file text (closeOperand.feedDirectiveEnd t before pos d outer) := by
  unfold closeOperand.feedDirectiveEnd
  split
  · simp_all [Frame.Stands]
  · exact places_addTemplateItem (stands_directiveItem hd) h
  · exact places_none

theorem places_closeOperand {r : Reader} (ht : Carries file text r t heredoc)
    (hx : x.Stands file text) (h : FramesStand file text frames) :
    Places file text (closeOperand x frames t heredoc) := by
  unfold closeOperand
  split
  · exact places_none
  · next frame outer =>
    obtain ⟨hframe, houters⟩ := framesStand_cons.1 h
    split
    rotate_right
    -- Any other token cannot stand there.
    · exact places_none
    -- Most tokens lead on to a construct that holds the operand, or end one that held others.
    all_goals try
      simp_all [Frame.Stands, LoopOwner.Stands, or_imp, Operand.Stands.parens,
        Operand.Stands.call, Operand.Stands.forTuple, Operand.Stands.forObject,
        places_addTemplateItem, stands_interpItem]
      done
    · refine places_addItem (.map hx.expr fun e he => ?_) houters
      exact .attribute hframe.onLine he
    · exact places_after.2 ⟨houters, .index hframe hx.expr⟩
    · obtain ⟨hstart, hitems⟩ := hframe
      refine places_after.2 ⟨houters, .tuple hstart fun y hy => ?_⟩
      exact List.forall_mem_cons.2 ⟨hx, hitems⟩ y (List.mem_reverse.1 hy)
    · obtain ⟨hstart, hpairs, hkey⟩ := hframe
      have hpairs' := pairsStand_cons.2 ⟨⟨hkey, hx⟩, hpairs⟩
      exact places_after.2 ⟨houters, .object hstart hpairs'.reverse⟩
    · obtain ⟨hstart, hpairs, hkey⟩ := hframe
      have hpairs' := pairsStand_cons.2 ⟨⟨hkey, hx⟩, hpairs⟩
      exact places_beginOperand ht (framesStand_cons.2 ⟨⟨hstart, hpairs'⟩, houters⟩)
    -- The expression of a directive stands behind its keyword.
    · refine places_feedDirectiveEnd (.map hx.expr fun e he => ⟨hframe, ?_⟩) houters
      rintro _ ⟨⟩
      exact he
    · refine places_feedDirectiveEnd (.map hx.expr fun e he => ⟨hframe, ?_⟩) houters
      rintro _ ⟨⟩
      exact he

theorem places_feedAfter (ht : Carries file text ⟨some x, frames⟩ t heredoc)
    (hx : x.Stands file text) (h : FramesStand file text frames) :
    Places file text (feedAfter x frames t heredoc) := by
  unfold feedAfter
  split
  · next type labels outer =>
    obtain ⟨⟨htype, hlabels⟩, houters⟩ := framesStand_cons.1 h
    refine places_feedOpen ⟨ht.start, ht.name, ht.onLine, (fun _ _ _ _ hr => nomatch hr),
      ht.heredoc, fun _ _ _ _ hr => nomatch hr⟩ ?_
    exact framesStand_cons.2 ⟨⟨htype, List.forall_mem_cons.2 ⟨hx, hlabels⟩⟩, houters⟩
  · split
    · exact places_inside.2 (framesStand_cons.2 ⟨hx, h⟩)
    · exact places_inside.2 (framesStand_cons.2 ⟨hx, h⟩)
    · exact places_inside.2 (framesStand_cons.2 (stands_reduce 0 hx h))
    · split
      · next op _ => exact places_inside.2 (framesStand_cons.2 (stands_reduce op.level hx h))
      · obtain ⟨hsettled, hrest⟩ := stands_settle hx h
        exact places_closeOperand ht hsettled hrest

/-- What a reader holds stands in its place after a token that has its place in the file. -/
theorem places_feed {r : Reader} (hr : r.Placed file text) (ht : Carries file text r t heredoc) :
    Places file text (r.feed heredoc t) := by
  obtain ⟨operand, frames⟩ := r
  cases operand with
  | none => exact places_feedOpen ht hr.frames
  | some x => exact places_feedAfter ht (hr.operand x rfl) hr.frames

end Steps

end Reader

end ResourceTables.Native
