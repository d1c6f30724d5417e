import ResourceTables.Proofs.Positions.Native
import ResourceTables.Proofs.Quotes.Trees

/-!
# The quoted texts that a reader holds

A reader makes a quoted text only where a closing quote ends one; everything else that it builds is
made of what it holds already.

* `Reader.EachQuoted`: each quoted text that the reader holds has a property;
* `Reader.keeps_feed`: one token keeps this, if the quoted text that it may end has the property and
  so have those in a heredoc;
* `Reader.enters_of_feed`: how a reader comes to stand between quotes;
* `Reader.ensures_feedAll_newlines`: a newline is no such way.
-/

namespace ResourceTables.Native

variable {P : Origin → List Part → Prop}

/-! ## Constructs -/

/-- Each quoted text in what the drafts of items say has the property. -/
def DraftsQuoted (P : Origin → List Part → Prop) (items : List (Draft Item)) : Prop :=
  ∀ d ∈ items, Ensures (Item.EachQuoted P) d

/-- The label is a name, or a quoted text with the property. -/
def Label.EachQuoted (P : Origin → List Part → Prop) : Label → Prop
  | .plain s => ∃ n : Identifier, s = n.text
  | .quoted x => x.IsQuoted P

/-- Each quoted text that the open construct holds has the property. -/
def Frame.EachQuoted (P : Origin → List Part → Prop) : Frame → Prop
  | .file items => DraftsQuoted P items
  | .header _ labels => ∀ l ∈ labels, l.EachQuoted P
  | .block _ labels items => (∀ l ∈ labels, l.EachQuoted P) ∧ DraftsQuoted P items
  | .binary x _ | .test x | .access x | .subscript x | .fullSplat x | .interpEnd _ x =>
    x.EachQuoted P
  | .branch x y => x.EachQuoted P ∧ y.EachQuoted P
  | .tuple _ xs | .call _ xs | .spread _ xs => ∀ x ∈ xs, x.EachQuoted P
  | .key _ pairs => PairsQuoted P pairs
  | .value _ pairs x => PairsQuoted P pairs ∧ x.EachQuoted P
  | .elements head | .keys head => head.collection.EachQuoted P
  | .elementsIf head x | .values head x => head.collection.EachQuoted P ∧ x.EachQuoted P
  | .grouped head x y | .valuesIf head x y _ =>
    head.collection.EachQuoted P ∧ x.EachQuoted P ∧ y.EachQuoted P
  | .quoted _ items | .template items => ∀ d ∈ items, Ensures (TemplateItem.EachQuoted P) d
  | .directiveEnd _ _ d _ => Ensures (Directive.EachQuoted P) d
  | _ => True

/-- Whether the innermost construct is the header of a block. -/
def inHeader : List Frame → Bool
  | .header _ _ :: _ => true
  | _ => false

/-- Whether the construct is a quoted text. -/
def Frame.isQuoted : Frame → Bool
  | .quoted _ _ => true
  | _ => false

/-- Each quoted text that the open constructs hold has the property. In the header of a block no
other constructs are opened than quoted texts. -/
def FramesQuoted (P : Origin → List Part → Prop) : List Frame → Prop
  | [] => True
  | f :: outer =>
    f.EachQuoted P ∧ (inHeader outer = true → f.isQuoted = true) ∧ FramesQuoted P outer

/-- Each quoted text that the reader holds has the property. -/
structure Reader.EachQuoted (P : Origin → List Part → Prop) (r : Reader) : Prop where
  /-- So it is with the open constructs. -/
  frames : FramesQuoted P r.frames
  /-- And with the operand. -/
  operand : ∀ x, r.operand = some x → x.EachQuoted P
  /-- In the header of a block the operand is a quoted label. -/
  label : ∀ x, r.operand = some x → inHeader r.frames = true → x.IsQuoted P

@[simp]
theorem framesQuoted_nil : FramesQuoted P [] := True.intro

@[simp]
theorem framesQuoted_cons {f : Frame} {outer : List Frame} :
    FramesQuoted P (f :: outer) ↔
      f.EachQuoted P ∧ (inHeader outer = true → f.isQuoted = true) ∧ FramesQuoted P outer :=
  Iff.rfl

namespace Reader

/-- If there is a reader, each quoted text that it holds has the property. -/
def Keeps (P : Origin → List Part → Prop) (r : Option Reader) : Prop :=
  ∀ r', r = some r' → r'.EachQuoted P

section Steps

variable {frames outer : List Frame} {t : Token} {heredoc : Draft (List Part)} {x : Operand}

@[simp]
theorem keeps_none : Keeps P none := by
  simp [Keeps]

@[simp]
theorem keeps_after : Keeps P (after x frames) ↔
    FramesQuoted P frames ∧ x.EachQuoted P ∧ (inHeader frames = true → x.IsQuoted P) := by
  constructor
  · intro h
    obtain ⟨hframes, hoperand, hlabel⟩ := h _ rfl
    exact ⟨hframes, hoperand x rfl, hlabel x rfl⟩
  · rintro ⟨hframes, hx, hlabel⟩ _ ⟨⟩
    refine ⟨hframes, ?_, ?_⟩ <;> rintro _ ⟨⟩
    · exact hx
    · exact hlabel

@[simp]
theorem keeps_inside : Keeps P (inside frames) ↔ FramesQuoted P frames := by
  constructor
  · exact fun h => (h _ rfl).frames
  · rintro hframes _ ⟨⟩
    exact ⟨hframes, by rintro _ ⟨⟩, by rintro _ ⟨⟩⟩

theorem keeps_addItem {d : Draft Item} (hd : Ensures (Item.EachQuoted P) d)
    (h : FramesQuoted P frames) : Keeps P (addItem d frames) := by
  unfold addItem
  split <;> simp_all [Frame.EachQuoted, Frame.isQuoted, DraftsQuoted]

theorem keeps_addTemplateItem {d : Draft TemplateItem} (hd : Ensures (TemplateItem.EachQuoted P) d)
    (h : FramesQuoted P frames) : Keeps P (addTemplateItem d frames) := by
  unfold addTemplateItem
  split <;> simp_all [Frame.EachQuoted, Frame.isQuoted]

/-- The labels of a block are names and literal texts. -/
theorem eachQuoted_blockItem {type : Token} {labels : List Label} {items : List (Draft Item)}
    (hlabels : ∀ l ∈ labels, l.EachQuoted P) (hitems : DraftsQuoted P items) :
    Ensures (Item.EachQuoted P) (blockItem type labels items) := by
  -- What a label says is a name or a template with the property.
  have hfound : ∀ l ∈ labels, Ensures (fun found => Ensures (IsLabel P) (labelText found))
      (labelDraft l) := by
    intro l hl
    have hlabel := hlabels l hl
    cases l with
    | plain s => exact .ok (.ok (.inl hlabel))
    | quoted x =>
      refine .map hlabel fun e he => ?_
      obtain ⟨o, parts, rfl, hP, -⟩ := he
      unfold labelText
      dsimp only
      split
      · next s hs => exact .ok (.inr ⟨o, parts, hP, hs⟩)
      · exact .error
  refine .bind (.mapM hfound) fun found hfound => ?_
  refine .bind (.mapM hitems) fun inner hinner => ?_
  exact .bind (.mapM hfound) fun texts htexts => .ok (.block htexts hinner)

theorem eachQuoted_interpItem {trim : Trim} (hx : x.EachQuoted P) :
    Ensures (TemplateItem.EachQuoted P) (interpItem trim x) :=
  .map hx fun _ he => he

theorem eachQuoted_directiveItem {trim : Trim} {pos : Pos} {d : Draft Directive}
    (hd : Ensures (Directive.EachQuoted P) d) :
    Ensures (TemplateItem.EachQuoted P) (directiveItem trim pos d) :=
  .map hd fun _ h => h

/-- What a token brings in: a name is a name, the quoted texts of a heredoc have the property, and
so has the text that a closing quote ends. -/
structure Brings (P : Origin → List Part → Prop) (r : Reader) (t : Token)
    (heredoc : Draft (List Part)) : Prop where
  /-- A name is a name. -/
  name : t.kind = .name → ∃ n : Identifier, t.text = n.text
  /-- The quoted texts of a heredoc have the property. -/
  heredoc : t.kind = .heredoc → (Operand.ofHeredoc t heredoc).EachQuoted P
  /-- So has the text that a quote ends. -/
  quote : t.kind = .quote → ∀ start items outer, r = ⟨none, .quoted start items :: outer⟩ →
    (Operand.ofQuoted start t.stop items.reverse).IsQuoted P

theorem keeps_beginOperand (ht : t.kind = .heredoc → (Operand.ofHeredoc t heredoc).EachQuoted P)
    (hheader : inHeader frames = false) (h : FramesQuoted P frames) :
    Keeps P (beginOperand frames t heredoc) := by
  unfold beginOperand
  split <;> simp_all [Frame.EachQuoted, Frame.isQuoted]

theorem keeps_feedDirective {before : Bool} (hheader : inHeader outer = false)
    (h : FramesQuoted P outer) : Keeps P (feedDirective before outer t) := by
  unfold feedDirective
  split <;> try split
  all_goals simp_all [Frame.EachQuoted, Frame.isQuoted, Ensures, Directive.EachQuoted]

theorem keeps_feedTemplate (hheader : inHeader frames = false) (h : FramesQuoted P frames) :
    Keeps P (feedTemplate frames t) := by
  unfold feedTemplate
  split
  · exact keeps_addTemplateItem (.ok True.intro) h
  · exact keeps_addTemplateItem (.ok True.intro) h
  all_goals simp_all [Frame.EachQuoted, Frame.isQuoted]

theorem inHeader_of_awaitsOperand {frame : Frame} (h : frame.awaitsOperand = true) :
    inHeader (frame :: outer) = false := by
  cases frame <;> first | rfl | cases h

theorem keeps_feedOpen (ht : Brings P ⟨none, frames⟩ t heredoc) (h : FramesQuoted P frames) :
    Keeps P (feedOpen frames t heredoc) := by
  have hname := ht.name
  have hquote := ht.quote
  unfold feedOpen
  split
  · exact keeps_none
  · next frame outer =>
    obtain ⟨hframe, houter, houters⟩ := framesQuoted_cons.1 h
    split
    rotate_right
    -- Any other token is the first one of an operand, or cannot stand there.
    · split
      · next hawaits => exact keeps_beginOperand ht.heredoc (inHeader_of_awaitsOperand hawaits) h
      · exact keeps_none
    -- Most tokens lead on to a construct that holds what the one before held.
    all_goals try
      simp_all [Frame.EachQuoted, Frame.isQuoted, Label.EachQuoted, inHeader, DraftsQuoted,
        keeps_addTemplateItem, keeps_feedDirective, Operand.EachQuoted.getAttr,
        Operand.EachQuoted.indexDigits, Operand.EachQuoted.splat, Operand.EachQuoted.tuple,
        Operand.EachQuoted.object, PairsQuoted.reverse, Operand.EachQuoted.call,
        Operand.EachQuoted.forObject, Operand.IsQuoted.eachQuoted, eachQuoted_interpItem,
        eachQuoted_directiveItem]
      done
    · refine keeps_addItem (eachQuoted_blockItem ?_ ?_) houters
      · exact fun l hl => hframe.1 l (List.mem_reverse.1 hl)
      · exact fun d hd => hframe.2 d (List.mem_reverse.1 hd)
    · exact keeps_feedTemplate rfl h
    · exact keeps_feedTemplate rfl h

/-! Putting operators together takes constructs away and keeps the others as they are. -/

/-- The operand is no label of a block, and it and the constructs around it hold quoted texts with
the property. -/
structure Inside (P : Origin → List Part → Prop) (x : Operand) (frames : List Frame) : Prop where
  /-- The innermost construct is no header. -/
  not_header : inHeader frames = false
  /-- The operand holds quoted texts with the property. -/
  operand : x.EachQuoted P
  /-- So do the constructs. -/
  frames : FramesQuoted P frames

theorem Inside.popped {f : Frame} {y : Operand} (h : Inside P x (f :: outer))
    (hf : f.isQuoted = false) (hy : y.EachQuoted P) : Inside P y outer := by
  obtain ⟨-, houter, houters⟩ := framesQuoted_cons.1 h.frames
  refine ⟨Bool.eq_false_iff.2 fun hheader => ?_, hy, houters⟩
  rw [houter hheader] at hf
  cases hf

theorem inside_reduce (level : Nat) (h : Inside P x frames) :
    Inside P (reduce level x frames).1 (reduce level x frames).2 := by
  fun_induction reduce level x frames with
  | case1 x start op outer ih => exact ih (h.popped rfl h.operand.unary)
  | case2 x left op outer hlevel ih => exact ih (h.popped rfl (.binary h.frames.1 h.operand))
  | case3 x left op outer hlevel => exact h
  | case4 x frames => exact h

theorem inside_settle (h : Inside P x frames) :
    Inside P (settle x frames).1 (settle x frames).2 := by
  fun_induction settle x frames with
  | case1 x start op outer ih => exact ih (h.popped rfl h.operand.unary)
  | case2 x left op outer ih => exact ih (h.popped rfl (.binary h.frames.1 h.operand))
  | case3 x cond yes outer ih =>
    exact ih (h.popped rfl (.conditional h.frames.1.1 h.frames.1.2 h.operand))
  | case4 x frames => exact h

theorem keeps_feedDirectiveEnd {before : Bool} {pos : Pos} {d : Draft Directive}
    (hd : Ensures (Directive.EachQuoted P) d) (hheader : inHeader outer = false)
    (h : FramesQuoted P outer) :
    Keeps P (closeOperand.feedDirectiveEnd t before pos d outer) := by
  unfold closeOperand.feedDirectiveEnd
  split
  · simp_all [Frame.EachQuoted]
  · exact keeps_addTemplateItem (eachQuoted_directiveItem hd) h
  · exact keeps_none

theorem keeps_closeOperand (ht : t.kind = .heredoc → (Operand.ofHeredoc t heredoc).EachQuoted P)
    (h : Inside P x frames) : Keeps P (closeOperand x frames t heredoc) := by
  unfold closeOperand
  split
  · exact keeps_none
  · next frame outer =>
    obtain ⟨hheader, hx, hframes⟩ := h
    obtain ⟨hframe, houter, houters⟩ := framesQuoted_cons.1 hframes
    split
    rotate_right
    -- Any other token cannot stand there.
    · exact keeps_none
    -- Most tokens lead on to a construct that holds the operand, or end one that held others.
    all_goals try
      simp_all [Frame.EachQuoted, Frame.isQuoted, inHeader, or_imp,
        keeps_addTemplateItem, Operand.EachQuoted.parens, Operand.EachQuoted.tuple,
        Operand.EachQuoted.call, Operand.EachQuoted.forTuple, Operand.EachQuoted.forObject,
        eachQuoted_interpItem]
      done
    all_goals have houter : inHeader outer = false := by simpa [Frame.isQuoted] using houter
    · exact keeps_addItem (.map hx fun e he => .attribute he) houters
    · exact keeps_after.2 ⟨houters, .index hframe hx, by simp [houter]⟩
    · refine keeps_after.2 ⟨houters, .object (PairsQuoted.reverse ?_), by simp [houter]⟩
      exact pairsQuoted_cons.2 ⟨⟨hframe.2, hx⟩, hframe.1⟩
    · refine keeps_beginOperand ht rfl ⟨?_, by simp [houter], houters⟩
      exact pairsQuoted_cons.2 ⟨⟨hframe.2, hx⟩, hframe.1⟩
    · exact keeps_feedDirectiveEnd (.map hx fun e he => he) houter houters
    · exact keeps_feedDirectiveEnd (.map hx fun e he => he) houter houters

theorem keeps_feedAfter (ht : Brings P ⟨some x, frames⟩ t heredoc) (h : FramesQuoted P frames)
    (hx : x.EachQuoted P) (hlabel : inHeader frames = true → x.IsQuoted P) :
    Keeps P (feedAfter x frames t heredoc) := by
  unfold feedAfter
  split
  · next type labels outer =>
    obtain ⟨hframe, houter, houters⟩ := framesQuoted_cons.1 h
    refine keeps_feedOpen ⟨ht.name, ht.heredoc, fun _ _ _ _ hquoted => nomatch hquoted⟩ ?_
    exact ⟨List.forall_mem_cons.2 ⟨hlabel rfl, hframe⟩, houter, houters⟩
  · next hnot =>
    -- An operand stands behind the header of a block only as a label.
    have hheader : inHeader frames = false := by
      cases frames with
      | nil => rfl
      | cons f outer =>
        cases f with
        | header type labels => exact absurd rfl (hnot type labels outer)
        | _ => rfl
    have hinside : Inside P x frames := ⟨hheader, hx, h⟩
    split
    · simp_all [Frame.EachQuoted]
    · simp_all [Frame.EachQuoted]
    · obtain ⟨hheader, hx, h⟩ := inside_reduce 0 hinside
      simp_all [Frame.EachQuoted]
    · split
      · next op _ =>
        obtain ⟨hheader, hx, h⟩ := inside_reduce op.level hinside
        simp_all [Frame.EachQuoted]
      · exact keeps_closeOperand ht.heredoc (inside_settle hinside)

/-- A reader holds quoted texts with the property after a token that brings in no others. -/
theorem keeps_feed {r : Reader} (hr : r.EachQuoted P) (ht : Brings P r t heredoc) :
    Keeps P (r.feed heredoc t) := by
  obtain ⟨operand, frames⟩ := r
  cases operand with
  | none => exact keeps_feedOpen ht hr.frames
  | some x => exact keeps_feedAfter ht hr.frames (hr.operand x rfl) (hr.label x rfl)

/-! ## Between quotes -/

/-- How a reader comes to stand between quotes that opened at `start`: a quote opens them, more
literal characters come behind the `items`, or a brace ends an interpolation or a directive. -/
inductive Enters (r : Reader) (t : Token) (start : Mark) : List (Draft TemplateItem) → Prop
  | quote (hkind : t.kind = .quote) (hstart : start = t.start) : Enters r t start []
  | text {items outer} (hkind : t.kind = .textChars ∨ t.kind = .templateChars)
      (hr : r = ⟨none, .quoted start items :: outer⟩) :
      Enters r t start (.ok (.text t.text) :: items)
  | sequence {item items} (hkind : t.kind = .closeBrace) (hitem : ∀ s, item ≠ .ok (.text s)) :
      Enters r t start (item :: items)

variable {start : Mark} {items : List (Draft TemplateItem)}

theorem addItem_ne_quoted {d : Draft Item} :
    addItem d frames ≠ some ⟨none, .quoted start items :: outer⟩ := by
  unfold addItem
  split <;> rintro ⟨⟩

theorem exists_of_addTemplateItem {d : Draft TemplateItem}
    (h : addTemplateItem d frames = some ⟨none, .quoted start items :: outer⟩) :
    ∃ before, frames = .quoted start before :: outer ∧ items = d :: before := by
  unfold addTemplateItem at h
  split at h
  · next before _ =>
    cases h
    exact ⟨before, rfl, rfl⟩
  · cases h
  · cases h

theorem interpItem_ne_text {trim : Trim} (s : String) : interpItem trim x ≠ .ok (.text s) := by
  unfold interpItem
  cases x.expr <;> rintro ⟨⟩

theorem directiveItem_ne_text {trim : Trim} {pos : Pos} {d : Draft Directive} (s : String) :
    directiveItem trim pos d ≠ .ok (.text s) := by
  cases d <;> rintro ⟨⟩

theorem enters_of_beginOperand {r : Reader}
    (h : beginOperand frames t heredoc = some ⟨none, .quoted start items :: outer⟩) :
    Enters r t start items := by
  unfold beginOperand at h
  split at h
  all_goals try
    cases h
    done
  · next hkind =>
    cases h
    exact .quote hkind rfl

theorem feedDirective_ne_quoted {before : Bool} :
    feedDirective before frames t ≠ some ⟨none, .quoted start items :: outer⟩ := by
  unfold feedDirective
  split <;> try split
  all_goals rintro ⟨⟩

theorem enters_of_feedTemplate
    (h : feedTemplate frames t = some ⟨none, .quoted start items :: outer⟩) :
    Enters ⟨none, frames⟩ t start items := by
  unfold feedTemplate at h
  split at h
  · next hkind =>
    obtain ⟨before, rfl, rfl⟩ := exists_of_addTemplateItem h
    exact .text (.inl hkind) rfl
  · next hkind =>
    obtain ⟨before, rfl, rfl⟩ := exists_of_addTemplateItem h
    exact .text (.inr hkind) rfl
  all_goals cases h

theorem enters_of_feedOpen
    (h : feedOpen frames t heredoc = some ⟨none, .quoted start items :: outer⟩) :
    Enters ⟨none, frames⟩ t start items := by
  unfold feedOpen at h
  split at h
  · cases h
  · split at h
    -- In most cases the reader comes to stand elsewhere, or nowhere.
    all_goals try
      cases h
      done
    · exact absurd h addItem_ne_quoted
    · next hkind =>
      cases h
      exact .quote hkind rfl
    · exact enters_of_feedTemplate h
    · exact enters_of_feedTemplate h
    · next hkind =>
      obtain ⟨before, rfl, rfl⟩ := exists_of_addTemplateItem h
      exact .sequence hkind interpItem_ne_text
    · exact absurd h feedDirective_ne_quoted
    · next hkind =>
      obtain ⟨before, rfl, rfl⟩ := exists_of_addTemplateItem h
      exact .sequence hkind directiveItem_ne_text
    · split at h
      · exact enters_of_beginOperand h
      · cases h

theorem enters_of_feedDirectiveEnd {r : Reader} {before : Bool} {pos : Pos} {d : Draft Directive}
    (h : closeOperand.feedDirectiveEnd t before pos d frames =
      some ⟨none, .quoted start items :: outer⟩) : Enters r t start items := by
  unfold closeOperand.feedDirectiveEnd at h
  split at h
  · cases h
  · next hkind =>
    obtain ⟨before, rfl, rfl⟩ := exists_of_addTemplateItem h
    exact .sequence hkind directiveItem_ne_text
  · cases h

theorem enters_of_closeOperand {r : Reader}
    (h : closeOperand x frames t heredoc = some ⟨none, .quoted start items :: outer⟩) :
    Enters r t start items := by
  unfold closeOperand at h
  split at h
  · cases h
  · split at h
    all_goals try cases h
    · exact absurd h addItem_ne_quoted
    · exact enters_of_beginOperand h
    · exact enters_of_feedDirectiveEnd h
    · next hkind =>
      obtain ⟨before, rfl, rfl⟩ := exists_of_addTemplateItem h
      exact .sequence hkind interpItem_ne_text
    · exact enters_of_feedDirectiveEnd h

/-- There is no other way for a reader to come to stand between quotes. -/
theorem enters_of_feed {r : Reader}
    (h : r.feed heredoc t = some ⟨none, .quoted start items :: outer⟩) :
    Enters r t start items := by
  obtain ⟨operand, frames⟩ := r
  cases operand with
  | none => exact enters_of_feedOpen h
  | some x =>
    have hfeed : feedAfter x frames t heredoc = some ⟨none, .quoted start items :: outer⟩ := h
    unfold feedAfter at hfeed
    -- Behind a label the header goes on, and behind an operand only its closing can lead between
    -- quotes.
    split at hfeed
    · cases enters_of_feedOpen hfeed with
      | quote hkind hstart => exact .quote hkind hstart
      | text hkind hr => cases hr
      | sequence hkind hitem => exact .sequence hkind hitem
    · split at hfeed
      · cases hfeed
      · cases hfeed
      · cases hfeed
      · split at hfeed
        · cases hfeed
        · exact enters_of_closeOperand hfeed

end Steps

/-! ## Newlines -/

/-- The reader stands between quotes. -/
def Between (r : Reader) : Prop :=
  ∃ start items outer, r = ⟨none, .quoted start items :: outer⟩

theorem feedAll_append (heredoc : Draft (List Part)) (r : Reader) (ts us : List Token) :
    r.feedAll heredoc (ts ++ us) = r.feedAll heredoc ts >>= fun r => r.feedAll heredoc us := by
  induction ts generalizing r with
  | nil => rfl
  | cons t ts ih =>
    rw [List.cons_append, feedAll, feedAll]
    cases r.feed heredoc t with
    | none => rfl
    | some r' => exact ih r'

/-- Behind newlines the reader does not stand between quotes. -/
theorem ensures_feedAll_newlines {r : Reader} {ts : List Token} (heredoc : Draft (List Part))
    (hr : r.EachQuoted P) (hts : ∀ u ∈ ts, u.kind = .newline) :
    Ensures (fun r' => r'.EachQuoted P ∧ (r'.Between → r' = r)) (r.feedAll heredoc ts) := by
  induction ts generalizing r with
  | nil => exact .ok ⟨hr, fun _ => rfl⟩
  | cons u ts ih =>
    have hk := hts u (by simp)
    rw [feedAll]
    cases hfeed : r.feed heredoc u with
    | none => exact .error
    | some r₁ =>
      have hbrings : Brings P r u heredoc := by
        constructor <;> rw [hk] <;> rintro ⟨⟩
      refine (ih (keeps_feed hr hbrings r₁ hfeed) fun u hu => hts u (by simp [hu])).mono ?_
      rintro r' ⟨hr', hsame⟩
      refine ⟨hr', fun hbetween => ?_⟩
      -- None of the ways in which a reader comes to stand between quotes is by a newline.
      obtain rfl := hsame hbetween
      obtain ⟨start, items, outer, rfl⟩ := hbetween
      cases enters_of_feed hfeed with
      | quote hkind => rw [hk] at hkind; cases hkind
      | text hkind => rw [hk] at hkind; rcases hkind with hkind | hkind <;> cases hkind
      | sequence hkind => rw [hk] at hkind; cases hkind

end Reader

/-- The tokens that are let through for a token are none, or that token among newlines. -/
theorem Newlines.step_eq (s : Newlines) (t : Token) :
    (t.kind = .newline ∧ (s.step t).1 = []) ∨
      ∃ before after, (s.step t).1 = before ++ t :: after ∧
        (∀ u ∈ before, u.kind = .newline) ∧ ∀ u ∈ after, u.kind = .newline := by
  have hemits := s.emits_step t
  generalize (s.step t).1 = through, (s.step t).2 = s' at hemits ⊢
  cases hemits with
  | drop hk => exact .inl ⟨hk, rfl⟩
  | keep | opening | closing | other => exact .inr ⟨[], [], rfl, by simp, by simp⟩
  | emptying => exact .inr ⟨[], [t.newlineAt], rfl, by simp, by simp [Token.newlineAt]⟩
  | @ending _ l =>
    exact .inr ⟨[l.newlineAt], [t.newlineAt], rfl, by simp [Token.newlineAt],
      by simp [Token.newlineAt]⟩

/-- What is added at the end of a file is a newline. -/
theorem Newlines.kind_of_mem_finish {s : Newlines} {u : Token} (hu : u ∈ s.finish) :
    u.kind = .newline := by
  unfold finish at hu
  split at hu
  · split at hu
    · cases hu
    · obtain rfl := List.mem_singleton.1 hu
      rfl
  · cases hu

end ResourceTables.Native
