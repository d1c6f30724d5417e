import Mathlib.Data.List.Infix
import ResourceTables.Proofs.Writing.Atoms

/-!
# Bodies and their layouts

Attributes and blocks without a layout, and the ways in which they can be laid out: on lines of
their own or between the braces of one line, with blank lines and comments around them. What the
reader makes of blanks, comments and newlines between two items.

* `Node`: what a body says; `Node.Is`: an item of a body says it, wherever it stands;
* `Layout`, `Line`, `Entry`: a body as it is laid out, and `Layout.nodes`, what it says;
* `Node.readable`: whether no block has the label `if` right behind a quoted label, where the lexer
  takes it for the word that begins a condition;
* `Gives.filler`, `Gives.lineComment`: blanks and comments are passed over;
* `IsBody`: the reader collects the items of a file or of a block;
* `Rests`: an item has been read up to the newline that ends it, or none has begun;
* `Rests.lineEnd`, `Rests.closeBrace`: behind the newline, and behind the brace that closes the
  block, the reader is at the start of the next item.
-/

namespace ResourceTables.Native

/-! ## What a body says -/

/-- The value of an attribute. -/
inductive Scalar where
  /-- A number. -/
  | number (n : NumberLiteral)
  /-- A text. -/
  | text (s : String)

/-- A label of a block. -/
inductive BlockLabel where
  /-- A name. -/
  | name (n : Identifier)
  /-- A text in quotes. -/
  | text (s : String)

/-- An attribute or a block. -/
inductive Node where
  /-- An attribute with its value. -/
  | attribute (name : Identifier) (value : Scalar)
  /-- A block with its labels and what its body says. -/
  | block (type : Identifier) (labels : List BlockLabel) (body : List Node)

/-- What the label says. -/
def BlockLabel.value : BlockLabel → String
  | name n => n.text
  | text s => s

/-- The expression is the value. -/
def Scalar.Is : Scalar → Expr → Prop
  | number n, e => ∃ o, e = .literal o (.number n.decimal)
  | text s, e => ∃ o, e = .template o (Part.addText s [])

/-- The item of a body is the attribute or the block, wherever its parts stand. -/
inductive Node.Is : Node → Item → Prop
  | attribute {name value e pos} (h : value.Is e) :
      Is (.attribute name value) (.attribute ⟨name.text, e, pos⟩)
  | block {type labels body pos items} (h : List.Forall₂ Is body items) :
      Is (.block type labels body) (.block type.text (labels.map BlockLabel.value) pos items)

/-- Whether no label is the name `if` right behind a quoted one; `quoted` tells whether the first
label stands behind a quoted one. -/
def readableLabels (quoted : Bool) : List BlockLabel → Bool
  | [] => true
  | .name n :: rest => !(quoted && n.chars == ['i', 'f']) && readableLabels false rest
  | .text _ :: rest => readableLabels true rest

mutual

/-- Whether no block in it has the label `if` right behind a quoted label. -/
def Node.readable : Node → Bool
  | .attribute _ _ => true
  | .block _ labels body => readableLabels false labels && readableNodes body

/-- Whether no block in them has the label `if` right behind a quoted label. -/
def readableNodes : List Node → Bool
  | [] => true
  | node :: rest => node.readable && readableNodes rest

end

theorem readableNodes_append (nodes nodes' : List Node) :
    readableNodes (nodes ++ nodes') = (readableNodes nodes && readableNodes nodes') := by
  induction nodes with
  | nil => rw [List.nil_append, readableNodes, Bool.true_and]
  | cons node nodes ih =>
    rw [List.cons_append, readableNodes, readableNodes, ih, Bool.and_assoc]

/-! ## How it is laid out -/

/-- A comment between `/*` and `*/`. -/
structure BlockComment where
  /-- The characters inside. -/
  text : List Char
  /-- The comment is not closed before its end. -/
  not_closed : ¬ ['*', '/'] <:+: text

/-- A comment up to the end of its line. -/
structure LineComment where
  /-- Whether it begins with `#` and not with `//`. -/
  hash : Bool
  /-- The characters behind that. -/
  text : List Char
  /-- The line does not end inside of it. -/
  newline_not_mem : '\n' ∉ text

/-- Blanks and comments that are closed, which may stand where nothing else does. -/
structure Filler where
  /-- The blanks that come first. -/
  gap : Gap
  /-- The comments, each with the blanks behind it. -/
  comments : List (BlockComment × Gap)

/-- At least one blank. -/
structure Separator extends Gap where
  /-- There is one. -/
  ne_nil : chars ≠ []

mutual

/-- An attribute or a block as it is laid out. -/
inductive Entry where
  /-- `name = value` with the blanks around the sign. -/
  | attribute (name : Identifier) (before behind : Gap) (value : Scalar)
  /-- A block, whose labels have blanks in front of them. -/
  | block (type : Identifier) (labels : List (Separator × BlockLabel)) (gap : Gap) (body : Layout)

/-- What stands on a line, up to a comment at its end. -/
inductive Line where
  /-- No attribute and no block. -/
  | empty (filler : Filler)
  /-- An attribute or a block. -/
  | entry (before : Filler) (entry : Entry) (behind : Filler)

/-- A body as it is laid out. A block may end on the line of its last item. -/
inductive Layout where
  /-- The last line, which no newline ends. -/
  | last (line : Line)
  /-- A line with its newline, and the lines below. -/
  | next (line : Line) (comment : Option LineComment) (below : Layout)

end

/-- A file as it is laid out: the last line may lack its newline and hold a comment nevertheless. -/
structure FileLayout where
  /-- The body of the file. -/
  body : Layout
  /-- The comment at the end of the last line. -/
  comment : Option LineComment

def BlockComment.chars (c : BlockComment) : List Char :=
  '/' :: '*' :: (c.text ++ ['*', '/'])

def LineComment.chars (c : LineComment) : List Char :=
  (if c.hash then ['#'] else ['/', '/']) ++ c.text

/-- The comment, if there is one. -/
def commentChars (comment : Option LineComment) : List Char :=
  comment.elim [] LineComment.chars

/-- The comments with the blanks behind them. -/
def commentsChars (comments : List (BlockComment × Gap)) : List Char :=
  comments.flatMap fun (c, g) => c.chars ++ g.chars

def Filler.chars (f : Filler) : List Char :=
  f.gap.chars ++ commentsChars f.comments

def Scalar.chars : Scalar → List Char
  | number n => n.chars
  | text s => quoted s

def BlockLabel.chars : BlockLabel → List Char
  | name n => n.chars
  | text s => quoted s

/-- The labels with the blanks in front of them. -/
def labelsChars (labels : List (Separator × BlockLabel)) : List Char :=
  labels.flatMap fun (g, l) => g.chars ++ l.chars

mutual

def Entry.chars : Entry → List Char
  | .attribute name before behind value =>
    name.chars ++ (before.chars ++ '=' :: (behind.chars ++ value.chars))
  | .block type labels gap body =>
    type.chars ++ (labelsChars labels ++ (gap.chars ++ '\x7b' :: (body.chars ++ ['\x7d'])))

def Line.chars : Line → List Char
  | .empty filler => filler.chars
  | .entry before entry behind => before.chars ++ (entry.chars ++ behind.chars)

def Layout.chars : Layout → List Char
  | .last line => line.chars
  | .next line comment below => line.chars ++ (commentChars comment ++ '\n' :: below.chars)

end

/-- The text of the file. -/
def FileLayout.text (l : FileLayout) : String :=
  String.ofList (l.body.chars ++ commentChars l.comment)

mutual

/-- What the entry says. -/
def Entry.node : Entry → Node
  | .attribute name _ _ value => .attribute name value
  | .block type labels _ body => .block type (labels.map Prod.snd) body.nodes

/-- What the line says. -/
def Line.nodes : Line → List Node
  | .empty _ => []
  | .entry _ entry _ => [entry.node]

/-- What the body says, in order. -/
def Layout.nodes : Layout → List Node
  | .last line => line.nodes
  | .next line _ below => line.nodes ++ below.nodes

end

/-! ## Between items -/

section Fillers

variable {form : Form} {first : Pos} {Q : Except ReadError Reader → Prop} {s : Newlines}
  {r : Reader} {m : Mark} {rest cs : List Char}

theorem commentEnd?_append (h : ¬ ['*', '/'] <:+: cs) :
    commentEnd? (cs ++ '*' :: '/' :: rest) = some (cs.length + 2) := by
  induction cs with
  | nil => rfl
  | cons c cs ih =>
    have hcs : ¬ ['*', '/'] <:+: cs := fun hinfix => h (List.infix_cons hinfix)
    rw [List.cons_append, commentEnd?.eq_2, ih hcs, List.length_cons]
    · rfl
    · rintro more rfl hmore
      cases cs with
      | nil => cases hmore
      | cons d cs =>
        obtain rfl := (List.cons.inj hmore).1
        exact h ⟨[], cs, rfl⟩

/-- Where no literal text can stand a comment between `/*` and `*/` is passed over. -/
theorem Gives.blockComment (c : BlockComment) (hm : m.rest = c.chars ++ rest)
    (htext : allows r.accepts .textChars = false)
    (htemplate : allows r.accepts .templateChars = false)
    (h : ∀ m', m'.rest = rest → Gives form first Q s r m') : Gives form first Q s r m := by
  have hlength : Kind.blockComment.lengthAt m.rest = c.chars.length := by
    have hend : commentEnd? (c.text ++ '*' :: '/' :: rest) = some (c.text.length + 2) :=
      commentEnd?_append c.not_closed
    rw [hm]
    simp only [BlockComment.chars, List.cons_append, List.append_assoc, List.nil_append,
      Kind.lengthAt, hend, Option.map_some, Option.getD_some, List.length_cons, List.length_append,
      List.length_nil]
  refine .skip .blockComment hm (by simp [BlockComment.chars]) ?_ rfl h
  -- No other token begins with these characters where no literal text can stand.
  refine firstToken?_eq [.callName, .textChars, .templateChars, .heredoc, .number, .name,
    .lineComment] _ rfl ?_ (by simp [allows, Kind.ignored]) hlength (by simp [BlockComment.chars])
  intro k hk hallowed
  rw [hm]
  simp only [List.mem_cons, List.not_mem_nil, or_false] at hk
  rcases hk with rfl | rfl | rfl | rfl | rfl | rfl | rfl
  case inr.inl => rw [htext] at hallowed; cases hallowed
  case inr.inr.inl => rw [htemplate] at hallowed; cases hallowed
  all_goals rfl

/-- A comment at the end of a line is passed over, up to the newline. -/
theorem Gives.lineComment (c : LineComment) (hm : m.rest = c.chars ++ rest) (hrest : EndsLine rest)
    (htext : allows r.accepts .textChars = false)
    (htemplate : allows r.accepts .templateChars = false)
    (h : ∀ m', m'.rest = rest → Gives form first Q s r m') : Gives form first Q s r m := by
  -- The comment ends where the line does.
  have hcount : countWhile (· != '\n') (c.text ++ rest) = c.text.length := by
    refine countWhile_eq_of_stop (fun d hd => bne_iff_ne.2 fun heq => ?_) fun d hd => ?_
    · exact c.newline_not_mem (heq ▸ hd)
    · simp [hrest d hd]
  have hlength : Kind.lineComment.lengthAt m.rest = c.chars.length := by
    rw [hm, LineComment.chars]
    cases c.hash <;> simp [Kind.lengthAt, hcount]
  have hne : c.chars ≠ [] := by
    rw [LineComment.chars]
    cases c.hash <;> simp
  refine .skip .lineComment hm hne ?_ rfl h
  refine firstToken?_eq [.callName, .textChars, .templateChars, .heredoc, .number, .name] _ rfl ?_
    (by simp [allows, Kind.ignored]) hlength (by simpa using hne)
  intro k hk hallowed
  rw [hm, LineComment.chars]
  simp only [List.mem_cons, List.not_mem_nil, or_false] at hk
  rcases hk with rfl | rfl | rfl | rfl | rfl | rfl
  case inr.inl => rw [htext] at hallowed; cases hallowed
  case inr.inr.inl => rw [htemplate] at hallowed; cases hallowed
  all_goals cases c.hash <;> rfl

/-- Blanks and closed comments are passed over, whatever stands behind them. -/
theorem Gives.filler (f : Filler) (hm : m.rest = f.chars ++ rest)
    (hrest : ∀ c, rest.head? = some c → isBlankChar c = false)
    (htext : allows r.accepts .textChars = false)
    (htemplate : allows r.accepts .templateChars = false)
    (h : ∀ m', m'.rest = rest → Gives form first Q s r m') : Gives form first Q s r m := by
  obtain ⟨gap, comments⟩ := f
  rw [Filler.chars, List.append_assoc] at hm
  induction comments generalizing gap m with
  | nil => exact .gap gap hm hrest htext htemplate h
  | cons comment comments ih =>
    obtain ⟨c, g⟩ := comment
    rw [commentsChars, List.flatMap_cons, ← commentsChars, List.append_assoc,
      List.append_assoc] at hm
    refine .gap gap hm (by rintro _ ⟨⟩; rfl) htext htemplate fun m₁ hm₁ => ?_
    exact .blockComment c hm₁ htext htemplate fun m₂ hm₂ => ih g hm₂

end Fillers

/-! ## The reader between items -/

/-- The constructs, given the items that have been read, are inside of a body. -/
structure IsBody (frames : List (Draft Item) → List Frame) : Prop where
  /-- A name is accepted, and in a block a closing brace. -/
  accepts : ∀ items, Reader.accepts ⟨none, frames items⟩ = [.name] ∨
    Reader.accepts ⟨none, frames items⟩ = [.name, .closeBrace]
  /-- A name begins an item. -/
  name : ∀ items t heredoc, Token.kind t = .name →
    Reader.feedOpen (frames items) t heredoc = Reader.inside (.header t [] :: frames items)
  /-- A newline changes nothing. -/
  newline : ∀ items t heredoc, Token.kind t = .newline →
    Reader.feedOpen (frames items) t heredoc = Reader.inside (frames items)
  /-- Items are collected. -/
  addItem : ∀ item items,
    Reader.addItem item (frames items) = Reader.inside (frames (item :: items))

theorem isBody_file : IsBody fun items => [.file items] where
  accepts := by rintro (_ | ⟨item, items⟩) <;> simp [Reader.accepts, Frame.accepts]
  name := by intro items t heredoc ht; simp only [Reader.feedOpen, ht]
  newline := by intro items t heredoc ht; simp only [Reader.feedOpen, ht]
  addItem := fun _ _ => rfl

theorem isBody_block (type : Token) (labels : List Label) (outer : List Frame) :
    IsBody fun items => .block type labels items :: outer where
  accepts := fun _ => .inr rfl
  name := by intro items t heredoc ht; simp only [Reader.feedOpen, ht]
  newline := by intro items t heredoc ht; simp only [Reader.feedOpen, ht]
  addItem := fun _ _ => rfl

/-- The next newline, be it written or called for by the layout, leads into the constructs `frames`
of a body. Behind a newline, and behind the brace that opens the body, the reader is there. -/
structure Rests (frames : List Frame) (s : Newlines) (r : Reader) : Prop where
  /-- What can come first in the body. -/
  inside : Reader.accepts ⟨none, frames⟩ = [.name] ∨
    Reader.accepts ⟨none, frames⟩ = [.name, .closeBrace]
  /-- What can come next. -/
  accepts : r.accepts = Reader.accepts ⟨none, frames⟩ ∨ r.accepts = afterOperandKinds
  /-- A newline leads there. -/
  newline : ∀ t, Token.kind t = .newline → r.feed (.ok []) t = some ⟨none, frames⟩
  /-- Where no newline is called for, the reader is there. -/
  ended : (∀ l, s.last = some l → l.kind = .newline ∨ l.kind = .openBrace) → r = ⟨none, frames⟩

/-- A newline ends an item where these brackets are open. -/
def InBody (brackets : List Bracket) : Prop :=
  brackets.head?.all (· == .block) = true

section Resting

variable {first : Pos} {Q : Except ReadError Reader → Prop} {s : Newlines} {r : Reader} {m : Mark}
  {rest : List Char} {frames : List Frame}

theorem IsBody.rests {body : List (Draft Item) → List Frame} (h : IsBody body)
    (items : List (Draft Item)) (s : Newlines) : Rests (body items) s ⟨none, body items⟩ where
  inside := h.accepts items
  accepts := .inl rfl
  newline := fun t ht => h.newline items t _ ht
  ended := fun _ => rfl

theorem Rests.accepts_cases (h : Rests frames s r) :
    r.accepts = [.name] ∨ r.accepts = [.name, .closeBrace] ∨ r.accepts = afterOperandKinds := by
  rcases h.accepts with haccepts | haccepts
  · rw [haccepts]
    exact h.inside.imp_right .inl
  · exact .inr (.inr haccepts)

theorem Rests.allows_text (h : Rests frames s r) : allows r.accepts .textChars = false := by
  rcases h.accepts_cases with haccepts | haccepts | haccepts <;> rw [haccepts] <;> rfl

theorem Rests.allows_template (h : Rests frames s r) :
    allows r.accepts .templateChars = false := by
  rcases h.accepts_cases with haccepts | haccepts | haccepts <;> rw [haccepts] <;> rfl

theorem Rests.firstToken?_newline (h : Rests frames s r) (cs : List Char) :
    firstToken? (allows r.accepts) ('\n' :: cs) = some (.newline, 1) := by
  rcases h.accepts_cases with haccepts | haccepts | haccepts <;> rw [haccepts] <;> rfl

/-- A comment at the end of a line is passed over. -/
theorem Rests.comment (h : Rests frames s r) (comment : Option LineComment)
    (hm : m.rest = commentChars comment ++ rest) (hrest : EndsLine rest)
    (hnext : ∀ m', m'.rest = rest → Gives .file first Q s r m') : Gives .file first Q s r m := by
  cases comment with
  | none => exact hnext m hm
  | some c => exact .lineComment c hm hrest h.allows_text h.allows_template hnext

/-- Behind the end of a line the reader is at the start of the next item. -/
theorem Rests.lineEnd (h : Rests frames s r) (hs : InBody s.brackets)
    (comment : Option LineComment) (hm : m.rest = commentChars comment ++ '\n' :: rest)
    (hnext : ∀ s' m', Newlines.brackets s' = s.brackets → m'.rest = rest →
      Gives .file first Q s' ⟨none, frames⟩ m') : Gives .file first Q s r m := by
  refine h.comment comment hm (by rintro _ ⟨⟩; rfl) fun m₁ hm₁ => ?_
  by_cases hends : s.endsItem = true
  · exact .newline hm₁ hends h.firstToken?_newline (h.newline _ rfl) fun t m' _ hm' =>
      hnext ⟨s.brackets, some t⟩ m' rfl hm'
  · -- The newline is dropped, since another one or nothing at all stands in front of it.
    have hr : r = ⟨none, frames⟩ := by
      refine h.ended fun l hl => .inl ?_
      have hbrackets : s.brackets.head?.all (· == .block) = true := hs
      simp only [Newlines.endsItem, hbrackets, hl, Newlines.lastIs] at hends
      simpa using hends
    have hstep : s.step (m₁.token .newline 1) = ([], s) := by
      have hkind : (m₁.token .newline 1).kind = .newline := rfl
      rw [Newlines.step, if_pos hkind, if_neg hends]
    have hm₁' : m₁.rest = ['\n'] ++ rest := hm₁
    refine .take .newline hm₁' (by simp) ?_ (by rintro ⟨⟩) rfl (by simp) hstep rfl fun m₂ hm₂ => ?_
    · rw [hm₁]
      exact h.firstToken?_newline _
    · rw [hr]
      exact hnext s m₂ rfl hm₂

/-- Behind the brace that closes a block the reader is at the start of the next item. -/
theorem Rests.closeBrace {type : Token} {labels : List Label} {items before : List (Draft Item)}
    {body : List (Draft Item) → List Frame} {brackets : List Bracket} (hbody : IsBody body)
    (h : Rests (.block type labels items :: body before) s r)
    (hs : s.brackets = .block :: brackets) (hm : m.rest = '\x7d' :: rest)
    (hnext : ∀ s' m', Newlines.brackets s' = brackets → m'.rest = rest →
      Gives .file first Q s'
        ⟨none, body (Reader.blockItem type labels.reverse items.reverse :: before)⟩ m') :
    Gives .file first Q s r m := by
  have hfirst : firstToken? (allows r.accepts) m.rest = some (.closeBrace, 1) := by
    rw [hm]
    rcases h.accepts with haccepts | haccepts <;> rw [haccepts] <;> rfl
  have hm' : m.rest = ['\x7d'] ++ rest := hm
  generalize hframes : body (Reader.blockItem type labels.reverse items.reverse :: before) = frames
    at hnext
  generalize ht : m.token .closeBrace 1 = t
  have hkind : t.kind = .closeBrace := by rw [← ht]; rfl
  -- The brace ends the block, and the newline behind it changes nothing.
  have hclose : Reader.feedAll (.ok []) ⟨none, .block type labels items :: body before⟩
      [t, t.newlineAt] = .ok ⟨none, frames⟩ := by
    have hbrace : Reader.feed ⟨none, .block type labels items :: body before⟩ (.ok []) t =
        some ⟨none, frames⟩ := by
      simp only [Reader.feed, Reader.feedOpen, hkind, hbody.addItem, hframes]
      rfl
    have hbehind : Reader.feed ⟨none, frames⟩ (.ok []) t.newlineAt = some ⟨none, frames⟩ :=
      hframes ▸ hbody.newline _ _ _ rfl
    simp only [Reader.feedAll, hbrace, hbehind]
  have hthrough : ∃ through, s.step t = (through, ⟨brackets, some t.newlineAt⟩) ∧
      r.feedAll (.ok []) through = .ok ⟨none, frames⟩ := by
    by_cases hended : ∀ l, s.last = some l → l.kind = .newline ∨ l.kind = .openBrace
    · have hstep : s.step t = ([t, t.newlineAt], ⟨brackets, some t.newlineAt⟩) := by
        cases hlast : s.last with
        | none => simp [Newlines.step, Newlines.opens, Newlines.closes, hkind, hs, hlast]
        | some l =>
          simp [Newlines.step, Newlines.opens, Newlines.closes, hkind, hs, hlast, hended l hlast]
      rw [h.ended hended]
      exact ⟨_, hstep, hclose⟩
    · -- The last item lacks its newline, which the layout adds in front of the brace.
      simp only [not_forall] at hended
      obtain ⟨l, hlast, hlkind⟩ := hended
      have hstep : s.step t =
          ([l.newlineAt, t, t.newlineAt], ⟨brackets, some t.newlineAt⟩) := by
        simp [Newlines.step, Newlines.opens, Newlines.closes, hkind, hs, hlast, hlkind]
      refine ⟨_, hstep, ?_⟩
      rw [Reader.feedAll]
      simp only [h.newline l.newlineAt rfl]
      exact hclose
  obtain ⟨through, hstep, hfeed⟩ := hthrough
  rw [← ht] at hstep
  refine .take .closeBrace hm' (by simp) hfirst (by rintro ⟨⟩) rfl (by simp) hstep hfeed
    fun m₁ hm₁ => hnext _ m₁ rfl hm₁

end Resting

end ResourceTables.Native
