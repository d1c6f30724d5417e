import ResourceTables.Eval.Evaluate
import ResourceTables.Proofs.Encodings.Declarations
import ResourceTables.Proofs.Encodings.NativeTokens

/-!
# Reading native files

What the reader makes of a file with declarations in the native notation, and of a text that is
written as a template.

* `Constant.Means`, `Argument.Sets`, `Declaration.Item`: an expression, an attribute and a block are
  what was written;
* `Native.Gives.quoted`, `Native.Gives.constant`, `Native.Gives.argument`,
  `Native.Gives.declaration`: reading on behind each of the parts of a file;
* `Native.drafted_parse`: a file gives the blocks of its declarations in order, unless a number is
  out of range;
* `Native.parseTemplate_doubled`: a text with its sequences doubled is a template of one text.
-/

namespace ResourceTables

/-! ## What is read -/

namespace Native.Part

theorem ofItems_text (s : String) : ofItems [.text s] = .ok (addText s []) := by
  have hnest : ofItems [.text s] = .ok (addText s []).reverse := rfl
  rw [hnest]
  unfold addText
  split <;> rfl

theorem literal?_addText (s : String) : ResourceTables.Part.literal? (addText s []) = some s := by
  unfold addText
  split
  · next h => rw [String.isEmpty_iff.1 h, ResourceTables.Part.literal?]
  · rw [ResourceTables.Part.literal?, ResourceTables.Part.literal?, Option.map_some,
      String.append_empty]

end Native.Part

/-- The expression has the value of the constant, whatever is in scope. -/
def Constant.Means (c : Constant) (e : Expr) : Prop :=
  ∀ scope, e.evaluate scope = .ok c.value

theorem Constant.means_addText (s : String) (o : Origin) :
    (Constant.text s).Means (.template o (Native.Part.addText s [])) := by
  intro scope
  unfold Native.Part.addText
  split
  · next h =>
    rw [String.isEmpty_iff.1 h]
    rfl
  · have hrender : (Expr.template o [.text s]).evaluate scope = .ok (.string (s ++ "")) := rfl
    rw [String.append_empty] at hrender
    exact hrender

/-- The attribute is set to what the argument says. -/
structure Argument.Sets (a : Argument) (x : Attribute) : Prop where
  /-- The names are the same. -/
  name : x.name = a.name
  /-- The expression has the argument's value. -/
  means : a.value.Means x.expr

/-- The item of a body sets the argument. -/
def Argument.Item (a : Argument) (item : Item) : Prop :=
  ∃ x, item = .attribute x ∧ a.Sets x

/-- The item of a body is the block of the declaration. -/
def Declaration.Item (d : Declaration) (item : Item) : Prop :=
  ∃ pos items, item = .block "resource" [d.type, d.name] pos items ∧
    List.Forall₂ Argument.Item d.arguments items

namespace Native

section Steps

variable {form : Form} {first : Pos} {Q : Except ReadError Reader → Prop} {s : Newlines}
  {r : Reader} {m : Mark} {rest : List Char}

/-! ## Tokens -/

/-- Blanks, tabs and the other white space within a line. -/
def isBlankChar (c : Char) : Bool :=
  isGap c || c == '\r' || c == '\x0c'

theorem countWhile_replicate {p : Char → Bool} {c : Char} (hblank : p ' ' = true)
    (hc : p c = false) (n : Nat) : countWhile p (List.replicate n ' ' ++ c :: rest) = n := by
  induction n with
  | zero =>
    rw [List.replicate_zero, List.nil_append, countWhile, hc]
    rfl
  | succ n ih => rw [List.replicate_succ, List.cons_append, countWhile, if_pos hblank, ih]

/-- Blanks are dropped where no literal text can stand. -/
theorem Gives.blanks {c : Char} (n : Nat) (hm : m.rest = List.replicate (n + 1) ' ' ++ c :: rest)
    (hc : isBlankChar c = false) (htext : allows r.accepts .textChars = false)
    (htemplate : allows r.accepts .templateChars = false)
    (h : ∀ m', m'.rest = c :: rest → Gives form first Q s r m') : Gives form first Q s r m := by
  have hlength : Kind.blank.lengthAt m.rest = (List.replicate (n + 1) ' ').length := by
    rw [hm, List.length_replicate]
    exact countWhile_replicate rfl hc (n + 1)
  have hfirst : firstToken? (allows r.accepts) m.rest =
      some (.blank, (List.replicate (n + 1) ' ').length) := by
    refine firstToken?_eq [.callName, .textChars, .templateChars, .heredoc, .number, .name,
      .lineComment, .blockComment] _ rfl ?_ ?_ hlength (by simp)
    · intro k hk hallowed
      rw [hm]
      simp only [List.mem_cons, List.not_mem_nil, or_false] at hk
      rcases hk with rfl | rfl | rfl | rfl | rfl | rfl | rfl | rfl
      all_goals first | rfl | (simp only [htext, htemplate, Bool.false_eq_true] at hallowed)
    · simp [allows, Kind.ignored]
  exact .skip .blank hm (by simp) hfirst rfl h

/-- The literal characters of a quoted text are decoded. -/
theorem expr_ofQuoted {raw : String} {cs : List Char} (h : decodeQuoted raw.toList = .ok cs)
    (start : Mark) (stop : Nat) :
    (Operand.ofQuoted start stop [.ok (.text raw)]).expr =
      .ok (.template (start.originTo stop) (Part.addText (String.ofList cs) [])) := by
  have hitem : Operand.decodeItem start.pos (.text raw) = .ok (.text (String.ofList cs)) := by
    simp only [Operand.decodeItem, h]
  simp only [Operand.ofQuoted, List.mapM_cons, List.mapM_nil, id, hitem, bind, Except.bind, pure,
    Except.pure, Part.ofItems_text]

/-- A text in quotes becomes an operand of the constructs that it is read in. -/
theorem Gives.quoted {frames : List Frame} {text : String} (hm : m.rest = quoted text ++ rest)
    (hquote : ∀ cs, firstToken? (allows r.accepts) ('"' :: cs) = some (.quote, 1))
    (hfeed : r.feed (.ok []) (m.token .quote 1) = Reader.inside (.quoted m [] :: frames))
    (h : ∀ x o m₀ m', x.expr = .ok (.template o (Part.addText text [])) → m'.rest = rest →
      Gives form first Q ⟨s.brackets, some (Mark.token m₀ .quote 1)⟩ ⟨some x, frames⟩ m') :
    Gives form first Q s r m := by
  have hopen : m.rest = ['"'] ++ (escaped text.toList ++ ['"'] ++ rest) := hm
  -- The closing quote ends the operand, with or without characters before it.
  have hclose : ∀ start items m' s', m'.rest = ['"'] ++ rest →
      (∀ m'', m''.rest = rest → Gives form first Q ⟨s'.brackets, some (m'.token .quote 1)⟩
        ⟨some (.ofQuoted start (m'.offset + 1) items.reverse), frames⟩ m'') →
      Gives form first Q s' ⟨none, .quoted start items :: frames⟩ m' := by
    intro start items m' s' hm' hnext
    refine .takePlain .quote rfl hm' (by simp) ?_ (by rintro ⟨⟩) rfl hnext
    rw [hm']
    rfl
  refine .takePlain .quote rfl hopen (by simp) ?_ (by rintro ⟨⟩) hfeed fun m₁ hm₁ => ?_
  · rw [hopen]
    exact hquote _
  -- Of an empty text there is no token between the quotes.
  by_cases hempty : escaped text.toList = []
  · rw [hempty] at hm₁
    have htext : text = "" := by
      have hdecoded := decodeQuoted_escaped text.toList
      rw [hempty] at hdecoded
      exact String.toList_eq_nil_iff.1 (Except.ok.inj hdecoded).symm
    refine hclose _ _ _ _ hm₁ fun m₂ hm₂ => h _ (m.originTo (m₁.offset + 1)) _ _ ?_ hm₂
    rw [htext]
    rfl
  · rw [List.append_assoc] at hm₁
    refine .takePlain .textChars rfl hm₁ hempty ?_ (by rintro ⟨⟩) rfl fun m₂ hm₂ => ?_
    · rw [hm₁]
      refine firstToken?_eq [.callName] _ rfl ?_ rfl (textLength_escaped _ _)
        (by simpa using hempty)
      intro k hk hallowed
      obtain rfl := List.mem_singleton.1 hk
      cases hallowed
    have hdecoded : decodeQuoted (m₁.token .textChars (escaped text.toList).length).text.toList =
        .ok text.toList := by
      rw [Mark.text_token hm₁, String.toList_ofList, decodeQuoted_escaped]
    have hexpr := expr_ofQuoted hdecoded m (m₂.offset + 1)
    rw [String.ofList_toList] at hexpr
    exact hclose _ _ _ _ hm₂ fun m₃ hm₃ => h _ _ _ _ hexpr hm₃

/-! ## Constants -/

theorem callNameLength_of_not_start {c : Char} {cs : List Char} (h : isNameStart c = false) :
    callNameLength (c :: cs) = 0 := by
  simp only [callNameLength, nameLength, h, Bool.false_eq_true, if_false, if_true]

/-- A digit begins no other token than a number. -/
theorem firstToken?_numeral (n : Numeral) (hrest : EndsNumeral rest) :
    firstToken? (allows operandKinds) (n.chars ++ rest) = some (.number, n.chars.length) := by
  obtain ⟨c, cs, hcs, hc⟩ := n.exists_digit
  have hdigit := mem_digits_of_isDigit hc
  have hname : isNameStart c = false := eq_false_of_mem_digits (by decide) hdigit
  have hmarker : c ≠ '<' :=
    ne_of_beq_false (eq_false_of_mem_digits (p := (· == '<')) (by decide) hdigit)
  -- Only calls and heredocs are allowed among the kinds that are tried before.
  refine firstToken?_eq [.callName, .textChars, .templateChars, .heredoc] _ rfl ?_ rfl
    (n.literalLength_append hrest) n.length_ne_zero
  intro k hk hallowed
  simp only [List.mem_cons, List.not_mem_nil, or_false] at hk
  rcases hk with rfl | rfl | rfl | rfl
  · rw [hcs]
    exact callNameLength_of_not_start hname
  · cases hallowed
  · cases hallowed
  · rw [hcs]
    simp [Kind.lengthAt, heredocLength, heredocHeader?, hmarker]

theorem drafted_ofNumber (n : Numeral) {t : Token} (ht : t.text = String.ofList n.chars) :
    Drafted (Constant.number n).withinLimits (Constant.number n).Means
      (Operand.ofNumber t).expr := by
  simp only [Operand.ofNumber, Operand.numberExpr, ht, String.toList_ofList]
  split
  · next h => exact .ok h fun scope => rfl
  · next h => exact .beyondLimits (Bool.eq_false_iff.2 h)

theorem expr_ofName_bool {b : Bool} {t : Token} (ht : t.text = String.ofList (encodeBool b)) :
    (Operand.ofName t).expr = .ok (.literal (t.start.originTo t.stop) (.bool b)) := by
  simp only [Operand.ofName, ht]
  cases b <;> rfl

theorem expr_ofName_null {t : Token} (ht : t.text = String.ofList encodeNull) :
    (Operand.ofName t).expr = .ok (.literal (t.start.originTo t.stop) .null) := by
  simp only [Operand.ofName, ht]
  rfl

/-- A constant becomes an operand of the attribute that is set to it. -/
theorem Gives.constant {name : Token} {outer : List Frame} (c : Constant)
    (hm : m.rest = encodeConstant c ++ '\n' :: rest)
    (h : ∀ x t m', Drafted c.withinLimits c.Means (Operand.expr x) → Token.kind t ≠ .newline →
      m'.rest = '\n' :: rest →
      Gives form first Q ⟨s.brackets, some t⟩ ⟨some x, .attribute name :: outer⟩ m') :
    Gives form first Q s ⟨none, .attribute name :: outer⟩ m := by
  cases c with
  | text text =>
    refine .quoted hm (fun _ => rfl) rfl fun x o m₀ m' hx hm' => ?_
    refine h x _ m' ?_ (by simp [Mark.token]) hm'
    rw [hx]
    exact .ok rfl (Constant.means_addText text o)
  | number n =>
    have hends : EndsNumeral ('\n' :: rest) := endsNumeral_cons rfl
    refine .takePlain .number rfl hm n.ne_nil ?_ (by rintro ⟨⟩) rfl fun m' hm' => ?_
    · rw [hm]
      exact firstToken?_numeral n hends
    · exact h _ _ m' (drafted_ofNumber n (Mark.text_token hm .number)) (by simp [Mark.token]) hm'
  | bool b =>
    have hne : encodeBool b ≠ [] := by cases b <;> simp [encodeBool]
    refine .takePlain .name rfl hm hne ?_ (fun _ => rfl) rfl fun m' hm' => ?_
    · rw [hm]
      cases b <;> rfl
    · refine h _ _ m' ?_ (by simp [Mark.token]) hm'
      rw [expr_ofName_bool (Mark.text_token hm .name)]
      exact .ok rfl fun scope => rfl
  | null =>
    have hne : encodeNull ≠ [] := by simp [encodeNull]
    refine .takePlain .name rfl hm hne ?_ (fun _ => rfl) rfl fun m' hm' => ?_
    · rw [hm]
      rfl
    · refine h _ _ m' ?_ (by simp [Mark.token]) hm'
      rw [expr_ofName_null (Mark.text_token hm .name)]
      exact .ok rfl fun scope => rfl

/-! ## Arguments -/

/-- A constant does not begin with a blank. -/
theorem exists_head_encodeConstant (c : Constant) :
    ∃ head tail, encodeConstant c = head :: tail ∧ isBlankChar head = false := by
  cases c with
  | text s => exact ⟨'"', _, rfl, rfl⟩
  | number n =>
    obtain ⟨c, cs, hcs, hc⟩ := n.exists_digit
    exact ⟨c, cs, hcs, eq_false_of_mem_digits (by decide) (mem_digits_of_isDigit hc)⟩
  | bool b => cases b <;> exact ⟨_, _, rfl, rfl⟩
  | null => exact ⟨_, _, rfl, rfl⟩

/-- An identifier does not begin with a blank. -/
theorem exists_head_identifier (a : Argument) :
    ∃ head tail, a.name.toList = head :: tail ∧ isBlankChar head = false := by
  obtain ⟨c, cs, hcs⟩ := List.exists_cons_of_ne_nil a.name_ne_nil
  have hlength := a.identifier
  rw [hcs, nameLength] at hlength
  split at hlength
  · next hstart =>
    refine ⟨c, cs, hcs, Bool.eq_false_iff.2 fun hblank => ?_⟩
    simp only [isBlankChar, isGap, Bool.or_eq_true, beq_iff_eq] at hblank
    rcases hblank with ((rfl | rfl) | rfl) | rfl <;> cases hstart
  · cases hlength

theorem countWhile_append {p : Char → Bool} {cs : List Char} {c : Char}
    (hcs : countWhile p cs = cs.length) (hc : p c = false) :
    countWhile p (cs ++ c :: rest) = cs.length := by
  induction cs with
  | nil =>
    rw [List.nil_append, countWhile, hc]
    rfl
  | cons d cs ih =>
    rw [countWhile] at hcs
    rw [List.cons_append, countWhile]
    split at hcs
    · next hd => rw [if_pos hd, ih (Nat.succ.inj hcs), List.length_cons]
    · cases hcs

theorem nameLength_append {cs : List Char} {c : Char} (hcs : nameLength cs = cs.length)
    (hne : cs ≠ []) (hc : isNameChar c = false) : nameLength (cs ++ c :: rest) = cs.length := by
  cases cs with
  | nil => exact absurd rfl hne
  | cons d cs =>
    rw [nameLength] at hcs
    rw [List.cons_append, nameLength]
    split at hcs
    · next hd => rw [if_pos hd, countWhile_append (Nat.succ.inj hcs) hc, List.length_cons]
    · cases hcs

/-- An identifier in front of a blank is a name. -/
theorem firstToken?_identifier (a : Argument) :
    firstToken? (allows [.name, .closeBrace]) (a.name.toList ++ ' ' :: rest) =
      some (.name, a.name.toList.length) := by
  refine firstToken?_eq [.callName, .textChars, .templateChars, .heredoc, .number] _ rfl ?_ rfl
    (nameLength_append a.identifier a.name_ne_nil rfl) (by simpa using a.name_ne_nil)
  intro k hk hallowed
  simp only [List.mem_cons, List.not_mem_nil, or_false] at hk
  rcases hk with rfl | rfl | rfl | rfl | rfl <;> cases hallowed

/-- A newline that is let through and taken. -/
theorem Gives.newline {r' : Reader} (hm : m.rest = '\n' :: rest) (hends : s.endsItem = true)
    (hfirst : ∀ cs, firstToken? (allows r.accepts) ('\n' :: cs) = some (.newline, 1))
    (hfeed : r.feed (.ok []) (m.token .newline 1) = some r')
    (h : ∀ t m', Token.kind t = .newline → m'.rest = rest →
      Gives form first Q ⟨s.brackets, some t⟩ r' m') : Gives form first Q s r m := by
  have hstep : s.step (m.token .newline 1) =
      ([m.token .newline 1], ⟨s.brackets, some (m.token .newline 1)⟩) := by
    have hkind : (m.token .newline 1).kind = .newline := rfl
    rw [Newlines.step, if_pos hkind, if_pos hends]
  have hfeedAll : r.feedAll (.ok []) [m.token .newline 1] = .ok r' := by
    simp only [Reader.feedAll, hfeed]
  have hm' : m.rest = ['\n'] ++ rest := hm
  refine .take .newline hm' (by simp) ?_ (by rintro ⟨⟩) rfl (by simp) hstep hfeedAll
    fun m' => h _ m' rfl
  rw [hm]
  exact hfirst _

/-- A newline ends an item of a block behind anything else. -/
theorem endsItem_block {t : Token} (ht : t.kind ≠ .newline) :
    Newlines.endsItem ⟨[.block], some t⟩ = true := by
  simp [Newlines.endsItem, Newlines.lastIs, ht]

/-- An argument becomes an item of the block that it stands in. -/
theorem Gives.argument {type : Token} {labels : List Label} {items : List (Draft Item)}
    {outer : List Frame} {last : Option Token} (a : Argument)
    (hm : m.rest = encodeArgument a ++ rest)
    (h : ∀ item t m', Drafted a.value.withinLimits a.Item item → Token.kind t = .newline →
      m'.rest = rest →
      Gives form first Q ⟨[.block], some t⟩
        ⟨none, .block type labels (item :: items) :: outer⟩ m') :
    Gives form first Q ⟨[.block], last⟩ ⟨none, .block type labels items :: outer⟩ m := by
  obtain ⟨n, ns, hn, hnblank⟩ := exists_head_identifier a
  obtain ⟨v, vs, hv, hvblank⟩ := exists_head_encodeConstant a.value
  -- Two spaces, the name, the sign between two more spaces, the value and the end of the line.
  have hm₀ : m.rest = List.replicate 2 ' ' ++ n :: (ns ++ ' ' :: '=' :: ' ' ::
      (encodeConstant a.value ++ '\n' :: rest)) := by
    rw [hm, encodeArgument, hn]
    simp [List.replicate]
  refine .blanks 1 hm₀ hnblank rfl rfl fun m₁ hm₁ => ?_
  rw [← List.cons_append, ← hn] at hm₁
  refine .takePlain .name rfl hm₁ a.name_ne_nil ?_ (fun _ => rfl) rfl fun m₂ hm₂ => ?_
  · rw [hm₁]
    exact firstToken?_identifier a
  refine .blanks 0 hm₂ rfl rfl rfl fun m₃ hm₃ => ?_
  have hm₃' : m₃.rest = ['='] ++ (' ' :: (encodeConstant a.value ++ '\n' :: rest)) := hm₃
  refine .takePlain .equal rfl hm₃' (by simp) ?_ (by rintro ⟨⟩) rfl fun m₄ hm₄ => ?_
  · rw [hm₃]
    rfl
  rw [hv, List.cons_append] at hm₄
  refine .blanks 0 hm₄ hvblank rfl rfl fun m₅ hm₅ => ?_
  rw [← List.cons_append, ← hv] at hm₅
  refine .constant a.value hm₅ fun x t m₆ hx ht hm₆ => ?_
  refine .newline hm₆ (endsItem_block ht) (fun _ => rfl) rfl fun t m₇ ht hm₇ => ?_
  refine h _ t m₇ (hx.map fun e he => ?_) ht hm₇
  refine ⟨_, rfl, ?_, he⟩
  rw [Mark.text_token hm₁ .name, String.ofList_toList]

/-! ## Blocks -/

/-- The arguments become items of the block one after the other. -/
theorem Gives.arguments {type : Token} {labels : List Label} {items : List (Draft Item)}
    {outer : List Frame} {last : Token} (as : List Argument) (hlast : last.kind = .newline)
    (hm : m.rest = as.flatMap encodeArgument ++ rest)
    (h : ∀ read t m',
      List.Forall₂ (fun a item => Drafted a.value.withinLimits a.Item item) as read →
      Token.kind t = .newline → m'.rest = rest →
      Gives form first Q ⟨[.block], some t⟩
        ⟨none, .block type labels (read.reverse ++ items) :: outer⟩ m') :
    Gives form first Q ⟨[.block], some last⟩ ⟨none, .block type labels items :: outer⟩ m := by
  -- Each argument begins behind a newline, and leaves one behind; the frame holds items in reverse.
  induction as generalizing items last m with
  | nil => exact h [] last m .nil hlast hm
  | cons a as ih =>
    rw [List.flatMap_cons, List.append_assoc] at hm
    refine .argument a hm fun item t m₁ hitem ht hm₁ => ?_
    refine ih ht hm₁ fun read t m' hread ht hm' => ?_
    have hnext := h (item :: read) t m' (.cons hitem hread) ht hm'
    rwa [List.reverse_cons, List.append_assoc, List.singleton_append] at hnext

/-- The brace that closes a block ends the block's item too. -/
theorem step_closeBrace {t b : Token} {outer : List Bracket} (ht : t.kind = .newline)
    (hb : b.kind = .closeBrace) :
    Newlines.step ⟨.block :: outer, some t⟩ b = ([b, b.newlineAt], ⟨outer, some b.newlineAt⟩) := by
  simp [Newlines.step, Newlines.opens, Newlines.closes, ht, hb]

/-- A block with two labels in quotes is what its type, its labels and its items say. -/
theorem blockItem_quoted {type : Token} {x y : Operand} {o o' : Origin} {s s' : String}
    (hx : x.expr = .ok (.template o (Part.addText s [])))
    (hy : y.expr = .ok (.template o' (Part.addText s' []))) (items : List (Draft Item)) :
    Reader.blockItem type [.quoted x, .quoted y] items =
      (items.mapM id).map (.block type.text [s, s'] type.start.pos) := by
  have hlabels : [Label.quoted x, .quoted y].mapM Reader.labelDraft =
      .ok [.inr (.template o (Part.addText s [])), .inr (.template o' (Part.addText s' []))] := by
    simp only [List.mapM_cons, List.mapM_nil, Reader.labelDraft, hx, hy]
    rfl
  have htexts : [Sum.inr (Expr.template o (Part.addText s [])),
      .inr (.template o' (Part.addText s' []))].mapM Reader.labelText = .ok [s, s'] := by
    simp only [List.mapM_cons, List.mapM_nil, Reader.labelText, Part.literal?_addText]
    rfl
  simp only [Reader.blockItem, hlabels]
  cases items.mapM id with
  | error e => rfl
  | ok items =>
    simp only [bind, Except.bind, htexts]
    rfl

/-- A resource becomes an item of the file, if what stands between its braces is read as items with
the property `R`. -/
theorem Gives.resource {items : List (Draft Item)} {R : List (Draft Item) → Prop}
    (type name : String) (body rest : List Char) (hs : s.brackets = [])
    (hm : m.rest = ['r', 'e', 's', 'o', 'u', 'r', 'c', 'e', ' '] ++ Native.quoted type ++
      ' ' :: Native.quoted name ++ ' ' :: '\x7b' :: '\n' :: (body ++ '\x7d' :: '\n' :: rest))
    (hbody : ∀ type labels t m', Token.kind t = .newline →
      m'.rest = body ++ '\x7d' :: '\n' :: rest →
      (∀ read t m', R read → Token.kind t = .newline → m'.rest = '\x7d' :: '\n' :: rest →
        Gives form first Q ⟨[.block], some t⟩
          ⟨none, .block type labels read.reverse :: [.file items]⟩ m') →
      Gives form first Q ⟨[.block], some t⟩ ⟨none, .block type labels [] :: [.file items]⟩ m')
    (h : ∀ read t m', R read → Token.kind t = .newline → m'.rest = rest →
      Gives form first Q ⟨[], some t⟩ ⟨none, [.file
        ((read.mapM id).map (.block "resource" [type, name] m.pos) :: items)]⟩ m') :
    Gives form first Q s ⟨none, [.file items]⟩ m := by
  obtain ⟨brackets, last⟩ := s
  obtain rfl : brackets = [] := hs
  have hm₀ : m.rest = ['r', 'e', 's', 'o', 'u', 'r', 'c', 'e'] ++ (List.replicate 1 ' ' ++
      '"' :: (escaped type.toList ++ ['"'] ++ (' ' :: (Native.quoted name ++
        ' ' :: '\x7b' :: '\n' :: (body ++ '\x7d' :: '\n' :: rest))))) := by
    rw [hm]
    simp [Native.quoted]
  refine .takePlain .name rfl hm₀ (by simp) ?_ ?_ rfl fun m₁ hm₁ => ?_
  · rw [hm₀]
    cases items <;> rfl
  · cases items <;> exact fun _ => rfl
  -- The labels.
  refine .blanks 0 hm₁ rfl rfl rfl fun m₂ hm₂ => ?_
  refine .quoted hm₂ (fun _ => rfl) rfl fun x o m₃ m₄ hx hm₄ => ?_
  have hm₄' : m₄.rest = List.replicate 1 ' ' ++ '"' :: (escaped name.toList ++ ['"'] ++ _) := hm₄
  refine .blanks 0 hm₄' rfl rfl rfl fun m₅ hm₅ => ?_
  refine .quoted hm₅ (fun _ => rfl) rfl fun y o' m₆ m₇ hy hm₇ => ?_
  refine .blanks 0 hm₇ rfl rfl rfl fun m₈ hm₈ => ?_
  have hm₈' : m₈.rest = ['\x7b'] ++ ('\n' :: (body ++ '\x7d' :: '\n' :: rest)) := hm₈
  refine .take .openBrace hm₈' (by simp) ?_ (by rintro ⟨⟩) rfl (by simp) rfl rfl fun m₉ hm₉ => ?_
  · rw [hm₈]
    rfl
  refine .newline hm₉ (endsItem_block (by simp [Mark.token])) (fun _ => rfl) rfl
    fun t m₁₀ ht hm₁₀ => ?_
  refine hbody _ _ t m₁₀ ht hm₁₀ fun read t m₁₁ hread ht hm₁₁ => ?_
  -- Behind the closing brace the layout adds a newline, and the one that is written is dropped.
  have hm₁₁' : m₁₁.rest = ['\x7d'] ++ ('\n' :: rest) := hm₁₁
  refine .take .closeBrace hm₁₁' (by simp) ?_ (by rintro ⟨⟩) rfl (by simp)
    (step_closeBrace ht rfl) rfl fun m₁₂ hm₁₂ => ?_
  · rw [hm₁₁]
    rfl
  have hm₁₂' : m₁₂.rest = ['\n'] ++ rest := hm₁₂
  refine .take .newline hm₁₂' (by simp) ?_ (by rintro ⟨⟩) rfl (by simp) rfl rfl fun m' hm' => ?_
  · rw [hm₁₂]
    rfl
  have htype : (m.token .name 8).text = "resource" := Mark.text_token hm₀ .name
  have hitem : Reader.blockItem (m.token .name 8) [.quoted x, .quoted y] read.reverse.reverse =
      (read.mapM id).map (.block "resource" [type, name] m.pos) := by
    rw [List.reverse_reverse, blockItem_quoted hx hy, htype]
    rfl
  have hnext : ∀ t, Token.kind t = .newline → Gives form first Q ⟨[], some t⟩ ⟨none, [.file
      (Reader.blockItem (m.token .name 8) [.quoted x, .quoted y] read.reverse.reverse :: items)]⟩
        m' := by
    intro t ht
    rw [hitem]
    exact h read t m' hread ht hm'
  exact hnext _ rfl

/-- A declaration becomes an item of the file. -/
theorem Gives.declaration {items : List (Draft Item)} (d : Declaration) (hs : s.brackets = [])
    (hm : m.rest = encodeDeclaration d ++ rest)
    (h : ∀ item t m', Drafted d.withinLimits d.Item item → Token.kind t = .newline →
      m'.rest = rest → Gives form first Q ⟨[], some t⟩ ⟨none, [.file (item :: items)]⟩ m') :
    Gives form first Q s ⟨none, [.file items]⟩ m := by
  refine resource (R := List.Forall₂ (fun a item => Drafted a.value.withinLimits a.Item item)
    d.arguments) d.type d.name (d.arguments.flatMap encodeArgument) rest hs ?_ ?_ ?_
  · rw [hm, encodeDeclaration]
    simp
  · intro type labels t m' ht hm' hnext
    refine .arguments d.arguments ht hm' fun read t m'' hread ht hm'' => ?_
    rw [List.append_nil]
    exact hnext read t m'' hread ht hm''
  · intro read t m' hread ht hm'
    refine h _ t m' ?_ ht hm'
    have hall : Drafted d.withinLimits (List.Forall₂ Argument.Item d.arguments) (read.mapM id) :=
      .mapM hread
    exact hall.map fun content hcontent => ⟨m.pos, content, rfl, hcontent⟩

/-! ## Files -/

/-- The declarations become the items of the file, in order. -/
theorem Gives.declarations {items : List (Draft Item)} (ds : List Declaration)
    (hs : s.brackets = []) (hfinish : s.finish = []) (hm : m.rest = ds.flatMap encodeDeclaration)
    (h : ∀ read, List.Forall₂ (fun d item => Drafted d.withinLimits d.Item item) ds read →
      Q (.ok ⟨none, [.file (read.reverse ++ items)]⟩)) :
    Gives .file first Q s ⟨none, [.file items]⟩ m := by
  -- Behind each declaration no bracket is open, and no newline is owed at the end of the file.
  induction ds generalizing s items m with
  | nil =>
    refine .stop hm ?_
    have hend : finish .file first s ⟨none, [.file items]⟩ = .ok ⟨none, [.file items]⟩ := by
      simp only [finish, hfinish]
      rfl
    rw [hend]
    exact h [] .nil
  | cons d ds ih =>
    refine .declaration d hs hm fun item t m₁ hitem ht hm₁ => ?_
    have hfinish' : Newlines.finish ⟨[], some t⟩ = [] := by simp [Newlines.finish, ht]
    refine ih rfl hfinish' hm₁ fun read hread => ?_
    have hnext := h (item :: read) (.cons hitem hread)
    rwa [List.reverse_cons, List.append_assoc, List.singleton_append] at hnext

end Steps

/-- A file gives the blocks of its declarations, unless a number in it is out of range. -/
theorem drafted_parse (file : String) (ds : List Declaration) :
    Drafted (ds.all Declaration.withinLimits)
      (fun body => ∃ items, body = .native items ∧ List.Forall₂ Declaration.Item ds items)
      (parse file (encodeFile ds)) := by
  -- The reader takes the whole file, and what it has taken is the items.
  have hgives : Gives .file ⟨file, 1, 1⟩ (fun result => ∃ items,
      result = .ok ⟨none, [.file items.reverse]⟩ ∧
        List.Forall₂ (fun d item => Drafted d.withinLimits d.Item item) ds items) {} Reader.file
      (Mark.start file 1 (encodeFile ds).toList) := by
    refine .declarations ds rfl rfl String.toList_ofList fun items hitems => ?_
    exact ⟨items, by rw [List.append_nil], hitems⟩
  obtain ⟨items, hread, hitems⟩ := hgives _ (Nat.lt_succ_self _)
  have hparse : parseItems file (encodeFile ds) = items.mapM id := by
    have hread' : read .file Reader.file file 1 (encodeFile ds) =
        .ok ⟨none, [.file items.reverse]⟩ := hread
    have hitems? : parseItems file (encodeFile ds) = items.reverse.reverse.mapM id := by
      rw [parseItems, hread']
      rfl
    rw [hitems?, List.reverse_reverse]
  rw [parse, hparse]
  exact (Drafted.mapM hitems).map fun content hcontent => ⟨content, rfl, hcontent⟩

/-! ## Templates -/

/-- The literal characters of a template are decoded. -/
theorem parts?_text {raw : String} (s : String) (h : decodeTemplate raw.toList = s.toList) :
    Reader.parts? ⟨none, [.template [.ok (.text raw)]]⟩ = some (.ok (Part.addText s [])) := by
  have hdecoded : Reader.parts? ⟨none, [.template [.ok (.text raw)]]⟩ =
      some (Part.ofItems [.text (String.ofList (decodeTemplate raw.toList))]) := rfl
  rw [hdecoded, h, String.ofList_toList, Part.ofItems_text]

/-- A text with its sequences doubled gives a reader that holds the text. -/
theorem Gives.template {first : Pos} {m : Mark} {s : String} (hm : m.rest = doubled s.toList) :
    Gives .template first (fun result => ∃ r, result = .ok r ∧
      r.parts? = some (.ok (Part.addText s []))) {} Reader.template m := by
  -- The empty template has no token at all.
  by_cases hempty : doubled s.toList = []
  · refine .stop (hm.trans hempty) ⟨_, rfl, ?_⟩
    rw [String.toList_eq_nil_iff.1 (doubled_eq_nil_iff.1 hempty)]
    rfl
  · have hm₀ : m.rest = doubled s.toList ++ [] := by rw [hm, List.append_nil]
    refine .takePlain .templateChars rfl hm₀ hempty ?_ (by rintro ⟨⟩) rfl fun m' hm' => ?_
    · rw [hm]
      refine firstToken?_eq [.callName, .textChars] _ rfl ?_ rfl (templateLength_doubled _)
        (by simpa using hempty)
      intro k hk hallowed
      simp only [List.mem_cons, List.not_mem_nil, or_false] at hk
      rcases hk with rfl | rfl <;> cases hallowed
    · refine .stop hm' ⟨_, rfl, parts?_text s ?_⟩
      rw [Mark.text_token hm₀ .templateChars, String.toList_ofList, decodeTemplate_doubled]

/-- A text with its sequences doubled is read as a template of this text. -/
theorem parseTemplate_doubled (file : String) (line : Nat) (s : String) :
    parseTemplate file line (String.ofList (doubled s.toList)) = .ok (Part.addText s []) := by
  have hgives : Gives .template ⟨file, line, 1⟩ _ {} Reader.template
      (Mark.start file line (String.ofList (doubled s.toList)).toList) :=
    .template String.toList_ofList
  obtain ⟨r, hread, hr⟩ := hgives _ (Nat.lt_succ_self _)
  have hread' : read .template Reader.template file line (String.ofList (doubled s.toList)) =
      .ok r := hread
  rw [parseTemplate, hread']
  simp only [bind, Except.bind, hr]
  rfl

end Native

end ResourceTables
