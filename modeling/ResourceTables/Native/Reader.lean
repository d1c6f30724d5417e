import ResourceTables.Native.Frame

/-!
# Reading tokens

A reader takes the tokens of a native text one by one. It holds the open constructs and, behind a
complete operand, that operand: whether a token ends it, continues it or cannot stand there depends
on the innermost construct only. Operators are put together as soon as the next token shows that
they bind tighter than what follows.
-/

namespace ResourceTables.Native

/-- What has been read so far. -/
structure Reader where
  /-- The operand that was read last and is not part of its construct yet. -/
  operand : Option Operand
  /-- The open constructs, innermost first. -/
  frames : List Frame

namespace Reader

/-- A reader at the start of a file. -/
def file : Reader := ⟨none, [.file []]⟩

/-- A reader at the start of a template that stands on its own. -/
def template : Reader := ⟨none, [.template []]⟩

/-- A reader that has completed an operand in the given constructs. -/
def after (x : Operand) (frames : List Frame) : Option Reader :=
  some ⟨some x, frames⟩

/-- A reader that has just entered the first of the given constructs. -/
def inside (frames : List Frame) : Option Reader :=
  some ⟨none, frames⟩

/-- The kinds that are accepted next, besides newlines and what is ignored. -/
def accepts (r : Reader) : List Kind :=
  match r.operand, r.frames with
  | some _, _ => afterOperandKinds
  | none, frame :: _ => frame.accepts
  | none, [] => []

/-- The labels of a block as texts, once what they say is known. -/
def labelText : String ⊕ Expr → Draft String
  | .inl s => .ok s
  | .inr e =>
    match e with
    | .template o parts =>
      match Part.literal? parts with
      | some s => .ok s
      | none => .error (Part.faultAt o.pos .interpolatedLabel)
    | e => .error (Part.faultAt e.pos .interpolatedLabel)

/-- What a label says. -/
def labelDraft : Label → Draft (String ⊕ Expr)
  | .plain s => .ok (.inl s)
  | .quoted x => x.expr.map .inr

/-- A block from its type, its labels and the items of its body, in order. A fault in the body
comes before a label that is not a plain text. -/
def blockItem (type : Token) (labels : List Label) (items : List (Draft Item)) : Draft Item := do
  let labels ← labels.mapM labelDraft
  let items ← items.mapM id
  return .block type.text (← labels.mapM labelText) type.start.pos items

/-- The constructs with one more item in the innermost body. -/
def addItem (item : Draft Item) : List Frame → Option Reader
  | .file items :: outer => inside (.file (item :: items) :: outer)
  | .block type labels items :: outer => inside (.block type labels (item :: items) :: outer)
  | _ => none

/-- The constructs with one more item in the innermost template. -/
def addTemplateItem (item : Draft TemplateItem) : List Frame → Option Reader
  | .quoted start items :: outer => inside (.quoted start (item :: items) :: outer)
  | .template items :: outer => inside (.template (item :: items) :: outer)
  | _ => none

/-- An interpolation as an item of its template. -/
def interpItem (trim : Trim) (e : Operand) : Draft TemplateItem :=
  e.expr.map (.interp trim)

/-- A directive as an item of its template. -/
def directiveItem (trim : Trim) (pos : Pos) (d : Draft Directive) : Draft TemplateItem :=
  d.map (.directive trim pos)

/-- The first token of an operand; `heredoc` holds the template of a heredoc token. -/
def beginOperand (frames : List Frame) (t : Token) (heredoc : Draft (List Part)) :
    Option Reader :=
  match t.kind with
  | .name => after (.ofName t) frames
  | .number => after (.ofNumber t) frames
  | .heredoc => after (.ofHeredoc t heredoc) frames
  | .callName => inside (.callee t :: frames)
  | .quote => inside (.quoted t.start [] :: frames)
  | .openParen => inside (.parens t.start :: frames)
  | .openBracket => inside (.tuple t.start [] :: frames)
  | .openBrace => inside (.key t.start [] :: frames)
  | .minus => inside (.unary t.start .negate :: frames)
  | .bang => inside (.unary t.start .not :: frames)
  | _ => none

/-- The next token inside the directive `%\x7b` before its word. -/
def feedDirective (before : Bool) (outer : List Frame) (t : Token) : Option Reader :=
  let pos := t.start.pos
  let ends (d : Directive) : Option Reader :=
    inside (.directiveEnd ⟨before, false⟩ pos (.ok d) false :: outer)
  match t.kind with
  | .strip => if before then none else inside (.directive true :: outer)
  | .word .cond => inside (.directiveIf before pos :: outer)
  | .word .loop => inside (.loopName (.directive before pos) :: outer)
  | .word .otherwise => ends .otherwise
  | .word .endCond => ends .endCond
  | .word .endLoop => ends .endLoop
  | _ => none

/-- The next token inside a quoted text or a template: literal characters, or what opens an
interpolation or a directive. -/
def feedTemplate (frames : List Frame) (t : Token) : Option Reader :=
  match t.kind with
  | .textChars | .templateChars => addTemplateItem (.ok (.text t.text)) frames
  | .openInterp => inside (.interp false :: frames)
  | .openDirective => inside (.directive false :: frames)
  | _ => none

/-- The next token where no operand is complete: it must be what the innermost construct waits
for. -/
def feedOpen (frames : List Frame) (t : Token) (heredoc : Draft (List Part)) : Option Reader :=
  match frames with
  | [] => none
  | frame :: outer =>
    match frame, t.kind with
    | .file _, .newline | .block _ _ _, .newline => inside frames
    | .file _, .name | .block _ _ _, .name => inside (.header t [] :: frames)
    | .block type labels items, .closeBrace =>
      addItem (blockItem type labels.reverse items.reverse) outer
    | .header name [], .equal => inside (.attribute name :: outer)
    | .header type labels, .name => inside (.header type (.plain t.text :: labels) :: outer)
    | .header _ _, .quote => inside (.quoted t.start [] :: frames)
    | .header type labels, .openBrace => inside (.block type labels [] :: outer)
    -- Behind a point and in square brackets.
    | .access target, .name => after (target.getAttr t) outer
    | .access target, .digits => after (target.indexDigits t) outer
    | .access target, .star => after (target.splat t.stop false) outer
    | .subscript target, .star => inside (.fullSplat target :: outer)
    | .fullSplat target, .closeBracket => after (target.splat t.stop true) outer
    -- A collection that is closed before its next element, or turns out to be a loop.
    | .tuple start [], .word .loop => inside (.loopName (.tuple start) :: outer)
    | .tuple start items, .closeBracket => after (.tuple start t.stop items.reverse) outer
    | .key start [], .word .loop => inside (.loopName (.object start) :: outer)
    | .key start pairs, .closeBrace => after (.object start t.stop pairs.reverse) outer
    | .callee name, .openParen => inside (.call name [] :: outer)
    | .call name args, .closeParen => after (.call name t.stop args.reverse false) outer
    | .spread name args, .closeParen => after (.call name t.stop args.reverse true) outer
    -- The head of a loop, up to its collection.
    | .loopName owner, .name => inside (.loopMore owner t.text :: outer)
    | .loopMore owner first, .comma => inside (.loopSecond owner first :: outer)
    | .loopMore owner first, .within => inside (.loopOver owner ⟨none, first⟩ :: outer)
    | .loopSecond owner first, .name => inside (.loopIn owner first t.text :: outer)
    | .loopIn owner first second, .within =>
      inside (.loopOver owner ⟨some first, second⟩ :: outer)
    | .grouped head key value, .word .cond => inside (.valuesIf head key value true :: outer)
    | .grouped head key value, .closeBrace =>
      after (.forObject head t.stop key value none true) outer
    -- Between quotes and in templates.
    | .quoted start items, .quote => after (.ofQuoted start t.stop items.reverse) outer
    | .quoted _ _, _ | .template _, _ => feedTemplate frames t
    | .interp false, .strip => inside (.interp true :: outer)
    | .interpEnd before e, .closeBrace => addTemplateItem (interpItem ⟨before, true⟩ e) outer
    | .directive before, _ => feedDirective before outer t
    | .directiveEnd trim pos d false, .strip =>
      inside (.directiveEnd ⟨trim.before, true⟩ pos d true :: outer)
    | .directiveEnd trim pos d _, .closeBrace => addTemplateItem (directiveItem trim pos d) outer
    | frame, _ => if frame.awaitsOperand then beginOperand frames t heredoc else none

/-- Puts the operand together with the operators in front of it that bind at least as tightly as
`level`, innermost first. -/
def reduce (level : Nat) (x : Operand) : List Frame → Operand × List Frame
  | .unary start op :: outer => reduce level (.unary start op x) outer
  | .binary left op :: outer =>
    if level ≤ op.level then reduce level (.binary left op x) outer
    else (x, .binary left op :: outer)
  | frames => (x, frames)

/-- Puts the operand together with all operators in front of it, up to the construct that encloses
them or the first branch of a conditional. -/
def settle (x : Operand) : List Frame → Operand × List Frame
  | .unary start op :: outer => settle (.unary start op x) outer
  | .binary left op :: outer => settle (.binary left op x) outer
  | .branch cond yes :: outer => settle (.conditional cond yes x) outer
  | frames => (x, frames)

/-- A token behind a complete expression: it must close the construct that the expression stands
in, or lead to the construct's next part. -/
def closeOperand (x : Operand) (frames : List Frame) (t : Token) (heredoc : Draft (List Part)) :
    Option Reader :=
  match frames with
  | [] => none
  | frame :: outer =>
    match frame, t.kind with
    | .attribute name, .newline =>
      addItem (x.expr.map fun e => .attribute ⟨name.text, e, name.start.pos⟩) outer
    | .test cond, .colon => inside (.branch cond x :: outer)
    | .subscript target, .closeBracket => after (target.index t.stop x.expr) outer
    | .parens start, .closeParen => after (.parens start t.stop x) outer
    | .tuple start items, .comma => inside (.tuple start (x :: items) :: outer)
    | .tuple start items, .closeBracket => after (.tuple start t.stop (x :: items).reverse) outer
    | .key start pairs, .equal | .key start pairs, .colon =>
      inside (.value start pairs x :: outer)
    | .value start pairs key, .comma => inside (.key start ((key, x) :: pairs) :: outer)
    | .value start pairs key, .closeBrace =>
      after (.object start t.stop ((key, x) :: pairs).reverse) outer
    -- Newlines between two pairs are not let through, so what follows begins a key.
    | .value start pairs key, _ =>
      beginOperand (.key start ((key, x) :: pairs) :: outer) t heredoc
    | .call name args, .comma => inside (.call name (x :: args) :: outer)
    | .call name args, .ellipsis => inside (.spread name (x :: args) :: outer)
    | .call name args, .closeParen => after (.call name t.stop (x :: args).reverse false) outer
    -- The parts of a loop, each up to what leads to the next one.
    | .loopOver (.tuple start) vars, .colon => inside (.elements ⟨start, vars, x⟩ :: outer)
    | .loopOver (.object start) vars, .colon => inside (.keys ⟨start, vars, x⟩ :: outer)
    | .loopOver (.directive before pos) vars, _ =>
      feedDirectiveEnd before pos (x.expr.map (.loop vars)) outer
    | .elements head, .word .cond => inside (.elementsIf head x :: outer)
    | .elements head, .closeBracket => after (.forTuple head t.stop x none) outer
    | .elementsIf head value, .closeBracket => after (.forTuple head t.stop value (some x)) outer
    | .keys head, .arrow => inside (.values head x :: outer)
    | .values head key, .ellipsis => inside (.grouped head key x :: outer)
    | .values head key, .word .cond => inside (.valuesIf head key x false :: outer)
    | .values head key, .closeBrace => after (.forObject head t.stop key x none false) outer
    | .valuesIf head key value grouping, .closeBrace =>
      after (.forObject head t.stop key value (some x) grouping) outer
    -- Back to the template that the operand stands in.
    | .interp before, .strip => inside (.interpEnd before x :: outer)
    | .interp before, .closeBrace => addTemplateItem (interpItem ⟨before, false⟩ x) outer
    | .directiveIf before pos, _ => feedDirectiveEnd before pos (x.expr.map .cond) outer
    | _, _ => none
where
  /-- The end of a directive behind its expression. -/
  feedDirectiveEnd (before : Bool) (pos : Pos) (d : Draft Directive) (outer : List Frame) :
      Option Reader :=
    match t.kind with
    | .strip => inside (.directiveEnd ⟨before, true⟩ pos d true :: outer)
    | .closeBrace => addTemplateItem (directiveItem ⟨before, false⟩ pos d) outer
    | _ => none

/-- The operator that a token stands for behind an operand. -/
def operatorOf? : Kind → Option BinaryOp
  | .operator op => some op
  | .minus => some .sub
  | .star => some .mul
  | _ => none

/-- The next token behind a complete operand. -/
def feedAfter (x : Operand) (frames : List Frame) (t : Token) (heredoc : Draft (List Part)) :
    Option Reader :=
  match frames with
  | .header type labels :: outer => feedOpen (.header type (.quoted x :: labels) :: outer) t heredoc
  | _ =>
    match t.kind with
    | .dot => inside (.access x :: frames)
    | .openBracket => inside (.subscript x :: frames)
    | .question =>
      -- A condition is all that stands in front of it, up to another conditional.
      let (x, frames) := reduce 0 x frames
      inside (.test x :: frames)
    | kind =>
      match operatorOf? kind with
      | some op =>
        let (x, frames) := reduce op.level x frames
        inside (.binary x op :: frames)
      | none =>
        let (x, frames) := settle x frames
        closeOperand x frames t heredoc

/-- The reader after one more token, or nothing if the token cannot stand there. -/
def feed (r : Reader) (heredoc : Draft (List Part)) (t : Token) : Option Reader :=
  match r.operand with
  | some x => feedAfter x r.frames t heredoc
  | none => feedOpen r.frames t heredoc

/-- The items of a file that has been read to its end. -/
def items? (r : Reader) : Option (Draft (List Item)) :=
  match r with
  | ⟨none, [.file items]⟩ => some (items.reverse.mapM id)
  | _ => none

/-- The literal text of a template item with its escapes decoded. -/
def decodeTemplateItem : TemplateItem → TemplateItem
  | .text raw => .text (String.ofList (decodeTemplate raw.toList))
  | item => item

/-- The parts of a template that has been read to its end. -/
def parts? (r : Reader) : Option (Draft (List Part)) :=
  match r with
  | ⟨none, [.template items]⟩ => some do
    let items ← items.reverse.mapM id
    Part.ofItems (items.map decodeTemplateItem)
  | _ => none

end Reader

end ResourceTables.Native
