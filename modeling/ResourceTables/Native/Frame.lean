import ResourceTables.Native.Operand

/-!
# Open constructs

A reader keeps a stack of the constructs it is inside of. Each frame holds what has been read of
its construct and says by its shape what must come next.
-/

namespace ResourceTables.Native

/-- What a `for` belongs to. -/
inductive LoopOwner where
  /-- A tuple that begins at the mark. -/
  | tuple (start : Mark)
  /-- An object that begins at the mark. -/
  | object (start : Mark)
  /-- A template directive: whether it trims the text before it, and the place of its word. -/
  | directive (before : Bool) (pos : Pos)

/-- A label of a block. -/
inductive Label where
  /-- A name. -/
  | plain (s : String)
  /-- A quoted text. -/
  | quoted (x : Operand)

/-- An open construct. What follows what has been read of it is written as a dash. -/
inductive Frame where
  /-- The items of a file. -/
  | file (items : List (Draft Item))
  /-- `type labels -`, or the name of an attribute before its `=`. -/
  | header (type : Token) (labels : List Label)
  /-- The items of a block's body. -/
  | block (type : Token) (labels : List Label) (items : List (Draft Item))
  /-- `name = -` -/
  | attribute (name : Token)
  /-- `op -` -/
  | unary (start : Mark) (op : UnaryOp)
  /-- `left op -` -/
  | binary (left : Operand) (op : BinaryOp)
  /-- `cond ? -` -/
  | test (cond : Operand)
  /-- `cond ? yes : -` -/
  | branch (cond yes : Operand)
  /-- `target . -` -/
  | access (target : Operand)
  /-- `target [ -` -/
  | subscript (target : Operand)
  /-- `target [ * -` -/
  | fullSplat (target : Operand)
  /-- `( -` -/
  | parens (start : Mark)
  /-- `[ items, -`, last item first -/
  | tuple (start : Mark) (items : List Operand)
  /-- An object before a key, last pair first. -/
  | key (start : Mark) (pairs : List (Operand × Operand))
  /-- An object before the value of a key. -/
  | value (start : Mark) (pairs : List (Operand × Operand)) (key : Operand)
  /-- The name of a function before its parenthesis. -/
  | callee (name : Token)
  /-- `name( args, -`, last argument first -/
  | call (name : Token) (args : List Operand)
  /-- `name( args ... -` -/
  | spread (name : Token) (args : List Operand)
  /-- `for -` -/
  | loopName (owner : LoopOwner)
  /-- `for first -` -/
  | loopMore (owner : LoopOwner) (first : String)
  /-- `for first , -` -/
  | loopSecond (owner : LoopOwner) (first : String)
  /-- `for first , second -` -/
  | loopIn (owner : LoopOwner) (first second : String)
  /-- `for vars in -` -/
  | loopOver (owner : LoopOwner) (vars : LoopVars)
  /-- `[ for vars in collection : -` -/
  | elements (head : Operand.ForHead)
  /-- `[ for vars in collection : value if -` -/
  | elementsIf (head : Operand.ForHead) (value : Operand)
  /-- An object's `for vars in collection : -` -/
  | keys (head : Operand.ForHead)
  /-- An object's `for vars in collection : key => -` -/
  | values (head : Operand.ForHead) (key : Operand)
  /-- An object's `for vars in collection : key => value ... -` -/
  | grouped (head : Operand.ForHead) (key value : Operand)
  /-- An object's `for` before its condition. -/
  | valuesIf (head : Operand.ForHead) (key value : Operand) (grouping : Bool)
  /-- A quoted text, last item first. -/
  | quoted (start : Mark) (items : List (Draft TemplateItem))
  /-- A template that stands on its own, last item first. -/
  | template (items : List (Draft TemplateItem))
  /-- An interpolation; whether it trims the text before it. -/
  | interp (before : Bool)
  /-- An interpolation after its closing `~`. -/
  | interpEnd (before : Bool) (e : Operand)
  /-- A directive before its word; whether it trims the text before it. -/
  | directive (before : Bool)
  /-- `if -` in a directive, with the place of the word. -/
  | directiveIf (before : Bool) (pos : Pos)
  /-- A directive before its end; whether it trims the text behind it, once that is settled. -/
  | directiveEnd (trim : Trim) (pos : Pos) (d : Draft Directive) (settled : Bool)

/-- The kinds that begin an operand. -/
def operandKinds : List Kind :=
  [.name, .callName, .number, .heredoc, .quote, .openParen, .openBracket, .openBrace, .minus,
    .bang]

/-- The kinds that are accepted behind an operand, whatever construct it stands in. -/
def afterOperandKinds : List Kind :=
  [.name, .callName, .number, .heredoc, .quote, .openParen, .openBracket, .openBrace, .minus,
    .bang, .star, .operator .or, .operator .and, .operator .eq, .operator .ne, .operator .lt,
    .operator .gt, .operator .le, .operator .ge, .operator .add, .operator .div, .operator .rem,
    .question, .colon, .comma, .dot, .equal, .arrow, .ellipsis, .word .cond, .closeBrace,
    .closeParen, .closeBracket, .strip]

/-- The words that directives begin with. -/
def directiveWords : List Kind :=
  [.word .cond, .word .otherwise, .word .endCond, .word .loop, .word .endLoop]

namespace Frame

/-- Whether an operand must come next; some frames can also be closed there. -/
def awaitsOperand : Frame → Bool
  | .attribute _ | .unary _ _ | .binary _ _ | .test _ | .branch _ _ | .subscript _ | .parens _
  | .tuple _ _ | .key _ _ | .value _ _ _ | .call _ _ | .loopOver _ _ | .elements _
  | .elementsIf _ _ | .keys _ | .values _ _ | .valuesIf _ _ _ _ | .interp _
  | .directiveIf _ _ => true
  | _ => false

/-- The kinds that are accepted next, besides newlines and what is ignored. -/
def accepts : Frame → List Kind
  | file [] => [.name]
  | file _ | block _ _ _ => [.name, .closeBrace]
  | header _ [] => [.equal, .openBrace, .name, .quote]
  | header _ _ => [.openBrace, .name, .quote]
  | access _ => [.digits, .name, .star]
  | subscript _ => .star :: operandKinds
  | fullSplat _ => [.closeBracket]
  | tuple _ [] => .word .loop :: .closeBracket :: operandKinds
  | tuple _ _ => .closeBracket :: operandKinds
  | key _ [] => .word .loop :: .closeBrace :: operandKinds
  | key _ _ => .closeBrace :: operandKinds
  | callee _ => [.openParen]
  | call _ _ => .closeParen :: operandKinds
  | spread _ _ => [.closeParen]
  | loopName _ | loopSecond _ _ => [.name]
  | loopMore _ _ => [.comma, .within]
  | loopIn _ _ _ => [.within]
  | grouped _ _ _ => [.word .cond, .closeBrace]
  | quoted _ _ => [.openDirective, .openInterp, .quote, .textChars]
  | template _ => [.openDirective, .openInterp, .templateChars]
  | interp false => .strip :: operandKinds
  | interpEnd _ _ => [.closeBrace]
  | directive false => .strip :: directiveWords
  | directive true => directiveWords
  | directiveEnd _ _ _ false => [.closeBrace, .strip]
  | directiveEnd _ _ _ true => [.closeBrace]
  | _ => operandKinds

end Frame

end ResourceTables.Native
