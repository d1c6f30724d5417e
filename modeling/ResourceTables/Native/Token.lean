import ResourceTables.Config.Error
import ResourceTables.Config.Expr

/-!
# Tokens

The pieces that a native configuration text is cut into, each with its place. A token also keeps
the text from its first character on, so that the source of a construct can be read off the token
it begins with.
-/

namespace ResourceTables.Native

/-- A place in a text together with the text that follows it. -/
structure Mark where
  /-- The place. -/
  pos : Pos
  /-- How many characters stand before the place. -/
  offset : Nat
  /-- The characters from the place on. -/
  rest : List Char
  deriving Repr, Inhabited

namespace Mark

/-- The start of a text that begins on the given line of a file. -/
def start (file : String) (line : Nat) (text : List Char) : Mark :=
  ⟨⟨file, line, 1⟩, 0, text⟩

/-- The place `n` characters further on. -/
def advance : Nat → Mark → Mark
  | 0, m => m
  | n + 1, m =>
    match m.rest with
    | [] => m
    | c :: rest => advance n ⟨m.pos.next c, m.offset + 1, rest⟩

/-- The origin of what reaches from the place to the offset `stop`. -/
def originTo (m : Mark) (stop : Nat) : Origin :=
  ⟨m.pos, String.ofList (m.rest.take (stop - m.offset))⟩

theorem advance_rest (n : Nat) (m : Mark) : (m.advance n).rest = m.rest.drop n := by
  induction n generalizing m with
  | zero => rfl
  | succ n ih =>
    unfold advance
    split
    · next h => simp [h]
    · next c rest h => simp [h, ih]

end Mark

/-- The kinds of tokens. -/
inductive Kind where
  /-- A name. -/
  | name
  /-- A name that a parenthesis follows. -/
  | callName
  /-- A number, perhaps with a fraction and an exponent. -/
  | number
  /-- A run of digits. -/
  | digits
  /-- Literal characters of a quoted text. -/
  | textChars
  /-- Literal characters of a template that stands on its own. -/
  | templateChars
  /-- A whole heredoc, from its marker to the line that closes it. -/
  | heredoc
  /-- The end of a line. -/
  | newline
  /-- White space within a line. -/
  | blank
  /-- A comment up to the end of its line. -/
  | lineComment
  /-- A comment between `/*` and `*/`. -/
  | blockComment
  /-- A word of the template directives. -/
  | word (w : DirectiveWord)
  /-- The word `in`. -/
  | within
  /-- An operator that can only stand between operands. -/
  | operator (op : BinaryOp)
  | minus | star | bang | ellipsis | arrow | colon | comma | dot | equal | question
  | openBrace | closeBrace | openParen | closeParen | openBracket | closeBracket
  | quote | openInterp | openDirective | strip
  deriving DecidableEq, Repr, Inhabited

namespace Kind

/-- Whether tokens of this kind are dropped. -/
def ignored : Kind → Bool
  | blank | lineComment | blockComment => true
  | _ => false

/-- The characters that tokens of this kind consist of, for kinds with one spelling. -/
def spelling : Kind → List Char
  | newline => ['\n']
  | word w => w.text.toList
  | within => ['i', 'n']
  | operator op => op.symbol.toList
  | minus => ['-']
  | star => ['*']
  | bang => ['!']
  | ellipsis => ['.', '.', '.']
  | arrow => ['=', '>']
  | colon => [':']
  | comma => [',']
  | dot => ['.']
  | equal => ['=']
  | question => ['?']
  | openBrace => ['\x7b']
  | closeBrace => ['\x7d']
  | openParen => ['(']
  | closeParen => [')']
  | openBracket => ['[']
  | closeBracket => [']']
  | quote => ['"']
  | openInterp => ['$', '\x7b']
  | openDirective => ['%', '\x7b']
  | strip => ['~']
  | _ => []

end Kind

/-- A token of a native text. -/
structure Token where
  /-- What kind of token it is. -/
  kind : Kind
  /-- The characters it consists of; none for a newline that the layout calls for. -/
  text : String
  /-- Where it begins. -/
  start : Mark
  /-- The offset after its last character. -/
  stop : Nat
  deriving Inhabited

/-- A newline that the layout calls for at the place of the token `t`. -/
def Token.newlineAt (t : Token) : Token :=
  { t with kind := .newline, text := "" }

/-- Whether the token is a newline that stands in no text. -/
def Token.isInserted (t : Token) : Bool :=
  t.text.isEmpty

end ResourceTables.Native
