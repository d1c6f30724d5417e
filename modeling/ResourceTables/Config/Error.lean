import ResourceTables.Config.Pos
import ResourceTables.Text.Quoted

/-!
# What can be wrong with a configuration

The causes for which a configuration text is refused, and those for which a body does not fit the
schema it is decoded against. The wording of every message is here.
-/

namespace ResourceTables

/-- The words that open, divide and close a template directive. -/
inductive DirectiveWord where
  | cond | otherwise | endCond | loop | endLoop
  deriving DecidableEq, Repr, Inhabited

/-- The word as it is written. -/
def DirectiveWord.text : DirectiveWord → String
  | cond => "if"
  | otherwise => "else"
  | endCond => "endif"
  | loop => "for"
  | endLoop => "endfor"

/-- Why a configuration text is refused. -/
inductive ParseCause where
  /-- A character that begins no token at all. -/
  | character (c : Char)
  /-- A token that cannot stand where it does. -/
  | token (text : String)
  /-- A line ends where it must not. -/
  | newline
  /-- The text ends where it must not. -/
  | endOfFile
  /-- A backslash in a quoted text does not begin an escape. -/
  | escape (sequence : String)
  /-- A conditional directive is not closed. -/
  | unterminatedCond
  /-- A loop directive is not closed. -/
  | unterminatedLoop
  /-- A directive stands where none of its kind can. -/
  | directive (word : DirectiveWord)
  /-- The label of a block is not a plain text. -/
  | interpolatedLabel
  /-- The file cannot be read as text, for a reason that is given in words. -/
  | unreadable (reason : String)
  /-- The text is not JSON. -/
  | json
  /-- A JSON string does not decode, for a reason that is given in words. -/
  | jsonString (reason : String)
  /-- The JSON value is not an object. -/
  | jsonRoot
  deriving DecidableEq, Repr, Inhabited

/-- The cause in words. -/
def ParseCause.text : ParseCause → String
  | character c => "unexpected character " ++ Text.quoted (String.singleton c)
  | token t => "unexpected token " ++ Text.quoted t
  | newline => "unexpected newline"
  | endOfFile => "unexpected end of file"
  | escape sequence => "invalid escape sequence '\\" ++ sequence ++ "'"
  | unterminatedCond => "unterminated %\x7bif\x7d directive; expected %\x7bendif\x7d"
  | unterminatedLoop => "unterminated %\x7bfor\x7d directive; expected %\x7bendfor\x7d"
  | directive word => "unexpected %\x7b" ++ word.text ++ "\x7d directive"
  | interpolatedLabel => "template interpolation is not allowed in a block label"
  | unreadable reason => "failed to read file: " ++ reason
  | json => "invalid JSON syntax"
  | jsonString reason => "invalid JSON string: " ++ reason
  | jsonRoot => "the root of a JSON configuration file must be an object"

/-- A configuration text is refused. -/
structure ParseError where
  /-- The file that the text belongs to. -/
  file : String
  /-- The line of the fault, when there is one. -/
  line : Option Nat
  /-- What is wrong there. -/
  cause : ParseCause
  deriving DecidableEq, Repr, Inhabited

/-- The error in words, with the place in front. Lines count from one, so line zero is not named. -/
def ParseError.message (e : ParseError) : String :=
  (match e.line with
    | none | some 0 => e.file
    | some n => e.file ++ ":" ++ toString n) ++ ": " ++ e.cause.text

/-- Why a text gives no tree. -/
inductive ReadError where
  /-- The text is refused. -/
  | malformed (e : ParseError)
  /-- The text is well-formed but holds a number or a character that no value can hold, or it is
  looked for at a path that can lead nowhere. -/
  | beyondLimits
  deriving DecidableEq, Repr, Inhabited

/-- Why a body does not fit a schema. -/
inductive DecodeCause where
  /-- An argument is set twice; the first place where it is set is known. -/
  | duplicateSince (name : String) (first : Pos)
  /-- An argument is set twice. -/
  | duplicate (name : String)
  /-- An argument stands where a block of that type is meant. -/
  | blockExpected (name : String)
  /-- A block stands where an argument of that name is meant. -/
  | argumentExpected (type : String)
  /-- A block has too few labels; the first missing one is named. -/
  | missingLabel (label type : String)
  /-- A block has too many labels. -/
  | extraLabel (label type : String) (expected : Nat)
  /-- A block stands where only arguments may. -/
  | unexpectedBlock (type : String)
  /-- A JSON value stands where the objects of a block's label are meant. -/
  | labelObjectExpected (type label : String)
  /-- A JSON value stands where the body of a block is meant. -/
  | bodyObjectExpected (type : String)
  deriving DecidableEq, Repr, Inhabited

/-- The cause in words. -/
def DecodeCause.text : DecodeCause → String
  | duplicateSince name first =>
    "duplicate argument " ++ Text.quoted name ++ "; it was already set at " ++ first.text
  | duplicate name => "duplicate argument " ++ Text.quoted name
  | blockExpected name =>
    "unsupported argument " ++ Text.quoted name ++ "; a block of type " ++ Text.quoted name ++
      " is expected here"
  | argumentExpected type =>
    "unsupported block type " ++ Text.quoted type ++ "; did you mean to define argument " ++
      Text.quoted type ++ "?"
  | missingLabel label type => "missing " ++ label ++ " for " ++ Text.quoted type ++ " block"
  | extraLabel label type expected =>
    "extraneous label " ++ Text.quoted label ++ " for " ++ Text.quoted type ++
      " block; expected " ++ toString expected ++ " label(s)"
  | unexpectedBlock type =>
    "unexpected " ++ Text.quoted type ++ " block; blocks are not allowed here"
  | labelObjectExpected type label =>
    "expected a JSON object for " ++ Text.quoted type ++ " " ++ label
  | bodyObjectExpected type =>
    "expected a JSON object for " ++ Text.quoted type ++ " block body"

/-- A body does not fit a schema. -/
structure DecodeError where
  /-- The place of the fault. -/
  pos : Pos
  /-- What is wrong there. -/
  cause : DecodeCause
  deriving DecidableEq, Repr, Inhabited

/-- The error in words, with the place in front. -/
def DecodeError.message (e : DecodeError) : String :=
  e.pos.text ++ ": " ++ e.cause.text

end ResourceTables
