import ResourceTables.Console.Pictograph
import ResourceTables.Text.Blank
import ResourceTables.Text.Hex
import ResourceTables.Text.Lower

/-!
# Console markup

Texts for the console carry tags in brackets, such as `[bold]` and `[/bold]`, which set a style and
do not show. A backslash in front of a tag makes it plain text. Names of pictographs between colons
show as the pictographs. What is shown here is the text alone, as on a console without styles.
-/

namespace ResourceTables.Console

/-! ## Pictographs -/

/-- The endings of a name that choose between the forms of a pictograph, with the signs that ask for
them. -/
def variants : List (List Char × Char) :=
  [("-emoji".toList, '\ufe0f'), ("-text".toList, '\ufe0e')]

/-- The name without its ending, and the sign that the ending asks for. -/
def splitVariant (name : List Char) : List Char × List Char :=
  match variants.find? fun (ending, _) => ending.isSuffixOf name with
  | some (ending, sign) => (name.take (name.length - ending.length), [sign])
  | none => (name, [])

/-- The name before the next colon, if nothing but a name stands there. -/
def nameBeforeColon? : List Char → Option (List Char)
  | [] => none
  | c :: rest =>
    if c == ':' then some []
    else if Text.isBlank c then none
    else (nameBeforeColon? rest).map (c :: ·)

/-- The text with pictographs for their names; `skip` characters are part of a name before. -/
def pictographs (skip : Nat) : List Char → List Char
  | [] => []
  | c :: rest =>
    match skip with
    | skip + 1 => pictographs skip rest
    | 0 =>
      if c == ':' then
        match nameBeforeColon? rest with
        | some name =>
          let (stem, sign) := splitVariant name
          match pictograph? (Text.lowerAfter [] stem) with
          | some found => found ++ sign ++ pictographs (name.length + 1) rest
          | none => ':' :: name ++ ':' :: pictographs (name.length + 1) rest
        | none => c :: pictographs 0 rest
      else c :: pictographs 0 rest

/-! ## Tags -/

/-- Whether a tag can begin with the character behind its bracket. -/
def isTagStart (c : Char) : Bool :=
  ('a' ≤ c && c ≤ 'z') || c == '#' || c == '/' || c == '@'

/-- The characters before the closing bracket of a tag. -/
def tagRest? : List Char → Option (List Char)
  | [] => none
  | c :: rest =>
    if c == ']' then some [] else if c == '[' then none else (tagRest? rest).map (c :: ·)

/-- The tag at the start, without its brackets. -/
def tag? : List Char → Option (List Char)
  | '[' :: c :: rest => if isTagStart c then (tagRest? rest).map (c :: ·) else none
  | _ => none

/-- A piece of a text with markup. -/
inductive Piece where
  /-- Plain text. -/
  | plain (cs : List Char)
  /-- A tag, without its brackets. -/
  | tag (cs : List Char)
  deriving DecidableEq, Repr, Inhabited

/-- The pieces with one more character of plain text in front. -/
def consPlain (c : Char) : List Piece → List Piece
  | .plain cs :: rest => .plain (c :: cs) :: rest
  | rest => .plain [c] :: rest

/-- The pieces with a plain text of their own in front, unless it is empty. -/
def addPlain (cs : List Char) (rest : List Piece) : List Piece :=
  if cs.isEmpty then rest else .plain cs :: .plain [] :: rest

/-- The pieces of a text. Of the backslashes before a tag every second one shows, and an odd one
makes the tag plain text. `skip` characters are part of a piece before. -/
def pieces (skip : Nat) : List Char → List Piece
  | [] => []
  | c :: rest =>
    match skip with
    | skip + 1 => pieces skip rest
    | 0 =>
      let escapes := ((c :: rest).takeWhile (· == '\\')).length
      match tag? ((c :: rest).drop escapes) with
      | some inner =>
        -- The backslashes and the tag are passed over, as they are part of this piece.
        let more := pieces (escapes + inner.length + 1) rest
        let shown := List.replicate (escapes / 2) '\\'
        let found := if escapes % 2 == 0 then .tag inner :: more
          else addPlain ('[' :: inner ++ [']']) more
        .plain [] :: addPlain shown found
      | none => consPlain c (pieces 0 rest)

/-- The plain text without the backslashes before brackets. -/
def unescape : List Char → List Char
  | '\\' :: '[' :: rest => '[' :: unescape rest
  | c :: rest => c :: unescape rest
  | [] => []

/-! ## Styles -/

/-- The words that set something in a style, each with its short form. -/
def styleWords : List (List Char × Option (List Char)) :=
  [("bold", some "b"), ("dim", some "d"), ("italic", some "i"), ("underline", some "u"),
    ("blink", none), ("blink2", none), ("reverse", some "r"), ("conceal", some "c"),
    ("strike", some "s"), ("underline2", some "uu"), ("frame", none), ("encircle", none),
    ("overline", some "o")].map fun (word, short) => (word.toList, short.map String.toList)

/-- The word that a word of a style stands for, if it sets something. -/
def styleWord? (word : List Char) : Option (List Char) :=
  (styleWords.find? fun (long, short) => long == word || short == some word).map (·.1)

/-- The names of colours, apart from their bright forms. -/
def colours : List (List Char) :=
  ["black", "red", "green", "yellow", "blue", "magenta", "cyan", "white"].map String.toList

/-- Whether the word names a colour. -/
def isColour (word : List Char) : Bool :=
  let bright := "bright_".toList
  word == "default".toList || colours.contains word ||
    (bright.isPrefixOf word && colours.contains (word.drop bright.length)) ||
    (word.head? == some '#' && word.length == 7 && (word.drop 1).all fun c =>
      (Text.hexValue? c).isSome)

/-- What a style sets. -/
structure Style where
  /-- The words that are set or, with `false`, taken back. -/
  words : List (List Char × Bool) := []
  /-- The colour. -/
  colour : Option (List Char) := none
  /-- The colour behind the characters. -/
  ground : Option (List Char) := none
  /-- Where the characters lead. -/
  link : Option (List Char) := none

namespace Style

/-- The style with a word set or taken back. -/
def setWord (s : Style) (word : List Char) (value : Bool) : Style :=
  { s with words := (word, value) :: s.words }

/-- The style that the words describe; nothing if they describe none. -/
def ofWords? : Style → List (List Char) → Option Style
  | s, [] => some s
  | s, word :: rest =>
    let word := Text.lowerAfter [] word
    match rest with
    | next :: more =>
      if word == "on".toList then
        let colour := Text.lowerAfter [] next
        if isColour colour then ofWords? { s with ground := some colour } more else none
      else if word == "not".toList then
        (styleWord? next).bind fun word => ofWords? (s.setWord word false) more
      else if word == "link".toList then ofWords? { s with link := some next } more
      else match styleWord? word with
        | some word => ofWords? (s.setWord word true) (next :: more)
        | none =>
          if isColour word then ofWords? { s with colour := some word } (next :: more) else none
    -- A last word has nothing behind it, so it cannot be one of those that take a word.
    | [] =>
      match styleWord? word with
      | some word => some (s.setWord word true)
      | none => if isColour word then some { s with colour := some word } else none

/-- The words of a style in their order. -/
def text (s : Style) : List Char :=
  let set := styleWords.filterMap fun (word, _) => (s.words.lookup word).map fun value =>
    if value then word else "not ".toList ++ word
  let ground := (s.ground.map ("on ".toList ++ ·)).toList
  let link := (s.link.map ("link ".toList ++ ·)).toList
  [' '].intercalate (set ++ s.colour.toList ++ ground ++ link)

end Style

/-- The words of a text. -/
def wordsOf : List Char → List (List Char)
  | [] => []
  | c :: rest =>
    if Text.isBlank c then wordsOf rest
    else match rest with
      | [] => [[c]]
      | next :: _ =>
        if Text.isBlank next then [c] :: wordsOf rest
        else match wordsOf rest with
          | word :: more => (c :: word) :: more
          | [] => [[c]]

/-- The name of a style: all that stands before an equals sign, with the words of a style in their
order and written out. -/
def styleName (cs : List Char) : List Char :=
  let name := Text.dropEnd Text.isBlank
    (Text.dropStart Text.isBlank (cs.takeWhile (· != '=')))
  match Style.ofWords? {} (wordsOf name) with
  | some style => style.text
  | none => Text.lowerAfter [] name

/-- What the pieces show, given the styles that are set; nothing if a style ends that has not been
set. -/
def show? : List (List Char) → List Piece → Option (List Char)
  | _, [] => some []
  | styles, .plain cs :: rest =>
    (show? styles rest).map (pictographs 0 (unescape cs) ++ ·)
  | styles, .tag ('/' :: cs) :: rest =>
    let name := styleName cs
    if name.isEmpty then
      if styles.isEmpty then none else show? (styles.drop 1) rest
    else if styles.contains name then show? (styles.erase name) rest
    else none
  | styles, .tag cs :: rest => show? (styleName cs :: styles) rest

/-- What a text with markup shows; nothing if a style ends that has not been set. -/
def shown? (text : List Char) : Option (List Char) :=
  show? [] (pieces 0 text)

/-! ## Plain text with markup characters -/

/-- The text in which every tag is plain text; `skip` characters have been dealt with. -/
def escapeTags (skip : Nat) : List Char → List Char
  | [] => []
  | c :: rest =>
    match skip with
    | skip + 1 => c :: escapeTags skip rest
    | 0 =>
      let escapes := ((c :: rest).takeWhile (· == '\\')).length
      match tag? ((c :: rest).drop escapes) with
      | some inner =>
        List.replicate (escapes + 1) '\\' ++ c :: escapeTags (escapes + inner.length + 1) rest
      | none => c :: escapeTags 0 rest

/-- The text as it is written so that a console shows it. A single backslash at the end is written
twice. -/
def escape (text : String) : String :=
  let found := escapeTags 0 text.toList
  let isSingle := found.getLast? == some '\\' && found.dropLast.getLast? != some '\\'
  String.ofList (if isSingle then found ++ ['\\'] else found)

end ResourceTables.Console
