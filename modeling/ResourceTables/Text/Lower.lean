import ResourceTables.Text.Casing

/-!
# Lower case

The lower-case form of a text in every script. Two letters need more than a table of single
characters: the dotted capital I becomes two characters, and the capital sigma has a form of its
own at the end of a word.
-/

namespace ResourceTables.Text

/-- The lower-case form of a letter that does not depend on its neighbours. -/
def lowerChar (c : Char) : List Char :=
  if c.toNat < 0x80 then [c.toLower]
  else if c = '\u0130' then ['i', '\u0307']
  else match lowerRuns.findSome? (·.lower? c.toNat) with
    | some n => [Char.ofNat n]
    | none => [c]

/-- Whether a word's letter is the first character that is not skipped. -/
def meetsLetter (cs : List Char) : Bool :=
  match cs.dropWhile wordMarks.contains with
  | c :: _ => wordLetters.contains c
  | [] => false

/-- Lower case with the characters before, nearest first, which decide the form of a sigma. -/
def lowerAfter (before : List Char) : List Char → List Char
  | [] => []
  | c :: rest =>
    let form :=
      if c = 'Σ' then if meetsLetter before && !meetsLetter rest then ['ς'] else ['σ']
      else lowerChar c
    form ++ lowerAfter (c :: before) rest

/-- The text in lower case. -/
def lower (s : String) : String :=
  String.ofList (lowerAfter [] s.toList)

end ResourceTables.Text
