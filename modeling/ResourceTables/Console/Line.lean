import ResourceTables.Console.Markup
import ResourceTables.Console.Width

/-!
# Lines on the console

A text as it is printed: without the control characters that move the cursor, with blanks for tabs,
and with a newline behind it.
-/

namespace ResourceTables.Console

/-- Whether the character moves the cursor or rings the bell. -/
def isControl (c : Char) : Bool :=
  c == '\x07' || c == '\x08' || c == '\x0b' || c == '\x0c' || c == '\r'

/-- The columns between two tab stops. -/
def tabWidth : Nat := 8

/-- The text with blanks for tabs. The characters before it since the last tab stop, last first, are
`part`, and this stop is at `column`. -/
def expandTabs (column : Nat) (part : List Char) : List Char → List Char
  | [] => part.reverse
  | '\n' :: rest => part.reverse ++ '\n' :: expandTabs 0 [] rest
  | '\t' :: rest =>
    let shown := (' ' :: part).reverse
    let stop := column + width shown
    let blanks := (tabWidth - stop % tabWidth) % tabWidth
    shown ++ List.replicate blanks ' ' ++ expandTabs (stop + blanks) [] rest
  | c :: rest => expandTabs column (c :: part) rest

/-- The characters of a text with markup that are shown; nothing if its markup is wrong. -/
def plain? (markup : String) : Option (List Char) :=
  (shown? markup.toList).map fun cs => cs.filter (!isControl ·)

/-- What a text with markup prints; nothing if its markup is wrong. -/
def printed? (markup : String) : Option String :=
  (plain? markup).map fun cs => String.ofList (expandTabs 0 [] cs ++ ['\n'])

end ResourceTables.Console
