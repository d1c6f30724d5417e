import ResourceTables.Native.Lexer
import ResourceTables.Text.Blank

/-!
# Heredocs

The template text inside a heredoc: the lines between the header and the line that closes it. An
indented heredoc loses the indentation that all its lines share.
-/

namespace ResourceTables.Native.Heredoc

/-- The text up to and including its last newline. -/
def completeLines (cs : List Char) : List Char :=
  (cs.reverse.dropWhile (· != '\n')).reverse

/-- How many blanks and tabs the line begins with. -/
def indentation (line : List Char) : Nat :=
  countWhile isGap line

/-- The least indentation of a line that is not blank; zero if all lines are blank. -/
def sharedIndentation (lines : List (List Char)) : Nat :=
  (((lines.filter fun line => !line.all Text.isBlank).map indentation).min?).getD 0

/-- The lines joined by newlines. -/
def joinLines : List (List Char) → List Char
  | [] => []
  | [line] => line
  | line :: lines => line ++ '\n' :: joinLines lines

/-- The text with the shared indentation cut off every line. -/
def dedent (cs : List Char) : List Char :=
  let lines := splitLines cs
  joinLines (lines.map (List.drop (sharedIndentation lines)))

/-- The template text of a heredoc token. -/
def content (token : List Char) : List Char :=
  match heredocHeader? token with
  | none => []
  | some (indented, _, header) =>
    let body := completeLines (token.drop header)
    if indented then dedent body else body

end ResourceTables.Native.Heredoc
