import ResourceTables.Text.Hex
import ResourceTables.Text.Printable

/-!
# Quoted names

How a message shows a text: between quotes, with every character that would not print as an
escape. Single quotes are used unless the text holds one and no double quote.
-/

namespace ResourceTables.Text

/-- One character of a quotation between the quotes `q`. -/
def quotedChar (q c : Char) : List Char :=
  if c = '\\' then ['\\', '\\']
  else if c = '\n' then ['\\', 'n']
  else if c = '\r' then ['\\', 'r']
  else if c = '\t' then ['\\', 't']
  else if c = q then ['\\', c]
  else if isPrintable c then [c]
  else if c.toNat < 0x100 then '\\' :: 'x' :: hexDigits 2 c.toNat
  else if c.toNat < 0x10000 then '\\' :: 'u' :: hexDigits 4 c.toNat
  else '\\' :: 'U' :: hexDigits 8 c.toNat

/-- The quote that a quotation of the text uses. -/
def quoteFor (cs : List Char) : Char :=
  if cs.contains '\'' && !cs.contains '"' then '"' else '\''

/-- The text as messages show it. -/
def quoted (s : String) : String :=
  let q := quoteFor s.toList
  String.ofList (q :: s.toList.flatMap (quotedChar q) ++ [q])

end ResourceTables.Text
