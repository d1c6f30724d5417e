import ResourceTables.Json.Document

/-!
# Reading JSON documents

A document is read from a text with nothing but white space around it. Of members with one name
the last counts. The names of infinity and of no number are read as numbers.
-/

namespace ResourceTables.Document

/-- White space between tokens. -/
def isSpace (c : Char) : Bool :=
  c == ' ' || c == '\t' || c == '\n' || c == '\r'

/-- What follows the white space at the start. -/
def skipSpace (cs : List Char) : List Char :=
  cs.dropWhile isSpace

/-- The longest integer that is read, in digits. -/
def maxDigits : Nat := 4300

/-- The length of the integer at the start: an optional minus sign, and digits without a leading
zero. -/
def integerLength (cs : List Char) : Nat :=
  let sign := if cs.head? = some '-' then 1 else 0
  match cs.drop sign with
  | '0' :: _ => sign + 1
  | rest =>
    let n := (Decimal.spanDigits rest).1.length
    if n = 0 then 0 else sign + n

/-- The length of a fraction at the start. -/
def fractionLength : List Char → Nat
  | '.' :: rest =>
    let n := (Decimal.spanDigits rest).1.length
    if n = 0 then 0 else n + 1
  | _ => 0

/-- The length of an exponent at the start. -/
def exponentLength : List Char → Nat
  | e :: rest =>
    if e = 'e' ∨ e = 'E' then
      let sign := match rest with
        | s :: _ => if s = '+' ∨ s = '-' then 1 else 0
        | [] => 0
      let n := (Decimal.spanDigits (rest.drop sign)).1.length
      if n = 0 then 0 else n + sign + 1
    else 0
  | [] => 0

/-- The number at the start, and what follows it. -/
def number? (cs : List Char) : Option (Document × List Char) :=
  let whole := integerLength cs
  if whole = 0 then none
  else
    let fraction := fractionLength (cs.drop whole)
    let exponent := exponentLength (cs.drop (whole + fraction))
    let length := whole + fraction + exponent
    let negative := cs.head? = some '-'
    let digits := (cs.take length).drop (if negative then 1 else 0)
    let rest := cs.drop length
    -- Without a fraction and an exponent it is an integer.
    if fraction + exponent = 0 then
      if maxDigits < digits.length then none
      else
        let n : Int := Decimal.natOfDigits digits
        some (.int (if negative then -n else n), rest)
    else some (.float (Binary64.ofDecimal (Decimal.ofLiteral negative digits)), rest)

/-- The words that are documents. -/
def words : List (List Char × Document) :=
  [("null".toList, .null), ("true".toList, .bool true), ("false".toList, .bool false),
    ("NaN".toList, .float .nan), ("Infinity".toList, .float (.infinite false)),
    ("-Infinity".toList, .float (.infinite true))]

/-- The word at the start, and what follows it. -/
def word? (cs : List Char) : Option (Document × List Char) :=
  words.findSome? fun (w, d) => if w.isPrefixOf cs then some (d, cs.drop w.length) else none

mutual

/-- The document at the start, and what follows it; `fuel` bounds the number of characters. -/
def readFrom : Nat → List Char → Option (Document × List Char)
  | 0, _ => none
  | fuel + 1, cs =>
    match cs with
    | '"' :: rest =>
      (Json.decode rest).toOption.map fun (s, rest) => (.text (String.ofList s), rest)
    | '[' :: rest =>
      match skipSpace rest with
      | ']' :: rest => some (.array [], rest)
      | rest => readItems fuel [] rest
    | '\x7b' :: rest =>
      match skipSpace rest with
      | '\x7d' :: rest => some (.object [], rest)
      | rest => readMembers fuel [] rest
    | cs => (word? cs).or (number? cs)

/-- The items of an array from an item on, given the items before, last first. -/
def readItems : Nat → List Document → List Char → Option (Document × List Char)
  | 0, _, _ => none
  | fuel + 1, items, cs =>
    match readFrom fuel cs with
    | none => none
    | some (d, rest) =>
      match skipSpace rest with
      | ',' :: rest => readItems fuel (d :: items) (skipSpace rest)
      | ']' :: rest => some (.array (d :: items).reverse, rest)
      | _ => none

/-- The members of an object from a name on, given the members before. -/
def readMembers : Nat → List (String × Document) → List Char → Option (Document × List Char)
  | 0, _, _ => none
  | fuel + 1, members, cs =>
    match cs with
    | '"' :: rest =>
      match Json.decode rest with
      | .error _ => none
      | .ok (name, rest) =>
        match skipSpace rest with
        | ':' :: rest =>
          match readFrom fuel (skipSpace rest) with
          | none => none
          | some (d, rest) =>
            let members := setMember (String.ofList name) d members
            match skipSpace rest with
            | ',' :: rest => readMembers fuel members (skipSpace rest)
            | '\x7d' :: rest => some (.object members, rest)
            | _ => none
        | _ => none
    | _ => none

end

/-- The document that the text writes. -/
def ofText? (s : String) : Option Document :=
  let cs := skipSpace s.toList
  match readFrom (cs.length + 1) cs with
  | some (d, rest) => if (skipSpace rest).isEmpty then some d else none
  | none => none

end ResourceTables.Document
