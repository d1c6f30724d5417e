import ResourceTables.Yaml.Cursor
import ResourceTables.Yaml.Node

/-!
# The types of plain scalars

What a plain scalar is meant to be is seen from its form: a truth value, a number, nothing, a date,
or a sign with a meaning of its own. Anything else is a text. A quoted scalar whose tag asks for it
is looked at in the same way, so it may end in a newline, which does not count.
-/

namespace ResourceTables.Yaml

/-- The spellings of truth values. -/
def boolWords : List String :=
  ["yes", "Yes", "YES", "no", "No", "NO", "true", "True", "TRUE", "false", "False", "FALSE",
    "on", "On", "ON", "off", "Off", "OFF"]

/-- The spellings of nothing. -/
def nullWords : List String := ["", "~", "null", "Null", "NULL"]

/-- Whether the character is a digit of the base, which is at most sixteen. -/
def isDigitOf (base : Nat) (c : Char) : Bool :=
  (Text.hexValue? c).any (· < base)

/-- Whether the character is a digit or an underscore. -/
def isDigitOrUnderscore (c : Char) : Bool := isDigit c || c == '_'

/-- What follows a sign at the start, if there is one. -/
def dropSign : List Char → List Char
  | '+' :: rest | '-' :: rest => rest
  | cs => cs

/-- Whether the text is one or more groups of a colon and at most two digits, the first of two below
six, up to the end or to what `ending` accepts. -/
def isSexagesimalTail (ending : List Char → Bool) : Nat → List Char → Bool
  | 0, _ => false
  | fuel + 1, ':' :: rest =>
    let digits := rest.takeWhile isDigit
    let after := rest.drop digits.length
    let fits := digits.length == 1 || (digits.length == 2 && digits.headD '9' < '6')
    fits && (ending after || isSexagesimalTail ending fuel after)
  | _, _ => false

/-- Whether the text has the form of an integer. -/
def isInt (cs : List Char) : Bool :=
  match dropSign cs with
  | '0' :: 'b' :: rest => !rest.isEmpty && rest.all fun c => isDigitOf 2 c || c == '_'
  | '0' :: 'x' :: rest => !rest.isEmpty && rest.all fun c => isDigitOf 16 c || c == '_'
  | '0' :: rest => rest.all fun c => isDigitOf 8 c || c == '_'
  | c :: rest =>
    let after := rest.dropWhile isDigitOrUnderscore
    isDigit c && (after.isEmpty || isSexagesimalTail List.isEmpty (after.length + 1) after)
  | [] => false

/-- Whether the text is empty or an exponent with a sign. -/
def isExponentOrEnd : List Char → Bool
  | [] => true
  | e :: sign :: rest =>
    (e == 'e' || e == 'E') && (sign == '+' || sign == '-') && !rest.isEmpty && rest.all isDigit
  | _ => false

/-- Whether the text is a point with digits behind it. -/
def isFraction : List Char → Bool
  | '.' :: rest => rest.all isDigitOrUnderscore
  | _ => false

/-- Whether the text has the form of a number with a fraction. -/
def isFloat (cs : List Char) : Bool :=
  let unsigned := dropSign cs
  match unsigned with
  | '.' :: rest =>
    ["inf", "Inf", "INF"].any (·.toList == rest) ||
      (unsigned == cs && (["nan", "NaN", "NAN"].any (·.toList == rest) ||
        (rest.head?.any isDigit && isExponentOrEnd (rest.dropWhile isDigitOrUnderscore))))
  | c :: rest =>
    isDigit c &&
      match rest.dropWhile isDigitOrUnderscore with
      | '.' :: rest => isExponentOrEnd (rest.dropWhile isDigitOrUnderscore)
      | after => isSexagesimalTail isFraction (after.length + 1) after
  | [] => false

/-- A date, perhaps with a time of the day. -/
structure Timestamp where
  /-- The year. -/
  year : Nat
  /-- The month. -/
  month : Nat
  /-- The day of the month. -/
  day : Nat
  /-- The hour, the minute and the second. -/
  time : Option (Nat × Nat × Nat) := none
  /-- How far the clock is from the reference clock, in minutes. -/
  zone : Nat := 0
  deriving DecidableEq, Repr, Inhabited

namespace Timestamp

/-- A number of at least `least` and at most `most` digits at the start, and what follows it. -/
def digits? (least most : Nat) (cs : List Char) : Option (Nat × List Char) :=
  let found := (cs.take most).takeWhile isDigit
  if found.length < least then none
  else some (found.foldl (fun n d => 10 * n + (d.toNat - '0'.toNat)) 0, cs.drop found.length)

/-- What follows the character `c`. -/
def after? (c : Char) : List Char → Option (List Char)
  | x :: rest => if x == c then some rest else none
  | [] => none

/-- Whether the character is a blank or a tab. -/
def isGap (c : Char) : Bool := c == ' ' || c == '\t'

/-- How far the clock is from the reference clock. -/
def zone? (cs : List Char) : Option Nat :=
  if cs.isEmpty then some 0
  else
    match cs.dropWhile isGap with
    | ['Z'] => some 0
    | sign :: rest =>
      if sign != '+' && sign != '-' then none
      else do
        let (hours, rest) ← digits? 1 2 rest
        if rest.isEmpty then return 60 * hours
        let (minutes, rest) ← digits? 2 2 (← after? ':' rest)
        if rest.isEmpty then return 60 * hours + minutes
        none
    | [] => none

/-- What follows the mark between a date and a time. -/
def afterDate? : List Char → Option (List Char)
  | c :: rest =>
    if c == 'T' || c == 't' then some rest
    else if isGap c then some (rest.dropWhile isGap)
    else none
  | [] => none

/-- The date, perhaps with a time, that the text writes. -/
def ofText? (cs : List Char) : Option Timestamp := do
  let (year, rest) ← digits? 4 4 cs
  let (month, rest) ← digits? 1 2 (← after? '-' rest)
  let (day, rest) ← digits? 1 2 (← after? '-' rest)
  if rest.isEmpty then return { year, month, day }
  let (hour, rest) ← digits? 1 2 (← afterDate? rest)
  let (minute, rest) ← digits? 2 2 (← after? ':' rest)
  let (second, rest) ← digits? 2 2 (← after? ':' rest)
  let rest := match rest with
    | '.' :: fraction => fraction.dropWhile isDigit
    | _ => rest
  let zone ← zone? rest
  return { year, month, day, time := some (hour, minute, second), zone }

/-- How many days the month has. -/
def daysOfMonth (year month : Nat) : Nat :=
  if month == 2 then
    if year % 4 == 0 && (year % 100 != 0 || year % 400 == 0) then 29 else 28
  else if month == 4 || month == 6 || month == 9 || month == 11 then 30
  else 31

/-- Whether there is such a date and such a time. -/
def isValid (t : Timestamp) : Bool :=
  1 ≤ t.year && 1 ≤ t.month && t.month ≤ 12 && 1 ≤ t.day &&
    t.day ≤ daysOfMonth t.year t.month && t.zone < 24 * 60 &&
    t.time.all fun (hour, minute, second) => hour < 24 && minute < 60 && second < 60

/-- Whether a plain scalar is read as a date: one without a time has all its digits. -/
def isPlain (cs : List Char) : Bool :=
  match ofText? cs with
  | some t => t.time.isSome || cs.length == 10
  | none => false

end Timestamp

/-- The signs that stand for nothing known. -/
def reservedSigns : List String := ["!", "&", "*"]

/-- The text without a newline at its end; a newline alone is kept. -/
def dropLastNewline (cs : List Char) : List Char :=
  if 1 < cs.length && cs.getLast? == some '\n' then cs.dropLast else cs

/-- The tag that a plain scalar has by its form. -/
def plainTag (text : String) : String :=
  let cs := dropLastNewline text.toList
  let word := String.ofList cs
  coreTag <|
    if boolWords.contains word then "bool"
    else if isFloat cs then "float"
    else if isInt cs then "int"
    else if word == "<<" then "merge"
    else if nullWords.contains word then "null"
    else if Timestamp.isPlain cs then "timestamp"
    else if word == "=" then "value"
    else if reservedSigns.contains word then "yaml"
    else "str"

end ResourceTables.Yaml
