/-!
# Times

The time of a report, as a date and a time of the day in the common calendar.
-/

namespace ResourceTables

/-- A point in time: the seconds since the beginning of the year 1970, without leap seconds. -/
structure Time where
  /-- The seconds. -/
  seconds : Nat
  deriving DecidableEq, Repr, Inhabited

namespace Time

/-- The days of four hundred years, after which the calendar repeats. -/
def daysOfEra : Nat := 146097

/-- The year, the month and the day of the given number of days since the first of March of the year
zero. Years are counted from March, so that a leap day is the last one of its year. -/
def dateOfDays (days : Nat) : Nat × Nat × Nat :=
  let era := days / daysOfEra
  let day := days % daysOfEra
  let year := (day - day / 1460 + day / 36524 - day / 146096) / 365
  let dayOfYear := day - (365 * year + year / 4 - year / 100)
  let month := (5 * dayOfYear + 2) / 153
  let dayOfMonth := dayOfYear - (153 * month + 2) / 5 + 1
  let year := year + 400 * era
  if month < 10 then (year, month + 3, dayOfMonth) else (year + 1, month - 9, dayOfMonth)

/-- The days from the first of March of the year zero to the beginning of the year 1970. -/
def daysBefore1970 : Nat := 719468

/-- A number with at least `width` digits. -/
def padded (width n : Nat) : String :=
  let digits := Nat.toDigits 10 n
  String.ofList (List.replicate (width - digits.length) '0' ++ digits)

/-- The time in words of the calendar. -/
def text (t : Time) : String :=
  let (year, month, day) := dateOfDays (t.seconds / 86400 + daysBefore1970)
  let second := t.seconds % 86400
  padded 4 year ++ "-" ++ padded 2 month ++ "-" ++ padded 2 day ++ "T" ++
    padded 2 (second / 3600) ++ ":" ++ padded 2 (second / 60 % 60) ++ ":" ++
    padded 2 (second % 60) ++ "Z"

end Time

end ResourceTables
