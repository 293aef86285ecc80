/-!
# Timestamps

A timestamp is a calendar date with a time of day to the microsecond and, for some, the
distance of its clock from universal time. Timestamps with such a distance are compared as
instants; one that has none never equals one that has.
-/

namespace Folio

/-- A date, a time of day and perhaps an offset from universal time in microseconds. -/
structure Timestamp where
  year : Nat
  month : Nat
  day : Nat
  hour : Nat := 0
  minute : Nat := 0
  second : Nat := 0
  microsecond : Nat := 0
  offset : Option Int := none
  deriving Repr, DecidableEq, Inhabited

namespace Timestamp

/-- The year has a 29 February. -/
def isLeap (year : Nat) : Bool := year % 4 == 0 && (year % 100 != 0 || year % 400 == 0)

/-- The number of days of a month, 0 for a number that is no month. -/
def daysInMonth (year month : Nat) : Nat :=
  if month == 2 then (if isLeap year then 29 else 28)
  else if month == 4 || month == 6 || month == 9 || month == 11 then 30
  else if 1 ≤ month && month ≤ 12 then 31
  else 0

/-- The number of days of a year. -/
def daysInYear (year : Nat) : Nat := if isLeap year then 366 else 365

/-- Days before the first of January, counted from the first of January of year 1. -/
def daysBeforeYear (year : Nat) : Int :=
  let before : Int := (year : Int) - 1
  before * 365 + before / 4 - before / 100 + before / 400

/-- Days of the year before the first of a month. -/
def daysBeforeMonth (year : Nat) : Nat → Nat
  | 0 => 0
  | month + 1 => daysBeforeMonth year month + daysInMonth year month

/-- Days from the first of January of year 1 to a date. -/
def dayNumber (year month day : Nat) : Int :=
  daysBeforeYear year + daysBeforeMonth year month + day - 1

/-- The microseconds of a day. -/
def dayLength : Int := 86400 * 1000000

/-- All parts are in their ranges: years 1 to 9999, and an offset below one day. -/
def isValid (time : Timestamp) : Bool :=
  1 ≤ time.year && time.year ≤ 9999 && 1 ≤ time.month && time.month ≤ 12 &&
    1 ≤ time.day && time.day ≤ daysInMonth time.year time.month &&
    time.hour < 24 && time.minute < 60 && time.second < 60 && time.microsecond < 1000000 &&
    time.offset.all fun offset => -dayLength < offset && offset < dayLength

/-- The clock reading in microseconds since the start of year 1. -/
def clock (time : Timestamp) : Int :=
  dayNumber time.year time.month time.day * dayLength +
    (((time.hour * 60 + time.minute) * 60 + time.second) * 1000000 + time.microsecond : Nat)

/-- Equal clocks without offsets, or the same instant. -/
def same (left right : Timestamp) : Bool :=
  match left.offset, right.offset with
  | none, none => left.clock == right.clock
  | some first, some second => left.clock - first == right.clock - second
  | _, _ => false

/-- A number padded with zeros to `width` digits. -/
def padded (width number : Nat) : String :=
  let digits := toString number
  String.ofList (List.replicate (width - digits.length) '0') ++ digits

/-- An offset as sign, hours and minutes; seconds and microseconds only if there are any. -/
def offsetText (offset : Int) : String :=
  let size := offset.natAbs
  let seconds := size / 1000000 % 60
  let micros := size % 1000000
  (if offset < 0 then "-" else "+") ++ padded 2 (size / 3600000000) ++ ":" ++
    padded 2 (size / 60000000 % 60) ++
    (if seconds != 0 || micros != 0 then ":" ++ padded 2 seconds else "") ++
    (if micros != 0 then "." ++ padded 6 micros else "")

/-- The canonical text: date, `T`, time to the second, then microseconds and offset if there
are any. -/
def text (time : Timestamp) : String :=
  padded 4 time.year ++ "-" ++ padded 2 time.month ++ "-" ++ padded 2 time.day ++ "T" ++
    padded 2 time.hour ++ ":" ++ padded 2 time.minute ++ ":" ++ padded 2 time.second ++
    (if time.microsecond != 0 then "." ++ padded 6 time.microsecond else "") ++
    match time.offset with
    | none => ""
    | some offset => offsetText offset

end Timestamp

end Folio
