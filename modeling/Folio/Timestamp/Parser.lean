import Folio.Timestamp

/-!
# Reading timestamps

Dates come with and without hyphens, by month or by week, times with and without colons.
Any single character may separate the two. A fraction may have any number of digits, of
which six count. What stands between the last component of a time and its offset is not
looked at when it is one plain character.
-/

namespace Folio.Timestamp

/-- The number that the first `count` characters write, if they are digits, and the rest. -/
def takeDigits? (count : Nat) (text : List Char) : Option (Nat × List Char) :=
  let digits := text.take count
  if digits.length == count && digits.all Char.isDigit then
    some (digits.foldl (fun value digit => value * 10 + (digit.toNat - '0'.toNat)) 0,
      text.drop count)
  else none

/-- The weekday of a day number, 0 for Monday. -/
def weekday (dayNumber : Int) : Nat := (dayNumber % 7).toNat

/-- The day number of the Monday of week 1, the week that holds 4 January. -/
def firstMonday (year : Nat) : Int :=
  let fourth := dayNumber year 1 4
  fourth - weekday fourth

/-- The weeks of a year: 53 when it begins on a Thursday, or on a Wednesday and is a leap
year. -/
def weeksInYear (year : Nat) : Nat :=
  let first := weekday (dayNumber year 1 1)
  if first == 3 || (first == 2 && isLeap year) then 53 else 52

/-- The month and day of the day that comes `index` days after the first of a month. -/
def monthAndDay (year : Nat) : Nat → Nat → Nat → Nat × Nat
  | 0, month, index => (month, index + 1)
  | months + 1, month, index =>
    if index < daysInMonth year month then (month, index + 1)
    else monthAndDay year months (month + 1) (index - daysInMonth year month)

/-- The date that is `index` days after the first of January; `index` may reach into the
year before or after. -/
def dateOfYearDay (year : Nat) (index : Int) : Nat × Nat × Nat :=
  if index < 0 then
    (year - 1, monthAndDay (year - 1) 12 1 (index + daysInYear (year - 1)).toNat)
  else if daysInYear year ≤ index then
    (year + 1, monthAndDay (year + 1) 12 1 (index - daysInYear year).toNat)
  else (year, monthAndDay year 12 1 index.toNat)

/-- The date of a day in a numbered week. -/
def dateOfWeek? (year week day : Nat) : Option (Nat × Nat × Nat) :=
  if 1 ≤ year && year ≤ 9999 && 1 ≤ week && week ≤ weeksInYear year && 1 ≤ day && day ≤ 7 then
    let number := firstMonday year + ((week - 1) * 7 + (day - 1) : Nat)
    some (dateOfYearDay year (number - dayNumber year 1 1))
  else none

/-- A date that fills the text. -/
def readDate? (text : List Char) : Option (Nat × Nat × Nat) := do
  let (year, afterYear) ← takeDigits? 4 text
  let hyphen := afterYear.head? == some '-'
  let body := if hyphen then afterYear.drop 1 else afterYear
  match body with
  | 'W' :: weekText =>
    let (week, afterWeek) ← takeDigits? 2 weekText
    match hyphen, afterWeek with
    | _, [] => dateOfWeek? year week 1
    | true, '-' :: dayText => dateOfWeek? year week (← takeDigits? 1 dayText).1
    | true, _ => none
    | false, dayText => dateOfWeek? year week (← takeDigits? 1 dayText).1
  | _ =>
    let (month, afterMonth) ← takeDigits? 2 body
    let dayText ←
      if hyphen then (if afterMonth.head? == some '-' then some (afterMonth.drop 1) else none)
      else some afterMonth
    let (day, rest) ← takeDigits? 2 dayText
    if rest.isEmpty then some (year, month, day) else none

/-- How many characters of the text are its date. The fifth and sixth character tell the
forms apart. A week and a day without hyphens are told from a week and an hour by whether an
even or an odd number of digits follows. -/
def dateLength? (text : List Char) : Option Nat :=
  let size := text.length
  if size == 7 then some 7
  else if text[4]? == some '-' then
    if text[5]? == some 'W' then
      if size < 8 then none
      else if text[8]? == some '-' then
        if size == 9 then none
        else if text[10]?.any Char.isDigit then some 8
        else some 10
      else some 8
    else some 10
  else if text[4]? == some 'W' then
    let firstOther := 7 + ((text.drop 7).takeWhile Char.isDigit).length
    if firstOther < 9 then some firstOther
    else if firstOther % 2 == 0 then some 7
    else some 8
  else some 8

/-- A time of day, and whether the text goes on behind it. -/
structure Clock where
  hour : Nat := 0
  minute : Nat := 0
  second : Nat := 0
  microsecond : Nat := 0
  trailing : Bool := false

/-- The character marks the end of a text. -/
def isEnd (character : Char) : Bool := character == '\x00'

/-- A fraction of a second: six digits count, and further digits are skipped. -/
def readFraction? (clock : Clock) (text : List Char) : Option Clock := do
  let count := min 6 text.length
  let (value, rest) ← takeDigits? count text
  let unread := rest.dropWhile Char.isDigit
  return { clock with
    microsecond := value * Nat.pow 10 (6 - count)
    trailing := unread.head?.any (!isEnd ·) }

/-- Set the component that is read next: hours, then minutes, then seconds. -/
def Clock.setComponent (clock : Clock) (remaining value : Nat) : Clock :=
  match remaining with
  | 3 => { clock with hour := value }
  | 2 => { clock with minute := value }
  | _ => { clock with second := value }

/-- Read up to `remaining` components of two digits each. Whether colons separate them is
settled behind the first. A single plain character behind a component ends the time. -/
def readComponents? (colons : Option Bool) (clock : Clock) : Nat → List Char → Option Clock
  | 0, text => readFraction? clock text
  | remaining + 1, text => do
    let (value, rest) ← takeDigits? 2 text
    let filled := clock.setComponent (remaining + 1) value
    match rest with
    | [] => some filled
    | next :: tail =>
      let separated := colons.getD (next == ':')
      if tail.isEmpty then
        if next.toNat < 0x80 then some { filled with trailing := !isEnd next } else none
      else if separated && next == ':' then readComponents? (some true) filled remaining tail
      else if next == '.' || next == ',' then readFraction? filled tail
      else if separated then none
      else readComponents? (some false) filled remaining rest

/-- A time of day. -/
def readClock? (text : List Char) : Option Clock := readComponents? none {} 3 text

/-- The character begins an offset. -/
def beginsOffset (character : Char) : Bool :=
  character == 'Z' || character == '+' || character == '-'

/-- The length of an offset in microseconds; one of less than a second counts as none. -/
def offsetLength (clock : Clock) : Nat :=
  let seconds := clock.hour * 3600 + clock.minute * 60 + clock.second
  if seconds == 0 then 0 else seconds * 1000000 + clock.microsecond

/-- An offset in microseconds: `Z` alone, or a sign and a time that fills the text. -/
def readOffset? : List Char → Option Int
  | 'Z' :: rest => if rest.head?.all isEnd then some 0 else none
  | sign :: rest => do
    let clock ← readClock? rest
    if clock.trailing then none
    else
      let size : Int := offsetLength clock
      some (if sign == '-' then -size else size)
  | [] => none

/-- A time of day with its offset, if it has one. -/
def readTime? (text : List Char) : Option (Clock × Option Int) := do
  let clock ← readClock? (text.takeWhile (!beginsOffset ·))
  match text.dropWhile (!beginsOffset ·) with
  | [] => if clock.trailing then none else some (clock, none)
  | offset => some (clock, some (← readOffset? offset))

/-- The timestamp that a text writes. -/
def parse? (text : String) : Option Timestamp := do
  let characters := text.toList
  let length ← dateLength? characters
  let (year, month, day) ← readDate? (characters.take length)
  let (clock, offset) ←
    match characters.drop length with
    | [] => some ({}, none)
    | _ :: time => readTime? time
  let time : Timestamp :=
    { year, month, day, hour := clock.hour, minute := clock.minute, second := clock.second,
      microsecond := clock.microsecond, offset }
  if time.isValid then some time else none

end Folio.Timestamp
