import Folio.Timestamp

/-!
# Values of foreign kinds

A configuration file may hold values that are neither scalars nor lists nor tables: dates, times of
day, bytes. They stay what they are until something wants a value that it knows. All that can be
told of such a value is its kind, how it reads, and whether it counts as set.
-/

namespace Folio

/-- A value of a kind that options have no use for: its kind, where that comes from, the value as
messages show it and as running text. -/
structure Foreign where
  kind : String
  home : String := ""
  shown : String
  plain : String
  isSet : Bool := true
  isHashable : Bool := true
  deriving Inhabited, Repr, DecidableEq

namespace Foreign

/-- The kind as faults spell it, which tell where it comes from. -/
def faultName (value : Foreign) : String :=
  if value.home == "" then value.kind else value.home ++ "." ++ value.kind

/-- Two values are the same if they are of one kind and read alike. -/
def same (left right : Foreign) : Bool := left.kind == right.kind && left.plain == right.plain

/-- Foreign values are taken for the same if kind and text are. -/
theorem same_iff {left right : Foreign} :
    left.same right = true ↔ left.kind = right.kind ∧ left.plain = right.plain := by
  simp [same]

end Foreign

/-- A date, a time of day, or both with or without an offset from universal time. -/
inductive Moment where
  | date (year month day : Nat)
  | time (hour minute second microsecond : Nat)
  | whole (value : Timestamp)
  deriving Inhabited, Repr, DecidableEq

namespace Moment

/-- The word for the kind of a moment in messages. -/
def kind : Moment → String
  | date _ _ _ => "date"
  | time _ _ _ _ => "time"
  | whole _ => "datetime"

/-- A moment that names a date names one of the calendar. -/
def isValid : Moment → Bool
  | date year month day => Timestamp.isValid { year, month, day }
  | time hour minute second microsecond =>
    hour < 24 && minute < 60 && second < 60 && microsecond < 1000000
  | whole value => value.isValid

/-- A time of day as text, with microseconds if there are any. -/
def clockText (hour minute second microsecond : Nat) : String :=
  Timestamp.padded 2 hour ++ ":" ++ Timestamp.padded 2 minute ++ ":" ++
    Timestamp.padded 2 second ++
    if microsecond != 0 then "." ++ Timestamp.padded 6 microsecond else ""

/-- A date as text. -/
def dateText (year month day : Nat) : String :=
  Timestamp.padded 4 year ++ "-" ++ Timestamp.padded 2 month ++ "-" ++ Timestamp.padded 2 day

/-- A moment as running text: a blank stands between date and time. -/
def plain : Moment → String
  | date year month day => dateText year month day
  | time hour minute second microsecond => clockText hour minute second microsecond
  | whole value =>
    dateText value.year value.month value.day ++ " " ++
      clockText value.hour value.minute value.second value.microsecond ++
      (value.offset.map Timestamp.offsetText).getD ""

/-- The numbers of a time of day as they are listed: seconds and microseconds only if there are
any. -/
def shownClock (hour minute second microsecond : Nat) : List Nat :=
  [hour, minute] ++
    if microsecond != 0 then [second, microsecond] else if second != 0 then [second] else []

/-- An offset as messages show it: in days and seconds, of which only the days may be negative. -/
def offsetDisplay (offset : Int) : String :=
  let seconds := offset / 1000000
  let days := seconds / 86400
  if offset == 0 then "datetime.timezone.utc"
  else
    let parts := (if days != 0 then [s!"days={days}"] else []) ++ [s!"seconds={seconds % 86400}"]
    "datetime.timezone(datetime.timedelta(" ++ ", ".intercalate parts ++ "))"

/-- A moment as messages show it: its kind, with its numbers in brackets. -/
def shown (moment : Moment) : String :=
  let (numbers, offset) : List Nat × Option Int := match moment with
    | date year month day => ([year, month, day], none)
    | time hour minute second microsecond => (shownClock hour minute second microsecond, none)
    | whole value =>
      ([value.year, value.month, value.day] ++
        shownClock value.hour value.minute value.second value.microsecond, value.offset)
  let parts := numbers.map toString ++
    (offset.map fun offset => "tzinfo=" ++ offsetDisplay offset).toList
  "datetime." ++ moment.kind ++ "(" ++ ", ".intercalate parts ++ ")"

/-- A moment as a value among others. -/
def foreign (moment : Moment) : Foreign where
  kind := moment.kind
  home := "datetime"
  shown := moment.shown
  plain := moment.plain

end Moment

end Folio
