/-!
# Log records

Operations report what they do as records: a level, the name of the reporting part of the
library and a message. Records are values; where they are written is decided elsewhere.
-/

namespace Folio

/-- How urgent a record is; higher numbers are more urgent. -/
abbrev Level := Int

namespace Level

/-- The level of details. -/
def debug : Level := 10

/-- The level of news. -/
def info : Level := 20

/-- The level of doubts. -/
def warning : Level := 30

/-- The level of errors. -/
def error : Level := 40

/-- The level of errors that end everything. -/
def critical : Level := 50

/-- The word for a level; levels between the standing ones are numbered. -/
def name (level : Level) : String :=
  if level == critical then "CRITICAL"
  else if level == error then "ERROR"
  else if level == warning then "WARNING"
  else if level == info then "INFO"
  else if level == debug then "DEBUG"
  else if level == 0 then "NOTSET"
  else s!"Level {level}"

end Level

/-- Something that was reported. -/
structure LogRecord where
  level : Level
  source : String
  message : String
  deriving DecidableEq, Repr, Inhabited

namespace LogRecord

/-- The library's name, under which all its parts report. -/
def library : String := "docmodel"

/-- The name of a part of the library. -/
def part (name : String) : String := library ++ "." ++ name

/-- The record in one line: level, source and message. -/
def line (record : LogRecord) : String :=
  record.level.name ++ " " ++ record.source ++ ": " ++ record.message

end LogRecord

/-- A result together with the records that were reported on the way to it. -/
structure Reported (α : Type) where
  value : α
  records : List LogRecord
  deriving Repr

namespace Reported

/-- The result of a report with a function applied to it. -/
def map {α β : Type} (f : α → β) (reported : Reported α) : Reported β :=
  ⟨f reported.value, reported.records⟩

end Reported

end Folio
