import Folio.FileTree
import Folio.Log
import Folio.Setting

/-!
# Writing log records

The command line writes the records of the library to standard error, and to a file if one is
named. Only records of at least a set level are written, in one of two formats.
-/

namespace Folio.Logging

/-- Characters outside ASCII that become ASCII in capitals. -/
def asciiCapitals (character : Char) : List Char :=
  match character.toNat with
  | 0xDF => ['S', 'S']
  | 0x131 => ['I']
  | 0x17F => ['S']
  | 0xFB00 => ['F', 'F']
  | 0xFB01 => ['F', 'I']
  | 0xFB02 => ['F', 'L']
  | 0xFB03 => ['F', 'F', 'I']
  | 0xFB04 => ['F', 'F', 'L']
  | 0xFB05 => ['S', 'T']
  | 0xFB06 => ['S', 'T']
  | _ => [character.toUpper]

/-- A text in capitals, as far as these are ASCII. -/
def capitals (text : String) : String := String.ofList (text.toList.flatMap asciiCapitals)

/-- The standing names of levels. -/
def levelNames : List (String × Level) :=
  [("CRITICAL", Level.critical), ("FATAL", Level.critical), ("ERROR", Level.error),
    ("WARN", Level.warning), ("WARNING", Level.warning), ("INFO", Level.info),
    ("DEBUG", Level.debug), ("NOTSET", 0)]

/-- The level with a name. -/
def levelNamed? (name : String) : Option Level :=
  (levelNames.find? fun entry => entry.1 == name).map (·.2)

/-- A level that is not known. -/
structure LevelError where
  level : Setting
  deriving Repr, Inhabited

/-- The wording of a level error. -/
def LevelError.message (error : LevelError) : String :=
  "Unknown log level: " ++ error.level.plain

/-- The level that a value means: a number as it is, anything else by its name in capitals. -/
def resolveLevel (level : Setting) : Except LevelError Scalar :=
  match level with
  | .bool value => .ok (.bool value)
  | .int value => .ok (.int value)
  | other =>
    match levelNamed? (capitals other.plain) with
    | some value => .ok (.int value)
    | none => .error ⟨other⟩

/-- Where records go: the level from which on they are written, the long format with time
and source or the short one, and the file that gets them too. -/
structure Outputs where
  level : Level
  trace : Bool := false
  file : Option Location := none
  deriving Repr, Inhabited

/-- What stands for the time of a record. -/
def timeMark : String := "[TIME]"

/-- A record as a line. -/
def format (trace : Bool) (record : LogRecord) : String :=
  (if trace then
    s!"{timeMark} [{record.level.name}] [{record.source}] {record.message}"
  else s!"{record.level.name}: {record.message}") ++ "\n"

/-- A record belongs to the library or to a part of it. -/
def isOwn (source : String) : Bool :=
  source == LogRecord.library || (LogRecord.library ++ ".").toList.isPrefixOf source.toList

/-- The level from which on records are written. Level 0 sets none; then it is that of
warnings. -/
def Outputs.threshold (outputs : Outputs) : Level :=
  if outputs.level == 0 then Level.warning else outputs.level

/-- A record is one of the library's own and urgent enough; level 0 and below never is. -/
def Outputs.accepts (outputs : Outputs) (record : LogRecord) : Bool :=
  isOwn record.source && 0 < record.level && outputs.threshold ≤ record.level

/-- The lines of the records that are written. -/
def lines (outputs : Outputs) (records : List LogRecord) : String :=
  String.join ((records.filter outputs.accepts).map (format outputs.trace))

/-- Standard error and the files, as far as they have been written. -/
structure Written where
  stderr : String := ""
  files : FileTree
  deriving Inhabited

/-- Write records to all outputs. -/
def write (outputs : Outputs) (records : List LogRecord) (written : Written) : Written :=
  let text := lines outputs records
  let files := match outputs.file with
    | none => written.files
    | some location =>
      match written.files.entry? location with
      | some (.file content) => written.files.put location (content ++ text.toUTF8)
      | _ => written.files.put location text.toUTF8
  { stderr := written.stderr ++ text, files }

/-- The location of a log file, which the names of its path give, or the problem with it. -/
def fileLocation (files : FileTree) (path : String) :
    Except (FileProblem × String) Location :=
  match files.resolve? (FilePath.ofText path) with
  | none => .error (.missing, path)
  | some location =>
    let shown := files.locationText location
    (files.writable (FilePath.ofText shown)).mapError fun problem => (problem, shown)

/-- Set up the outputs. A log file that cannot be made is reported, and one that can is
made at once. -/
def configure (level : Level) (file : Option String) (trace : Bool) (files : FileTree) :
    Outputs × Written :=
  let outputs : Outputs := { level, trace }
  let start : Written := { files }
  match file with
  | none | some "" => (outputs, start)
  | some path =>
    match fileLocation files path with
    | .error (problem, shown) =>
      let message := s!"Could not create log file {path}: " ++ problem.message shown
      (outputs, write outputs [⟨Level.warning, LogRecord.library, message⟩] start)
    | .ok location =>
      let outputs := { outputs with file := some location }
      (outputs,
        write outputs [⟨Level.debug, LogRecord.library, s!"Logging to file: {path}"⟩] start)

/-- The number of outputs. -/
def Outputs.count (outputs : Outputs) : Nat := if outputs.file.isSome then 2 else 1

/-- A step of a run: set the outputs up, or report a record. -/
inductive Step where
  | configure (level : Setting) (file : Option String) (trace : Bool)
  | emit (record : LogRecord)
  deriving Repr, Inhabited

/-- What a step shows: the level that was set and the number of outputs, or an error. -/
inductive StepResult where
  | configured (level : Scalar) (count : Nat)
  | refused (cause : LevelError)
  | emitted
  deriving Repr, Inhabited

/-- The results of the steps of a run with what each wrote to standard error, and the files
in the end. Before the first set-up no outputs exist. -/
def run (outputs : Option Outputs) (files : FileTree) :
    List Step → List (StepResult × String) × FileTree
  | [] => ([], files)
  | .configure level file trace :: rest =>
    match resolveLevel level with
    | .error cause =>
      let (results, files) := run outputs files rest
      ((.refused cause, "") :: results, files)
    | .ok resolved =>
      let (next, written) := configure ((resolved.whole?).getD 0) file trace files
      let (results, files) := run (some next) written.files rest
      ((.configured resolved next.count, written.stderr) :: results, files)
  | .emit record :: rest =>
    let written := match outputs with
      | some outputs => write outputs [record] { files }
      | none => { files }
    let (results, files) := run outputs written.files rest
    ((.emitted, written.stderr) :: results, files)

end Folio.Logging
