import Folio.CommandLine.Report
import Folio.Failure
import Folio.Host

/-!
# The command line

A run sets up the log, reads the configuration and the document, and prints the report of the
task, or writes it to a file. Errors of the library are told on standard error; misuse, such
as bytes that are no text or characters that cannot be printed, ends the run without a result.
A run is a function of the words, the environment, the files and the host.
-/

namespace Folio.CommandLine

/-- Why a task fails. -/
inductive CommandError where
  | config (cause : Config.ConfigError)
  | unreadable (path : String) (problem : FileProblem)
  | notText
  | document (cause : DocumentError)
  | invalid (violation : Violation)
  | report (cause : ReportError)
  | unwritable (path : String) (problem : FileProblem)
  | unencodable
  deriving Inhabited

namespace CommandError

/-- The error as a failure. -/
def failure : CommandError → Failure
  | config cause => Failure.ofConfig cause
  | unreadable path problem =>
    .own .general (s!"Cannot read {path}: " ++ problem.message (FilePath.ofText path).text)
  | notText => Failure.undecodable
  | document cause => Failure.ofDocument cause
  | invalid violation => Failure.ofViolation violation
  | report (.contents cause) => Failure.ofContents cause
  | report (.fault cause) => Failure.ofFault cause
  | unwritable path problem => Failure.ofProblem problem (FilePath.ofText path).text
  | unencodable => Failure.unencodable

end CommandError

/-- What a run has done so far. -/
structure Progress where
  outputs : Logging.Outputs
  written : Logging.Written
  stdout : String := ""
  deriving Inhabited

namespace Progress

/-- Write records to the log. -/
def log (records : List LogRecord) (progress : Progress) : Progress :=
  { progress with written := Logging.write progress.outputs records progress.written }

/-- Print a text. -/
def print (text : String) (progress : Progress) : Progress :=
  { progress with stdout := progress.stdout ++ text }

/-- Write to standard error. -/
def complain (text : String) (progress : Progress) : Progress :=
  { progress with
    written := { progress.written with stderr := progress.written.stderr ++ text } }

end Progress

/-- A step that may fail; what was done before a failure stays done. -/
abbrev Step (α : Type) := ExceptT CommandError (StateM Progress) α

/-- Take a result, logging what was reported on the way to it. -/
def take {ε α : Type} (wrap : ε → CommandError) (reported : Reported (Except ε α)) :
    Step α := do
  modify (Progress.log reported.records)
  MonadExcept.ofExcept (reported.value.mapError wrap)

/-- The name under which runs are reported. -/
def source : String := LogRecord.part "cli"

/-- Read a document and check its shape. -/
def loadDocument (files : FileTree) (path : String) : Except CommandError Tree := do
  let content ← (files.read (FilePath.ofText path)).mapError (.unreadable path)
  match Text.ofBytes? content with
  | none => .error .notText
  | some text =>
    let document ← (Tree.ofJsonText text).mapError .document
    match document.firstViolation? with
    | some violation => .error (.invalid violation)
    | none => .ok document

/-- The texts of a report, each with a line end. -/
def printed (report : List String) : String := String.join (report.map (· ++ "\n"))

/-- Hand a report over: to the file that was named for it, or else to standard output. The host
must be able to take it there. -/
def deliver (host : Host) (output : String) (report : List String) : Step Unit := do
  if output == "" then
    if host.canPrint (printed report) then modify (Progress.print (printed report))
    else throw .unencodable
  else
    let progress ← get
    match progress.written.files.write (FilePath.ofText output) (String.join report) with
    | .error problem => throw (.unwritable output problem)
    | .ok files =>
      if host.canStore (String.join report) then
        set { progress with written := { progress.written with files } }
        modify (Progress.log [⟨Level.info, source, "Wrote " ++ output⟩])
      else throw .unencodable

/-- Carry a task out. `environment` is the configuration file that the environment names. -/
def Invocation.perform (invocation : Invocation) (environment : String) (host : Host) :
    Step Unit := do
  let given := invocation.given
  let files := (← get).written.files
  let config ← take .config
    (Config.loadFirst files (given.config.getD "") environment host.yaml)
  let options ← MonadExcept.ofExcept ((Config.options config).mapError .config)
  let files := (← get).written.files
  let document ← MonadExcept.ofExcept (loadDocument files invocation.input)
  let report ← take .report (invocation.report options document)
  deliver host (given.output.getD "") report

/-- How a run ended: with an exit code, what it wrote, and the files after it. -/
structure Outcome where
  exitCode : Nat
  stdout : String
  stderr : String
  files : FileTree
  deriving Inhabited

/-- The level from which on records are logged: the given one, or else the lowest if the run
is to be verbose. -/
def Given.level (given : Given) : Level :=
  let name := given.logLevel.getD (if given.verbose then "DEBUG" else "WARNING")
  (Logging.levelNamed? name).getD Level.warning

/-- Run a task. Errors of the library lead to exit code 1, any other failure to none. -/
def Invocation.run (invocation : Invocation) (environment : String) (files : FileTree)
    (host : Host) : Except Failure Outcome :=
  let given := invocation.given
  let (outputs, written) := Logging.configure given.level given.logFile given.trace files
  let (result, progress) := (invocation.perform environment host).run.run { outputs, written }
  let outcome (exitCode : Nat) (progress : Progress) : Outcome :=
    ⟨exitCode, progress.stdout, progress.written.stderr, progress.written.files⟩
  match result with
  | .ok () => .ok (outcome 0 progress)
  | .error cause =>
    let failure := cause.failure
    match failure.failureClass, failure.message with
    | .own _, some message =>
      .ok <| outcome 1 <|
        (progress.log [⟨Level.debug, source, "Command failed"⟩]).complain
          ("Error: " ++ message ++ "\n")
    | _, _ => .error failure

/-- The variable of the environment that may name a configuration file. -/
def environmentName : String := "DOCMODEL_CONFIG"

/-- The paths that a run looks at because they are named. -/
def Invocation.paths (invocation : Invocation) (environment : String) : List FilePath :=
  let given := invocation.given
  let optional := [given.config, given.logFile, given.output].filterMap id
  (invocation.input :: environment :: optional).map FilePath.ofText

/-- The places that a run may look at: those of named paths and the directories they lie in,
and those of configuration files on the way to the root and in the home directory. -/
def places (words : List String) (environment : String) (files : FileTree) : List Location :=
  let named := match read words with
    | .ok invocation => (invocation.paths environment).filterMap files.resolve?
    | .error _ => []
  let candidates (directory : Location) : List Location :=
    (Config.projectName :: Config.fileNames).map fun name => directory ++ [name]
  named.flatMap (fun place => [place, place.dropLast]) ++
    (files.home :: Config.upwards files.working).flatMap candidates

/-- The version of the library. -/
def version : String := "1.0.0"

/-- A short help text. -/
def usage : String :=
  "usage: " ++ LogRecord.library ++ " [-h] [--version] COMMAND [OPTIONS] INPUT\n\n" ++
  "  toc      Print the table of contents\n" ++
  "  text     Print all text of the document\n" ++
  "  refs     Assign unique section references\n" ++
  "  collect  List figures, tables or links\n"

/-- Run a command line. Words that are refused lead to exit code 2. -/
def run (words : List String) (environment : String) (files : FileTree) (host : Host := {}) :
    Except Failure Outcome :=
  match read words with
  | .ok invocation => invocation.run environment files host
  | .error .help => .ok ⟨0, usage, "", files⟩
  | .error .version => .ok ⟨0, LogRecord.library ++ " " ++ version ++ "\n", "", files⟩
  | .error .refused => .ok ⟨2, "", usage, files⟩

end Folio.CommandLine
