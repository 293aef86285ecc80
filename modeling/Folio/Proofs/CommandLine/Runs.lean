import Folio.CommandLine
import Folio.Proofs.Logging

/-!
# What a run does

A run on a command line that asks for a task sets up its log, finds a configuration, reads its
input, and hands over the report of the task. The lemmas here carry a run past these stages:
once a run finds options and a document, its end is decided by the report and by the characters
that the host can take, and nothing that the log does gets in the way of a report that is written
to a file.
-/

namespace Folio.CommandLine

namespace Step

variable {ε α β : Type} {progress : Progress}

/-- What follows a look at the progress is given it. -/
theorem run_get (next : Progress → Step β) :
    (get >>= next).run.run progress = (next progress).run.run progress := rfl

/-- A result that is there is handed on. -/
theorem run_ofExcept {result : Except CommandError α} {value : α} (there : result = .ok value)
    (next : α → Step β) :
    (MonadExcept.ofExcept result >>= next).run.run progress = (next value).run.run progress := by
  subst there
  rfl

/-- A result that is there is handed on, once its records are logged. -/
theorem run_take {wrap : ε → CommandError} {reported : Reported (Except ε α)} {value : α}
    (there : reported.value = .ok value) (next : α → Step β) :
    (take wrap reported >>= next).run.run progress =
      (next value).run.run (progress.log reported.records) := by
  rw [take, there]
  rfl

/-- An error ends a run, once the records on the way to it are logged. -/
theorem run_take_error {wrap : ε → CommandError} {reported : Reported (Except ε α)} {cause : ε}
    (failed : reported.value = .error cause) (next : α → Step β) :
    (take wrap reported >>= next).run.run progress =
      (.error (wrap cause), progress.log reported.records) := by
  rw [take, failed]
  rfl

/-- Without a file, a report is printed that the host can take there. -/
theorem run_deliver_print {host : Host} {report : List String}
    (takes : host.canPrint (printed report) = true) :
    (deliver host "" report).run.run progress = (.ok (), progress.print (printed report)) := by
  rw [deliver, if_pos (by decide), if_pos takes]
  rfl

/-- Without a file, a report with a character that the host cannot print is an error. -/
theorem run_deliver_unprinted {host : Host} {report : List String}
    (refuses : host.canPrint (printed report) = false) :
    (deliver host "" report).run.run progress = (.error .unencodable, progress) := by
  rw [deliver, if_pos (by decide), refuses, if_neg Bool.false_ne_true]
  rfl

section Files

variable (progress) {host : Host} {output : String} (named : output ≠ "") {location : Location}
  (writable : progress.written.files.writable (FilePath.ofText output) = .ok location)
  (report : List String)

include writable

/-- A report is put at the place of a file that can be written. -/
theorem write_eq :
    progress.written.files.write (FilePath.ofText output) (String.join report) =
      .ok (progress.written.files.put location (String.join report).toUTF8) := by
  rw [FileTree.write, writable]
  rfl

include named

/-- With a file that can be written, a report is put there, and that is logged. -/
theorem run_deliver_file (takes : host.canStore (String.join report) = true) :
    ∃ written : Logging.Written,
      written.files = progress.written.files.put location (String.join report).toUTF8 ∧
      (deliver host output report).run.run progress =
        (.ok (), ({ progress with written } : Progress).log
          [⟨Level.info, source, "Wrote " ++ output⟩]) := by
  refine ⟨{ progress.written with
    files := progress.written.files.put location (String.join report).toUTF8 }, rfl, ?_⟩
  rw [deliver, if_neg (by simpa using named), run_get]
  simp only [write_eq progress writable report, takes, if_true]
  rfl

/-- A report with a character that the host cannot put into a file is an error. -/
theorem run_deliver_unstored (refuses : host.canStore (String.join report) = false) :
    (deliver host output report).run.run progress = (.error .unencodable, progress) := by
  rw [deliver, if_neg (by simpa using named), run_get]
  simp only [write_eq progress writable report, refuses, Bool.false_eq_true, if_false]
  rfl

end Files

end Step

/-- The bytes are the text of a document in which nothing is wrong. -/
structure Holds (content : ByteArray) (document : Tree) : Prop where
  read : ∃ text, Text.ofBytes? content = some text ∧ Tree.ofJsonText text = .ok document
  valid : document.firstViolation? = none

/-- A command line that asks for a task, with the environment, the files and the host that its run
meets. -/
structure Call where
  words : List String
  environment : String
  files : FileTree
  host : Host := {}
  invocation : Invocation
  read : CommandLine.read words = .ok invocation

namespace Call

section Stages

variable (call : Call)

/-- How the run ends. -/
def outcome : Except Failure Outcome :=
  run call.words call.environment call.files call.host

/-- The progress of the run once the log is set up. -/
def started : Progress :=
  let given := call.invocation.given
  let configured := Logging.configure given.level given.logFile given.trace call.files
  { outputs := configured.1, written := configured.2 }

/-- The configuration that the run finds. -/
def loaded : Reported (Except Config.ConfigError Settings) :=
  Config.loadFirst call.started.written.files (call.invocation.given.config.getD "")
    call.environment call.host.yaml

/-- The progress of the run once the configuration is read. -/
def configured : Progress := call.started.log call.loaded.records

/-- The file that is named for the report; no name stands for standard output. -/
def output : String := call.invocation.given.output.getD ""

/-- The run finds a configuration that gives the options, and an input with the content. -/
structure Finds (options : ReferenceOptions × ContentsOptions) (content : ByteArray) : Prop where
  options : ∃ config, call.loaded.value = .ok config ∧ Config.options config = .ok options
  content : call.configured.written.files.read (FilePath.ofText call.invocation.input) =
    .ok content

/-- The run ends well and hands a text over, if the host can take it: it prints it, in front of a
line end, or leaves it in the file that is named for it, if that can be written. There, only what
the log writes to the same file can follow. A text that the host cannot take is the end of the run,
without a result. -/
structure Writes (text : String) : Prop where
  printed : call.output = "" →
    (call.host.canPrint (text ++ "\n") = true →
      ∃ outcome, call.outcome = .ok outcome ∧ outcome.exitCode = 0 ∧
        outcome.stdout = text ++ "\n") ∧
    (call.host.canPrint (text ++ "\n") = false → call.outcome = .error Failure.unencodable)
  stored : call.output ≠ "" →
    ∀ location, call.started.written.files.writable (FilePath.ofText call.output) = .ok location →
      (call.host.canStore text = true →
        ∃ outcome logged, call.outcome = .ok outcome ∧ outcome.exitCode = 0 ∧
          outcome.stdout = "" ∧
          outcome.files.read (FilePath.ofText call.output) = .ok (text.toUTF8 ++ logged) ∧
          (call.started.outputs.file ≠ some location → logged = ByteArray.empty)) ∧
      (call.host.canStore text = false → call.outcome = .error Failure.unencodable)

/-- The run ends with a text on standard output and an exit code. -/
def Prints (text : String) (exitCode : Nat) : Prop :=
  ∃ outcome, call.outcome = .ok outcome ∧ outcome.stdout = text ∧ outcome.exitCode = exitCode

/-- The run prints a text and ends with an exit code, if the host can print the text, and otherwise
it ends without a result, for just that reason. -/
def Shows (text : String) (exitCode : Nat) : Prop :=
  (call.host.canPrint text = true → call.Prints text exitCode) ∧
  (call.host.canPrint text = false → call.outcome = .error Failure.unencodable)

/-- The run prints nothing and ends with exit code 1, and the last thing on standard error is a
message. -/
def Fails (message : String) : Prop :=
  ∃ outcome, call.outcome = .ok outcome ∧ outcome.exitCode = 1 ∧ outcome.stdout = "" ∧
    ∃ told, outcome.stderr = told ++ ("Error: " ++ message ++ "\n")

end Stages

variable {call : Call} {options : ReferenceOptions × ContentsOptions} {content : ByteArray}
  {document : Tree}

/-- An input that holds a document is loaded as that document. -/
theorem Finds.load (finds : call.Finds options content) (holds : Holds content document) :
    loadDocument call.configured.written.files call.invocation.input = .ok document := by
  obtain ⟨text, decoded, accepted⟩ := holds.read
  simp only [loadDocument, finds.content, Except.mapError, bind, Except.bind, decoded, accepted,
    holds.valid]

/-- The stages before the report lead to it. -/
theorem Finds.perform (finds : call.Finds options content) (holds : Holds content document) :
    (call.invocation.perform call.environment call.host).run.run call.started =
      (do
        let report ← take .report (call.invocation.report options document)
        deliver call.host call.output report : Step Unit).run.run call.configured := by
  obtain ⟨config, loaded, given⟩ := finds.options
  have document := finds.load holds
  have given : (Config.options config).mapError CommandError.config = .ok options := by
    rw [given]
    rfl
  rw [configured] at document ⊢
  rw [Call.loaded] at loaded document ⊢
  rw [Invocation.perform, Step.run_get]
  dsimp only
  rw [Step.run_take loaded, Step.run_ofExcept given, Step.run_get, Step.run_ofExcept document]
  rfl

/-- A run that cannot load its input ends there. -/
theorem Finds.perform_unloaded (finds : call.Finds options content) {cause : CommandError}
    (unloaded : loadDocument call.configured.written.files call.invocation.input = .error cause) :
    (call.invocation.perform call.environment call.host).run.run call.started =
      (.error cause, call.configured) := by
  obtain ⟨config, loaded, given⟩ := finds.options
  have given : (Config.options config).mapError CommandError.config = .ok options := by
    rw [given]
    rfl
  rw [configured] at unloaded ⊢
  rw [Call.loaded] at loaded unloaded ⊢
  rw [Invocation.perform, Step.run_get]
  dsimp only
  rw [Step.run_take loaded, Step.run_ofExcept given, Step.run_get, unloaded]
  rfl

/-- A run without an error ends with exit code 0. -/
theorem outcome_of_ok {progress : Progress}
    (performed : (call.invocation.perform call.environment call.host).run.run call.started =
      (.ok (), progress)) :
    call.outcome =
      .ok ⟨0, progress.stdout, progress.written.stderr, progress.written.files⟩ := by
  rw [started] at performed
  rw [outcome, run, call.read]
  simp only [Invocation.run]
  rw [performed]

/-- An error of the library leads to exit code 1, and the last thing on standard error is its
message. -/
theorem outcome_of_own {progress : Progress} {cause : CommandError}
    (performed : (call.invocation.perform call.environment call.host).run.run call.started =
      (.error cause, progress)) {errorClass : ErrorClass} {message : String}
    (own : cause.failure.failureClass = .own errorClass)
    (tells : cause.failure.message = some message) :
    ∃ told files, call.outcome =
      .ok ⟨1, progress.stdout, told ++ ("Error: " ++ message ++ "\n"), files⟩ := by
  rw [started] at performed
  rw [outcome, run, call.read]
  simp only [Invocation.run]
  rw [performed]
  simp only [own, tells]
  exact ⟨_, _, rfl⟩

/-- Misuse ends a run without a result. -/
theorem outcome_of_misuse {progress : Progress} {cause : CommandError}
    (performed : (call.invocation.perform call.environment call.host).run.run call.started =
      (.error cause, progress)) {misuse : Misuse}
    (isMisuse : cause.failure.failureClass = .misuse misuse) :
    call.outcome = .error cause.failure := by
  rw [started] at performed
  rw [outcome, run, call.read]
  simp only [Invocation.run]
  rw [performed]
  simp only [isMisuse]

/-- A refused table of contents is an error of the library. It leads to exit code 1, and the last
thing on standard error is its message. -/
theorem outcome_of_refusal {progress : Progress} {cause : Contents.ContentsError}
    (performed : (call.invocation.perform call.environment call.host).run.run call.started =
      (.error (.report (.contents cause)), progress)) :
    ∃ told files, call.outcome =
      .ok ⟨1, progress.stdout, told ++ ("Error: " ++ cause.message ++ "\n"), files⟩ := by
  cases cause <;> exact outcome_of_own performed rfl rfl

/-- A report with characters that the host cannot take is the end of a run. -/
theorem outcome_of_unencodable {progress : Progress}
    (performed : (call.invocation.perform call.environment call.host).run.run call.started =
      (.error .unencodable, progress)) : call.outcome = .error Failure.unencodable := by
  have isMisuse : CommandError.unencodable.failure.failureClass = .misuse .value := rfl
  exact outcome_of_misuse performed isMisuse

/-- A run that has something to report prints it if no file is named. -/
theorem Finds.shows (finds : call.Finds options content) (holds : Holds content document)
    (unnamed : call.output = "") {report : List String}
    (there : (call.invocation.report options document).value = .ok report) :
    call.Shows (printed report) 0 := by
  have performed := finds.perform holds
  rw [Step.run_take there, unnamed] at performed
  refine ⟨fun takes => ?_, fun refuses => ?_⟩
  · rw [Step.run_deliver_print takes] at performed
    exact ⟨_, outcome_of_ok performed, String.empty_append, rfl⟩
  · rw [Step.run_deliver_unprinted refuses] at performed
    exact outcome_of_unencodable performed

/-- A run that refuses to report prints nothing and fails with the refusal. -/
theorem Finds.fails (finds : call.Finds options content)
    (holds : Holds content document) {cause : Contents.ContentsError}
    (refused : (call.invocation.report options document).value = .error (.contents cause)) :
    call.Fails cause.message := by
  have performed := finds.perform holds
  rw [Step.run_take_error refused] at performed
  obtain ⟨told, files, ends⟩ := outcome_of_refusal performed
  exact ⟨_, ends, rfl, rfl, told, rfl⟩

/-- A run that refuses to report prints nothing. -/
theorem Finds.shows_nothing (finds : call.Finds options content)
    (holds : Holds content document) {cause : Contents.ContentsError}
    (refused : (call.invocation.report options document).value = .error (.contents cause)) :
    call.Shows "" 1 := by
  obtain ⟨outcome, ends, exitCode, prints, _⟩ := finds.fails holds refused
  refine ⟨fun _ => ⟨outcome, ends, prints, exitCode⟩, fun refuses => ?_⟩
  rw [Host.canPrint_empty] at refuses
  cases refuses

/-- A run that reports one text writes it. -/
theorem Finds.writes (finds : call.Finds options content) (holds : Holds content document)
    {text : String} (there : (call.invocation.report options document).value = .ok [text]) :
    call.Writes text := by
  refine ⟨fun unnamed => ?_, fun named location writable => ?_⟩
  · have one : printed [text] = text ++ "\n" := by
      rw [printed, List.map_singleton, String.join_cons, String.join_nil, String.append_empty]
    obtain ⟨prints, refuses⟩ := finds.shows holds unnamed there
    rw [one] at prints refuses
    refine ⟨fun takes => ?_, refuses⟩
    obtain ⟨outcome, ends, shown, good⟩ := prints takes
    exact ⟨outcome, ends, good, shown⟩
  · have performed := finds.perform holds
    rw [Step.run_take there] at performed
    -- The log is written twice before the report is, and neither time makes a difference.
    have isOpen : call.started.outputs.Open call.started.written.files :=
      Logging.configure_open _ _ _ _
    have openLater := isOpen.write call.loaded.records
    have writableLater := Logging.writable_write isOpen call.loaded.records writable
    have openLast := openLater.write (call.invocation.report options document).records
    have writableLast := Logging.writable_write openLater
      (call.invocation.report options document).records writableLater
    have one : String.join [text] = text := by
      rw [String.join_cons, String.join_nil, String.append_empty]
    refine ⟨fun takes => ?_, fun refuses => ?_⟩
    · rw [← one] at takes
      obtain ⟨written, stored, ends⟩ := Step.run_deliver_file
        (call.configured.log (call.invocation.report options document).records) named writableLast
        [text] takes
      rw [ends] at performed
      rw [one] at stored
      obtain ⟨logged, holdsText, own⟩ := Logging.read_write openLast
        [⟨Level.info, source, "Wrote " ++ call.output⟩] writableLast written stored
      exact ⟨_, logged, outcome_of_ok performed, rfl, rfl, holdsText, own⟩
    · rw [← one] at refuses
      have ends := Step.run_deliver_unstored
        (call.configured.log (call.invocation.report options document).records) named writableLast
        [text] refuses
      exact outcome_of_unencodable (performed.trans ends)

end Call

end Folio.CommandLine
