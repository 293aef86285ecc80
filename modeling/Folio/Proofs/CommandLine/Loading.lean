import Folio.Proofs.CommandLine.Fixpoint

/-!
# What becomes of an input

The bytes of an input pass four stages: they are decoded as text, the text is parsed as JSON, the
value is decoded as a document, and the document is checked. Each of the last three refuses what
it cannot take with an error of the library. The first one does not: bytes that are no UTF-8 are
misuse, which ends a run without a result. `failures_of_loading` states that this is the one way
past the errors of the library.
-/

namespace Folio.CommandLine

open Folio.Tree

/-- Bytes are read as a text exactly if they are UTF-8. -/
theorem ofBytes?_eq_none_iff {content : ByteArray} :
    Text.ofBytes? content = none ↔ ¬content.IsValidUTF8 := by
  rw [Text.ofBytes?, Option.map_eq_none_iff, String.fromUTF8?, dite_eq_right_iff]
  simp

/-- A document that has been loaded: it is built as documents are, and the check accepts it. -/
structure Accepted (document : Tree) : Prop where
  root : document.kind? = some .document
  typed : document.Typed
  valid : document.firstViolation? = none

/-- An error of the library, with a message. -/
def IsOwn (failure : Failure) (message : String) : Prop :=
  (∃ errorClass, failure.failureClass = .own errorClass) ∧ failure.message = some message

/-- A text is loaded as a document that the check accepts, or refused with an error of the
library. -/
theorem load_text {files : FileTree} {path : String} {content : ByteArray}
    (stored : files.read (FilePath.ofText path) = .ok content) {text : String}
    (decoded : Text.ofBytes? content = some text) :
    (∃ document, loadDocument files path = .ok document ∧ Accepted document) ∨
      ∃ cause message, loadDocument files path = .error cause ∧ IsOwn cause.failure message := by
  rw [loadDocument, stored]
  simp only [Except.mapError, bind, Except.bind, decoded]
  cases parsed : ofJsonText text with
  | error cause => exact .inr ⟨.document cause, cause.message, rfl, ⟨.serialization, rfl⟩, rfl⟩
  | ok document =>
    obtain ⟨root, restorable⟩ := ofJsonText_restorable parsed
    cases checked : document.firstViolation? with
    | some violation =>
      refine .inr ⟨.invalid violation, violation.message, ?_, ⟨.validation, rfl⟩, rfl⟩
      simp only [checked]
    | none =>
      refine .inl ⟨document, ?_, root, restorable.typed, checked⟩
      simp only [checked]

/-- Bytes that are no text are not loaded. -/
theorem load_undecodable {files : FileTree} {path : String} {content : ByteArray}
    (stored : files.read (FilePath.ofText path) = .ok content)
    (undecodable : Text.ofBytes? content = none) :
    loadDocument files path = .error .notText := by
  rw [loadDocument, stored]
  simp only [Except.mapError, bind, Except.bind, undecodable]

/-- A run that refuses its input with an error of the library fails with it. -/
theorem Call.Finds.fails_unloaded {call : Call} {options : ReferenceOptions × ContentsOptions}
    {content : ByteArray} (finds : call.Finds options content) {cause : CommandError}
    (unloaded : loadDocument call.configured.written.files call.invocation.input = .error cause)
    {message : String} (own : IsOwn cause.failure message) : call.Fails message := by
  obtain ⟨⟨errorClass, isOwn⟩, tells⟩ := own
  obtain ⟨told, files, ends⟩ := Call.outcome_of_own (finds.perform_unloaded unloaded) isOwn tells
  exact ⟨_, ends, rfl, rfl, told, rfl⟩

/-- What becomes of an input of any bytes. If they are UTF-8, it is loaded as a document that the
check accepts, or refused with an error of the library, and a run that refuses it so prints
nothing and fails with that error. If they are not, the failure is no error of the library, and
a run ends with it and without a result. -/
theorem failures_of_loading (content : ByteArray) :
    (∀ files path, files.read (FilePath.ofText path) = .ok content →
      (content.IsValidUTF8 →
        (∃ document, loadDocument files path = .ok document ∧ Accepted document) ∨
          ∃ cause message, loadDocument files path = .error cause ∧
            IsOwn cause.failure message) ∧
      (¬content.IsValidUTF8 → loadDocument files path = .error .notText)) ∧
    ∀ call options, Call.Finds call options content →
      (content.IsValidUTF8 →
        ∀ cause, loadDocument call.configured.written.files call.invocation.input =
          .error cause → ∃ message, cause.failure.message = some message ∧ call.Fails message) ∧
      (¬content.IsValidUTF8 → call.outcome = .error Failure.undecodable) := by
  have decodes (valid : content.IsValidUTF8) : ∃ text, Text.ofBytes? content = some text :=
    Option.ne_none_iff_exists'.1 fun none => ofBytes?_eq_none_iff.1 none valid
  refine ⟨fun files path stored => ⟨fun valid => ?_, fun invalid => ?_⟩,
    fun call options finds => ⟨fun valid cause refused => ?_, fun invalid => ?_⟩⟩
  · obtain ⟨text, decoded⟩ := decodes valid
    exact load_text stored decoded
  · exact load_undecodable stored (ofBytes?_eq_none_iff.2 invalid)
  · obtain ⟨text, decoded⟩ := decodes valid
    rcases load_text finds.content decoded with ⟨document, loaded, -⟩ | ⟨other, message, here, own⟩
    · rw [refused] at loaded
      cases loaded
    · obtain rfl := Except.error.inj (refused.symm.trans here)
      exact ⟨message, own.2, finds.fails_unloaded refused own⟩
  · have unloaded := load_undecodable finds.content (ofBytes?_eq_none_iff.2 invalid)
    have isMisuse : CommandError.notText.failure.failureClass = .misuse .undecodable := rfl
    exact Call.outcome_of_misuse (finds.perform_unloaded unloaded) isMisuse

/-- A byte that no text holds. -/
def loneByte : ByteArray := ⟨#[0xff]⟩

/-- A byte that begins nothing is no text. -/
theorem not_isValidUTF8_loneByte : ¬loneByte.IsValidUTF8 := by
  rw [← ByteArray.validateUTF8_eq_true_iff]
  decide

/-- A run on the byte ends without a result, and one on a list in JSON fails with a message. -/
theorem failures_of_loneByte :
    (contentsCall loneByte).Finds ({}, {}) loneByte ∧
      (contentsCall loneByte).outcome = .error Failure.undecodable ∧
      (contentsCall "[]".toUTF8).Finds ({}, {}) "[]".toUTF8 ∧
      ∃ message, (contentsCall "[]".toUTF8).Fails message := by
  have undecodable := ((failures_of_loading loneByte).2 _ _ (finds_contentsCall _)).2
    not_isValidUTF8_loneByte
  have isText : "[]".toUTF8.IsValidUTF8 := "[]".isValidUTF8
  have refused : ∃ cause, loadDocument (contentsCall "[]".toUTF8).configured.written.files
      (contentsCall "[]".toUTF8).invocation.input = .error cause := ⟨_, rfl⟩
  obtain ⟨cause, isRefused⟩ := refused
  obtain ⟨message, -, fails⟩ := ((failures_of_loading "[]".toUTF8).2 _ _
    (finds_contentsCall _)).1 isText cause isRefused
  exact ⟨finds_contentsCall _, undecodable, finds_contentsCall _, message, fails⟩

/-- It is not the case that every input is loaded or refused with an error of the library. -/
theorem not_only_own_errors :
    ¬∀ files path content, files.read (FilePath.ofText path) = .ok content →
      (∃ document, loadDocument files path = .ok document ∧ Accepted document) ∨
        ∃ cause message, loadDocument files path = .error cause ∧ IsOwn cause.failure message := by
  intro only
  have stored : (directoryWith loneByte).read (FilePath.ofText "draft.json") = .ok loneByte :=
    read_draft loneByte
  have ends := load_undecodable stored (ofBytes?_eq_none_iff.2 not_isValidUTF8_loneByte)
  rcases only _ _ _ stored with ⟨document, loaded, -⟩ | ⟨cause, message, refused, ⟨_, own⟩, -⟩
  · rw [ends] at loaded
    cases loaded
  · obtain rfl := Except.error.inj (ends.symm.trans refused)
    cases own

end Folio.CommandLine
