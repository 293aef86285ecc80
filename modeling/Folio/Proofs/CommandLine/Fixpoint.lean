import Folio.Proofs.CommandLine.Arguments
import Folio.Proofs.CommandLine.Runs
import Folio.Proofs.Json.Characters
import Folio.Proofs.References.Fixpoint
import Folio.Proofs.Tree.Decoded
import Folio.Proofs.Tree.RoundTrip

/-!
# References that were written are final

What a run with the task of giving references writes is the text of a document in which all
references are set. Given to another such run, it comes out unchanged, whatever that run is
configured to do; given to a run with another task, it leads to the same report as the
document that the references were given in. All of it rests on four facts: documents that
were read can be restored from their texts, giving references keeps them so, giving them again
has no effect, and no other report reads the references that are missing.
-/

namespace Folio.CommandLine

open Folio.References Folio.Tree

/-- The bytes of a text as a run writes it to a file, or as it prints it, with a line end. -/
def HandedOver (text : String) (content : ByteArray) : Prop :=
  content = text.toUTF8 ∨ content = (text ++ "\n").toUTF8

/-- A document that is restored from its text, in which nothing is wrong. -/
structure Sound (document : Tree) : Prop where
  root : document.kind? = some .document
  restorable : document.Restorable
  exact : document.Everywhere HasExactMetadata
  valid : document.firstViolation? = none

/-- The text that is written for a document. -/
def writtenText (document : Tree) : String := document.encode.render (some 2)

/-- A text that was written for a document, with blanks behind it, is read from its bytes and
accepted as that document. -/
theorem Sound.accepted {document : Tree} (sound : Sound document) {after : String}
    (blank : Json.AllBlank after.toList) (ends : Json.EndsNumber after.toList)
    (unified : '\r' ∉ after.toList) :
    Text.ofBytes? (writtenText document ++ after).toUTF8 = some (writtenText document ++ after) ∧
      ofJsonText (writtenText document ++ after) = .ok document := by
  obtain ⟨typed, readable⟩ := sound.restorable
  obtain ⟨exact, distinct⟩ := encode_exact_distinct typed sound.exact readable
  constructor
  · apply Text.ofBytes?_toUTF8
    rw [String.toList_append, List.mem_append]
    rintro (inside | behind)
    · exact Json.carriageReturn_notMem_render _ _ inside
    · exact unified behind
  · rw [ofJsonText, writtenText, Json.parse_render_append _ _ exact distinct after blank ends]
    simp only [decode_encode typed readable, sound.root]

/-- A text that was written for a document is accepted as that document. -/
theorem Sound.accepted_self {document : Tree} (sound : Sound document) :
    Text.ofBytes? (writtenText document).toUTF8 = some (writtenText document) ∧
      ofJsonText (writtenText document) = .ok document := by
  have plain : Json.AllBlank "".toList := by simp [Json.AllBlank]
  simpa only [String.append_empty] using sound.accepted plain .nil (by simp)

/-- A text that was written for a document holds it when it is handed over. -/
theorem Sound.holds {document : Tree} (sound : Sound document) {content : ByteArray}
    (handed : HandedOver (writtenText document) content) : Holds content document := by
  rcases handed with rfl | rfl
  · exact ⟨⟨_, sound.accepted_self⟩, sound.valid⟩
  · have lineEnd : Json.AllBlank "\n".toList := by simp [Json.AllBlank, Json.isBlank]
    exact ⟨⟨_, sound.accepted lineEnd (.cons _ (by decide)) (by decide)⟩, sound.valid⟩

/-- Giving references leaves a document sound. -/
theorem Sound.assign {document : Tree} (sound : Sound document) {options : ReferenceOptions}
    (typed : options.WellTyped) : Sound (assign options document).tree where
  root := (kind?_assign document).trans sound.root
  restorable :=
    ⟨typed_assign typed sound.restorable.typed,
      everywhere_assign hasReadableTime_withoutReferences sound.restorable.readable⟩
  exact := everywhere_assign hasExactMetadata_withoutReferences sound.exact
  valid := (firstViolation?_assign document).trans sound.valid

/-- The report on references is the text of the document with them. -/
theorem report_references {invocation : Invocation} (task : invocation.task = .references)
    (options : ReferenceOptions × ContentsOptions) {document : Tree}
    (noFault : (assign options.1 document).fault = none)
    (typed : (assign options.1 document).tree.Typed) :
    (invocation.report options document).value =
      .ok [writtenText (assign options.1 document).tree] := by
  have encoded : (assign options.1 document).tree.toJsonText (some 2) =
      .ok (writtenText (assign options.1 document).tree) := by
    rw [toJsonText, encodeChecked, strays_eq_nil typed]
    rfl
  simp only [Invocation.report, task, withReferences, noFault, reportReferences, encoded,
    Except.mapError, Except.map]

/-- A report without drawings that is not on references: on a table of contents, a text or a
collection. It does not change when references are given first. -/
theorem report_assign {before after : Invocation} (same : before.task = after.task)
    (other : before.task ≠ .references) (plain : before.given.rich = false)
    (plainAfter : after.given.rich = false) {options : ReferenceOptions × ContentsOptions}
    (typed : options.1.WellTyped) (document : Tree) :
    (after.report options (assign options.1 document).tree).value =
      (before.report options document).value := by
  have noFault := (assign_give typed document).2
  obtain ⟨unchanged, stillNone⟩ := assign_assign typed options.1 document
  cases task : before.task with
  | references => exact absurd task other
  | contents =>
    rw [task] at same
    simp only [Invocation.report, task, ← same, plain, plainAfter, withReferences, noFault,
      stillNone, unchanged]
    rfl
  | text =>
    rw [task] at same
    simp only [Invocation.report, task, ← same, text_assign]
  | collect kind =>
    rw [task] at same
    have rows : kind.rows (assign options.1 document).tree = kind.rows document := by
      rw [← rows_withoutReferences, withoutReferences_assign, rows_withoutReferences]
    simp only [Invocation.report, task, ← same, plain, plainAfter, reportCollected, rows]

/-- A report without drawings is there, or it is refused for the sake of a reference. -/
theorem report_told {invocation : Invocation} (other : invocation.task ≠ .references)
    (plain : invocation.given.rich = false) {options : ReferenceOptions × ContentsOptions}
    (typed : options.1.WellTyped) (document : Tree) :
    (∃ report, (invocation.report options document).value = .ok report) ∨
      ∃ cause, (invocation.report options document).value = .error (.contents cause) := by
  have noFault := (assign_give typed document).2
  cases task : invocation.task with
  | references => exact absurd task other
  | contents =>
    simp only [Invocation.report, task, plain, withReferences, noFault, reportContents]
    cases built : (Contents.build options.2 (assign options.1 document).tree).value with
    | ok contents => simp
    | error cause => simp
  | text => exact .inl ⟨_, by simp only [Invocation.report, task]; rfl⟩
  | collect kind => exact .inl ⟨_, by simp only [Invocation.report, task]; rfl⟩

/-- What a run on an accepted text writes when it gives references is final. Every run that is
to give references to it again, with whatever options, writes the same; and every other run
without drawings shows the same, and ends alike, as on the accepted text, if the options are
the same. The metadata of the document must not hold doubles. -/
theorem written_references_final {text : String} {document : Tree}
    (accepted : ofJsonText text = .ok document) (valid : document.firstViolation? = none)
    (exact : document.Everywhere HasExactMetadata)
    (options : ReferenceOptions × ContentsOptions) (typed : options.1.WellTyped) :
    ∃ out : String,
      (∀ (call : Call) (content : ByteArray), Text.ofBytes? content = some text →
        call.invocation.task = .references → call.Finds options content → call.Writes out) ∧
      ∀ again : ByteArray, HandedOver out again →
        (∀ (call : Call) (later : ReferenceOptions × ContentsOptions),
          call.invocation.task = .references → call.Finds later again → call.Writes out) ∧
        ∀ (before after : Call) (content : ByteArray), Text.ofBytes? content = some text →
          before.invocation.task = after.invocation.task →
          before.invocation.task ≠ .references → before.invocation.given.rich = false →
          after.invocation.given.rich = false → before.Finds options content →
          after.Finds options again →
          ∃ shown exitCode, before.Shows shown exitCode ∧ after.Shows shown exitCode := by
  obtain ⟨root, restorable⟩ := ofJsonText_restorable accepted
  have sound : Sound document := ⟨root, restorable, exact, valid⟩
  have soundAfter := sound.assign typed
  have original : ∀ content, Text.ofBytes? content = some text → Holds content document :=
    fun content decoded => ⟨⟨text, decoded, accepted⟩, valid⟩
  refine ⟨writtenText (assign options.1 document).tree, ?_, fun again handed => ⟨?_, ?_⟩⟩
  · intro call content decoded task finds
    exact finds.writes (original content decoded)
      (report_references task options (assign_give typed document).2 soundAfter.restorable.typed)
  · intro call later task finds
    obtain ⟨unchanged, noFault⟩ := assign_assign typed later.1 document
    have report := report_references task later noFault (by
      rw [unchanged]
      exact soundAfter.restorable.typed)
    rw [unchanged] at report
    exact finds.writes (soundAfter.holds handed) report
  · intro before after content decoded same other plain plainAfter finds findsAgain
    have unnamed : before.output = "" := by
      rw [Call.output, output_eq_none before.read other]
      rfl
    have unnamedAfter : after.output = "" := by
      rw [Call.output, output_eq_none after.read (same ▸ other)]
      rfl
    have alike := report_assign same other plain plainAfter typed document
    rcases report_told other plain typed document with ⟨report, there⟩ | ⟨cause, refused⟩
    · exact ⟨_, _, finds.shows (original content decoded) unnamed there,
        findsAgain.shows (soundAfter.holds handed) unnamedAfter (alike.trans there)⟩
    · exact ⟨_, _, finds.shows_nothing (original content decoded) refused,
        findsAgain.shows_nothing (soundAfter.holds handed) (alike.trans refused)⟩

/-- A working directory with nothing in it but a file. -/
def directoryWith (content : ByteArray) : FileTree :=
  { root := "", entries := [(["draft.json"], .file content)] }

/-- The references of the file are to be given. -/
def referencesCall (content : ByteArray) : Call where
  words := ["refs", "draft.json"]
  environment := ""
  files := directoryWith content
  invocation := ⟨.references, "draft.json", {}⟩
  read := by decide

/-- The table of contents of the file is to be shown. -/
def contentsCall (content : ByteArray) : Call where
  words := ["toc", "draft.json"]
  environment := ""
  files := directoryWith content
  invocation := ⟨.contents, "draft.json", {}⟩
  read := by decide

/-- A section inside another one of the same title, and one with a reference. -/
def draft : Tree :=
  .node (.document { title := "Draft" }) [] [.many
    [ofSection (ofText "A") [ofSection (ofText "A") []],
      ofSection (ofText "?") [] (.text "a-2")]]

/-- The draft has the given content. -/
theorem read_draft (content : ByteArray) :
    (directoryWith content).read (FilePath.ofText "draft.json") = .ok content := by
  have path : FilePath.ofText "draft.json" = ⟨false, ["draft.json"]⟩ := by decide
  rw [path]
  rfl

/-- The run that gives references to the draft finds default options and the content. -/
theorem finds_referencesCall (content : ByteArray) :
    (referencesCall content).Finds ({}, {}) content :=
  ⟨⟨[], rfl, rfl⟩, read_draft content⟩

/-- So does the run that shows its table of contents. -/
theorem finds_contentsCall (content : ByteArray) :
    (contentsCall content).Finds ({}, {}) content :=
  ⟨⟨[], rfl, rfl⟩, read_draft content⟩

/-- The draft is read back from its text, and nothing is wrong with it. -/
theorem sound_draft : Sound draft :=
  ⟨rfl, ⟨by decide, by decide⟩, by decide, by decide⟩

/-- The references of the draft are final once they are written. -/
theorem written_draft_final :
    ofJsonText (writtenText draft) = .ok draft ∧ draft.firstViolation? = none ∧
      draft.Everywhere HasExactMetadata ∧ ReferenceOptions.WellTyped {} ∧
      ∃ out : String,
        (referencesCall (writtenText draft).toUTF8).Writes out ∧
        (referencesCall out.toUTF8).Writes out ∧
        ∃ shown exitCode, (contentsCall (writtenText draft).toUTF8).Shows shown exitCode ∧
          (contentsCall (out ++ "\n").toUTF8).Shows shown exitCode := by
  obtain ⟨decoded, accepted⟩ := sound_draft.accepted_self
  have typed := ReferenceOptions.wellTyped_default
  refine ⟨accepted, sound_draft.valid, sound_draft.exact, typed, ?_⟩
  obtain ⟨out, first, again⟩ := written_references_final accepted sound_draft.valid
    sound_draft.exact ({}, {}) typed
  refine ⟨out, first _ _ decoded rfl (finds_referencesCall _), ?_, ?_⟩
  · exact (again _ (.inl rfl)).1 _ ({}, {}) rfl (finds_referencesCall _)
  · exact (again _ (.inr rfl)).2 _ _ _ decoded rfl (by decide) rfl rfl (finds_contentsCall _)
      (finds_contentsCall _)

end Folio.CommandLine
