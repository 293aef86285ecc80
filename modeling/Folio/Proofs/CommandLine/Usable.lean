import Folio.Proofs.CommandLine.Fixpoint
import Folio.Proofs.Config
import Folio.Proofs.References.Settling
import Folio.Proofs.Tree.Reread

/-!
# Configurations that can be used

Options are accepted as soon as a fallback is set and a start is not below 2. That is less than
what giving references needs: `usable_iff` tells what is left to ask. A fallback that is no text
is harmless as long as no title without words asks for it, and a start that is a double as long
as no search from it goes on for ever; under whole numbers none does.
-/

namespace Folio.CommandLine

open Folio.References Folio.Tree

/-- Options can be used on a document: references are given without a fault, every section has a
name as its reference afterwards, and the text that is written is accepted again, as it is stored
and as it is printed. -/
structure Usable (options : ReferenceOptions) (document : Tree) : Prop where
  noFault : (assign options document).fault = none
  named : ∀ reference ∈ (assign options document).tree.references, IsName reference
  accepted : ∀ after ∈ ["", "\n"],
    ∃ again, ofJsonText (writtenText (assign options document).tree ++ after) = .ok again

variable {options : ReferenceOptions} {document : Tree}

/-- A document with names for all its sections has a text that is accepted. -/
theorem usable_of_named (root : document.kind? = some .document)
    (restorable : document.Restorable) (noFault : (assign options document).fault = none)
    (named : ∀ reference ∈ (assign options document).tree.references, IsName reference) :
    Usable options document := by
  have typed : (assign options document).tree.Typed :=
    typed_assign_of_texts restorable.typed fun reference member => (named reference member).isText
  have readable : (assign options document).tree.Everywhere HasReadableTime :=
    everywhere_assign hasReadableTime_withoutReferences restorable.readable
  have rootAfter : (assign options document).tree.kind? = some .document :=
    (kind?_assign document).trans root
  refine ⟨noFault, named, List.forall_mem_cons.2 ⟨?_, List.forall_mem_singleton.2 ?_⟩⟩
  · exact ofJsonText_render rootAfter typed readable (some 2) (by simp [Json.AllBlank]) .nil
  · exact ofJsonText_render rootAfter typed readable (some 2)
      (by simp [Json.AllBlank, Json.isBlank]) (.cons _ (by decide))

/-- Options that can be used on a document let a run write its text. -/
theorem Usable.report {invocation : Invocation} (task : invocation.task = .references)
    {options : ReferenceOptions × ContentsOptions} (usable : Usable options.1 document)
    (typed : document.Typed) :
    (invocation.report options document).value =
      .ok [writtenText (assign options.1 document).tree] :=
  report_references task options usable.noFault <|
    typed_assign_of_texts typed fun reference member => (usable.named reference member).isText

/-- The options that a configuration gives can be used on an accepted document exactly if the
fallback is a text or no section needs it, and no search for a number goes on for ever. Searches
do so only from some doubles. What can be used leads every run that gives references to write the
text that is accepted again. -/
theorem usable_iff {config : Settings} {options : ReferenceOptions × ContentsOptions}
    (given : Config.options config = .ok options) {text : String} {document : Tree}
    (accepted : ofJsonText text = .ok document) (valid : document.firstViolation? = none) :
    (Usable options.1 document ↔
      (HasTextFallback options.1 ∨ ∀ entry ∈ document.referenceTable, ¬NeedsFallback entry) ∧
        (assign options.1 document).fault ≠ some .endlessSearch) ∧
    ((assign options.1 document).fault = some .endlessSearch →
      ∃ double, options.1.suffixStart = .scalar (.float double) ∧
        ∃ taken slug, ¬∃ found, Finds taken slug (.float double) found) ∧
    (Usable options.1 document →
      ∀ (call : Call) (content : ByteArray), Text.ofBytes? content = some text →
        call.invocation.task = .references → call.Finds options content →
        call.Writes (writtenText (assign options.1 document).tree)) := by
  obtain ⟨root, restorable⟩ := ofJsonText_restorable accepted
  have passed := Config.accepted_of_options given
  have settled := assign_named_iff passed restorable.typed
  refine ⟨⟨fun usable => settled.1 ⟨usable.noFault, usable.named⟩, fun possible => ?_⟩,
    assign_endless passed, fun usable call content decoded task finds => ?_⟩
  · obtain ⟨noFault, named⟩ := settled.2 possible
    exact usable_of_named root restorable noFault named
  · have holds : Holds content document := ⟨⟨text, decoded, accepted⟩, valid⟩
    exact finds.writes holds (usable.report task restorable.typed)

/-- A document with a section whose title has no words. -/
def wordless : Tree :=
  .node (.document {}) [] [.many [ofSection (ofText "?") []]]

/-- The document with a title without words is sound. -/
theorem sound_wordless : Sound wordless :=
  ⟨rfl, ⟨by decide, by decide⟩, by decide, rfl⟩

/-- A configuration with a number as the fallback. -/
def numericFallback : Settings :=
  [(.text "references", .table [(.text "fallback_slug", .int 5)])]

/-- A number is accepted as the fallback. -/
theorem options_numericFallback :
    Config.options numericFallback = .ok ({ fallbackSlug := .int 5 }, {}) := rfl

/-- The section has a title without words, and no reference. -/
theorem referenceTable_wordless : wordless.referenceTable = [("?", .text "")] := rfl

/-- The defaults can be used on the document, so that a run writes its text; a number as the
fallback is accepted, but cannot be used on it. -/
theorem usable_iff_wordless :
    Config.options [] = .ok ({}, {}) ∧
      Config.options numericFallback = .ok ({ fallbackSlug := .int 5 }, {}) ∧
      ofJsonText (writtenText wordless) = .ok wordless ∧ wordless.firstViolation? = none ∧
      Usable {} wordless ∧ ¬Usable { fallbackSlug := .int 5 } wordless ∧
      (referencesCall (writtenText wordless).toUTF8).Writes
        (writtenText (assign {} wordless).tree) := by
  obtain ⟨decoded, accepted⟩ := sound_wordless.accepted_self
  have byDefault : Config.options [] = .ok ({}, {}) := rfl
  obtain ⟨usable, onlyDoubles, writes⟩ := usable_iff byDefault accepted sound_wordless.valid
  obtain ⟨numeric, -, -⟩ := usable_iff options_numericFallback accepted sound_wordless.valid
  have ends : (assign {} wordless).fault ≠ some .endlessSearch := fun endless => by
    obtain ⟨value, isDouble, -⟩ := onlyDoubles endless
    cases isDouble
  have isUsable := usable.2 ⟨.inl ⟨"section", rfl⟩, ends⟩
  refine ⟨byDefault, options_numericFallback, accepted, sound_wordless.valid, isUsable, ?_,
    writes isUsable _ _ decoded rfl (finds_referencesCall _)⟩
  intro isUsed
  rcases (numeric.1 isUsed).1 with ⟨fallback, isText⟩ | noNeed
  · cases isText
  · rw [referenceTable_wordless] at noNeed
    exact noNeed ("?", .text "") (List.mem_singleton_self _) ⟨rfl, by decide⟩

/-- Not all options that are accepted can be used on all documents that are. -/
theorem not_all_usable :
    ¬∀ config options text document, Config.options config = .ok options →
      ofJsonText text = .ok document → document.firstViolation? = none →
        Usable options.1 document := by
  intro all
  have usable := all _ _ _ _ options_numericFallback sound_wordless.accepted_self.2
    sound_wordless.valid
  have given : (assign { fallbackSlug := .int 5 } wordless).tree.references = [.int 5] := rfl
  have named := usable.named
  rw [given] at named
  obtain ⟨name, isName, -⟩ := named (.int 5) (List.mem_singleton_self _)
  cases isName

end Folio.CommandLine
