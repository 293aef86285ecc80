import Folio.Proofs.References.Fixpoint
import Folio.Proofs.References.Smallest

/-!
# Growing documents

A run reads of the references in use only which texts are among them. When a run on a document
has come behind its last section, these are the texts that the sections now have: what a
later run finds pinned is what this one would have carried on with. So a document may be given
references before it grows or after, and new sections without references, behind those that it
has, are without influence on these.
-/

namespace Folio

/-- The tree with more nodes behind the children that it has. -/
def Tree.grown (more : List Tree) (tree : Tree) : Tree :=
  tree.withSlot "children" fun slot => .many (slot.toList ++ more)

namespace References

open Folio.Tree

/-- The same texts are in use. -/
def SameTexts (taken others : List Scalar) : Prop :=
  ∀ reference : String, Scalar.text reference ∈ taken ↔ Scalar.text reference ∈ others

variable {options : ReferenceOptions} {taken others : List Scalar}

/-- A reference that is added to both makes no difference. -/
theorem SameTexts.cons (same : SameTexts taken others) (reference : Scalar) :
    SameTexts (reference :: taken) (reference :: others) := fun used => by
  rw [List.mem_cons, List.mem_cons, same used]

/-- The choice is the first form that is no text in use, so it is the same where these are. -/
theorem choose_congr (typed : options.WellTyped) (same : SameTexts taken others)
    (title : String) : choose options taken title = choose options others title := by
  obtain ⟨fallbackSlug, suffixStart⟩ := options
  obtain ⟨⟨fallback, rfl, -⟩, ⟨start, rfl, -⟩⟩ := typed
  obtain ⟨first, firstEq, form, free⟩ := choose_firstForm fallback start taken title
  obtain ⟨second, secondEq, otherForm, otherFree⟩ := choose_firstForm fallback start others title
  have formThere := form.mono fun used => (same used).1
  have freeThere : Scalar.text first ∉ others := fun used => free ((same first).2 used)
  rw [firstEq, secondEq, formThere.eq_of_free freeThere otherForm otherFree]

/-- Runs along a table give the same references where the same texts are in use. -/
theorem give_congr (typed : options.WellTyped) (same : SameTexts taken others)
    (table : List (String × Scalar)) :
    (give options taken table).1 = (give options others table).1 := by
  induction table generalizing taken others with
  | nil => rfl
  | cons entry rest hypothesis =>
    obtain ⟨title, reference⟩ := entry
    by_cases isSet : reference.isSet = true
    · rw [give_cons_of_isSet isSet, give_cons_of_isSet isSet, hypothesis same]
    · have notSet : reference.isSet = false := by simpa using isSet
      rw [give_cons_of_not_isSet notSet, give_cons_of_not_isSet notSet,
        choose_congr typed same title, hypothesis (same.cons _)]

/-- A run along a table keeps what is set. -/
theorem give_of_isSet (options : ReferenceOptions) (taken : List Scalar)
    {table : List (String × Scalar)} (set : ∀ entry ∈ table, entry.2.isSet = true) :
    give options taken table = (table.map (·.2), taken) := by
  induction table with
  | nil => rfl
  | cons entry rest hypothesis =>
    obtain ⟨here, later⟩ := List.forall_mem_cons.1 set
    rw [give_cons_of_isSet here, hypothesis later, List.map_cons]

/-- Behind the last section all references afterwards are in use. -/
theorem inUse_length {table : List (String × Scalar)} {after : List Scalar}
    (sameLength : after.length = table.length) {reference : String} :
    InUse table after table.length reference ↔ Scalar.text reference ∈ after := by
  constructor
  · rintro ⟨other, _, _, _, atAfter, _⟩
    exact List.mem_of_getElem? atAfter
  · intro member
    obtain ⟨other, inAfter, atAfter⟩ := List.getElem_of_mem member
    have inTable : other < table.length := sameLength ▸ inAfter
    exact ⟨other, table[other].1, table[other].2, List.getElem?_eq_getElem inTable,
      List.getElem?_eq_some_iff.2 ⟨inAfter, atAfter⟩, .inr inTable⟩

/-- The texts in use at the end of a run are those that a later run finds pinned. -/
theorem sameTexts_pinned (typed : options.WellTyped) (tree : Tree) :
    SameTexts (give options (pinned tree) tree.referenceTable).2
      (pinned (assign options tree).tree) := by
  intro reference
  let table := tree.referenceTable
  have pinnedTexts (used : String) :
      Scalar.text used ∈ pinned tree ↔ Scalar.text used ∈ table.map (·.2) ∧ used ≠ "" := by
    rw [← references_eq_table]
    exact text_mem_pinned_iff
  have inUse : Scalar.text reference ∈ (give options (pinned tree) (table.take table.length)).2 ↔
      InUse table (give options (pinned tree) table).1 table.length reference :=
    text_mem_give_take pinnedTexts
  rw [List.take_length, inUse_length (length_give _ _ _), ← (assign_give typed tree).1] at inUse
  rw [inUse, text_mem_pinned_iff]
  refine ⟨fun member => ⟨member, fun empty => ?_⟩, And.left⟩
  -- No section is left with an empty reference.
  simpa [empty] using (assign_completes typed tree).given _ member

section Documents

variable (details : Details) (metadata : Json.Members) (children more : List Tree)

/-- A document grows at the end of its children. -/
theorem grown_document :
    grown more (.node (.document details) metadata [.many children]) =
      .node (.document details) metadata [.many (children ++ more)] := rfl

/-- The sections of a document are those of its children. -/
theorem referenceTable_document :
    (Tree.node (.document details) metadata [.many children]).referenceTable =
      children.flatMap referenceTable := by
  rw [referenceTable_node]
  simp [ownEntry, Slot.toList]

/-- So are its references. -/
theorem references_document :
    (Tree.node (.document details) metadata [.many children]).references =
      children.flatMap references := by
  rw [references_node]
  simp [ownEntry, Slot.toList]

variable {more} in
/-- Sections without references pin none. -/
theorem pinned_grown (unset : ∀ reference ∈ more.flatMap references, reference.isSet = false) :
    pinned (.node (.document details) metadata [.many (children ++ more)]) =
      pinned (.node (.document details) metadata [.many children]) := by
  have none : (more.flatMap references).filter Scalar.isSet = [] :=
    List.filter_eq_nil_iff.2 fun reference member => by simp [unset reference member]
  rw [pinned, pinned, references_document, references_document, List.flatMap_append,
    List.filter_append, none, List.append_nil]

/-- A document loses its references child by child. -/
theorem withoutReferences_document :
    (Tree.node (.document details) metadata [.many children]).withoutReferences =
      .node (.document details) metadata [.many (children.map withoutReferences)] := by
  rw [withoutReferences, mapHeads, mapHeadsSlots_eq]
  rfl

/-- A run leaves a document behind. -/
theorem assign_document (options : ReferenceOptions) :
    ∃ after, (assign options (.node (.document details) metadata [.many children])).tree =
      .node (.document details) metadata [.many after] := ⟨_, rfl⟩

variable {children} in
/-- A run on a document that has grown leaves the children alone that have their references. -/
theorem assign_behind (options : ReferenceOptions)
    (set : ∀ reference ∈ children.flatMap references, reference.isSet = true) :
    ∃ added, added.map withoutReferences = more.map withoutReferences ∧
      (assign options (.node (.document details) metadata [.many (children ++ more)])).tree =
        .node (.document details) metadata [.many (children ++ added)] := by
  let state : State :=
    { taken := pinned (.node (.document details) metadata [.many (children ++ more)]) }
  refine ⟨(assignAll options 1 state more).1, ?_, ?_⟩
  · have same := withoutReferences_assignAll options 1 state more
    rwa [mapHeadsAll_eq, mapHeadsAll_eq] at same
  · have split := assignAll_append options 1 state children more
    rw [assignAll_of_isSet options 1 state children set] at split
    rw [assign]
    simp only [assignTree, visitHead, assignSlots]
    exact congrArg (fun after => Tree.node (.document details) metadata [.many after.1]) split

variable {more} in
/-- A run on a document that has grown by sections without references does to those before what a
run on these alone does, and goes on from there. -/
theorem references_assign_append (typed : options.WellTyped)
    (unset : ∀ reference ∈ more.flatMap references, reference.isSet = false) :
    (assign options
        (.node (.document details) metadata [.many (children ++ more)])).tree.references =
      (assign options (.node (.document details) metadata [.many children])).tree.references ++
        (give options
          (give options (pinned (.node (.document details) metadata [.many children]))
            (children.flatMap referenceTable)).2
          (more.flatMap referenceTable)).1 := by
  rw [(assign_give typed _).1, (assign_give typed _).1, pinned_grown _ _ _ unset,
    referenceTable_document, referenceTable_document, List.flatMap_append, give_append]

variable {children more} in
/-- Whether a document has references before it grows makes no difference to what it has in the
end. -/
theorem assign_grown (typed : options.WellTyped)
    (unset : ∀ reference ∈ more.flatMap references, reference.isSet = false) {after : List Tree}
    (ran : (assign options (.node (.document details) metadata [.many children])).tree =
      .node (.document details) metadata [.many after]) :
    (assign options (.node (.document details) metadata [.many (after ++ more)])).tree =
      (assign options (.node (.document details) metadata [.many (children ++ more)])).tree := by
  let document := Tree.node (.document details) metadata [.many children]
  have agree : after.map withoutReferences = children.map withoutReferences := by
    simpa [document, ran, withoutReferences_document] using
      withoutReferences_assign options document
  refine eq_of_references ?_ ?_
  · rw [withoutReferences_assign, withoutReferences_assign, withoutReferences_document,
      withoutReferences_document, List.map_append, List.map_append, agree]
  · have set := (assign_completes typed document).given
    have carried := sameTexts_pinned typed document
    rw [ran] at set
    rw [ran, referenceTable_document] at carried
    -- The second run has nothing to do before it comes to what is new.
    have unchanged := (assign_of_isSet options set).1
    rw [references_document, references_eq_tables] at set
    have kept := give_of_isSet options (pinned (.node (.document details) metadata [.many after]))
      fun entry member => set entry.2 (List.mem_map_of_mem member)
    rw [references_assign_append _ _ _ typed unset, references_assign_append _ _ _ typed unset,
      unchanged, ran, kept, give_congr typed carried]

end Documents

/-- With well-typed options a run ends without a fault, and a further run, with whatever options,
changes nothing. If a document grows by nodes whose sections have no references, it comes to the
same whether it was given references before; what it had is as it would be without them. -/
theorem assign_incremental (typed : options.WellTyped) :
    (∀ (later : ReferenceOptions) (tree : Tree),
      (assign options tree).fault = none ∧
      (assign later (assign options tree).tree).fault = none ∧
      (assign later (assign options tree).tree).tree = (assign options tree).tree) ∧
    ∀ (details : Details) (metadata : Json.Members) (children more : List Tree),
      (∀ tree ∈ more, ∀ reference ∈ tree.references, reference.isSet = false) →
      let document := Tree.node (.document details) metadata [.many children]
      let settled := (assign options document).tree
      let finished := (assign options (document.grown more)).tree
      (assign options (settled.grown more)).fault = none ∧
      (assign options (document.grown more)).fault = none ∧
      (assign options (settled.grown more)).tree = finished ∧
      ∃ added, added.map withoutReferences = more.map withoutReferences ∧
        finished = settled.grown added := by
  refine ⟨fun later tree => ?again, fun details metadata children more unset => ?growing⟩
  case again =>
    obtain ⟨same, noFault⟩ := assign_assign typed later tree
    exact ⟨(assign_give typed tree).2, noFault, same⟩
  case growing =>
    have unsetAll : ∀ reference ∈ more.flatMap references, reference.isSet = false :=
      fun reference member =>
        have ⟨tree, inMore, inTree⟩ := List.mem_flatMap.1 member
        unset tree inMore reference inTree
    obtain ⟨after, ran⟩ := assign_document details metadata children options
    have same := assign_grown details metadata typed unsetAll ran
    refine ⟨(assign_give typed _).2, (assign_give typed _).2, ?_, ?_⟩
    · rw [ran, grown_document, same, grown_document]
    · let document := Tree.node (.document details) metadata [.many children]
      have set := (assign_completes typed document).given
      rw [ran, references_document] at set
      obtain ⟨added, agree, behind⟩ := assign_behind details metadata more options set
      rw [grown_document, ← same, ran]
      exact ⟨added, agree, behind⟩

/-- Two sections, one of which has the numbered slug of the other for a title. -/
def chapters : List Tree := [ofSection (ofText "A") [], ofSection (ofText "A 2") []]

/-- A document of these. -/
def volume : Tree := .node (.document {}) [] [.many chapters]

/-- A section inside one of the same title. -/
def appendix : Tree := ofSection (ofText "A") [ofSection (ofText "A") []]

/-- The appendix takes the numbers that the chapters leave, whether these have their references
already or not. -/
theorem assign_appendix :
    ReferenceOptions.WellTyped {} ∧
    (∀ tree ∈ [appendix], ∀ reference ∈ tree.references, reference.isSet = false) ∧
    (assign {} volume).tree.references = [.text "a", .text "a-2"] ∧
    (assign {} ((assign {} volume).tree.grown [appendix])).tree =
      (assign {} (volume.grown [appendix])).tree ∧
    (assign {} (volume.grown [appendix])).tree.references =
      [.text "a", .text "a-2", .text "a-3", .text "a-4"] := by
  have typed := ReferenceOptions.wellTyped_default
  have unset : ∀ tree ∈ [appendix], ∀ reference ∈ tree.references, reference.isSet = false := by
    decide
  have incremental := (assign_incremental typed).2 {} [] chapters [appendix] unset
  exact ⟨typed, unset, rfl, incremental.2.2.1, rfl⟩

end References

end Folio
