import Folio.Proofs.References.Uniqueness
import Folio.Proofs.Tree.Invariance

/-!
# Runs with nothing to give

A run on a tree whose sections all have references leaves the tree as it is, whatever the
options say. A run leaves such a tree behind; so every further run is without effect. What a
run leaves behind is typed and valid if the tree was so before.
-/

namespace Folio.References

open Folio.Tree

/-- A visit has no effect on a node that is no section or has a reference. -/
theorem visitHead_of_isSet (options : ReferenceOptions) (depth : Int)
    (slots : List (Slot Tree)) (state : State) {head : Head}
    (set : ∀ entry ∈ ownEntry slots head, entry.2.isSet = true) :
    visitHead options depth slots state head = (head, state) := by
  cases head with
  | «section» reference =>
    have listed : ((titleIn slots).text, reference) ∈ ownEntry slots (.section reference) :=
      List.mem_singleton_self _
    have isSet : reference.isSet = true := set _ listed
    simp [visitHead, visitSection, isSet]
  | _ => rfl

mutual

/-- A run has no effect on a tree whose references are all set. -/
theorem assignTree_of_isSet (options : ReferenceOptions) (depth : Int) (state : State) :
    ∀ tree : Tree, (∀ reference ∈ tree.references, reference.isSet = true) →
      assignTree options depth state tree = (tree, state)
  | .stray value, _ => rfl
  | .node head metadata slots, set => by
    rw [references_node] at set
    have own : ∀ entry ∈ ownEntry slots head, entry.2.isSet = true := fun entry member =>
      set entry.2 (List.mem_append_left _ (List.mem_map_of_mem member))
    have here := visitHead_of_isSet options depth slots state own
    have below := assignSlots_of_isSet options (depth + 1) state slots fun reference member =>
      set reference (List.mem_append_right _ member)
    simp only [assignTree, here, below]

/-- A run has no effect on slots in which all references are set. -/
theorem assignSlots_of_isSet (options : ReferenceOptions) (depth : Int) (state : State) :
    ∀ slots : List (Slot Tree),
      (∀ reference ∈ (slots.flatMap Slot.toList).flatMap references, reference.isSet = true) →
      assignSlots options depth state slots = (slots, state)
  | [], _ => rfl
  | .one tree :: rest, set => by
    rw [List.flatMap_cons, List.flatMap_append, List.forall_mem_append] at set
    have here := assignTree_of_isSet options depth state tree fun reference member =>
      set.1 reference (by simpa [Slot.toList] using member)
    have later := assignSlots_of_isSet options depth state rest set.2
    simp only [assignSlots, here, later]
  | .many trees :: rest, set => by
    rw [List.flatMap_cons, List.flatMap_append, List.forall_mem_append] at set
    have here := assignAll_of_isSet options depth state trees set.1
    have later := assignSlots_of_isSet options depth state rest set.2
    simp only [assignSlots, here, later]

/-- A run has no effect on trees whose references are all set. -/
theorem assignAll_of_isSet (options : ReferenceOptions) (depth : Int) (state : State) :
    ∀ trees : List Tree,
      (∀ reference ∈ trees.flatMap references, reference.isSet = true) →
      assignAll options depth state trees = (trees, state)
  | [], _ => rfl
  | tree :: rest, set => by
    rw [List.flatMap_cons, List.forall_mem_append] at set
    have here := assignTree_of_isSet options depth state tree set.1
    have later := assignAll_of_isSet options depth state rest set.2
    simp only [assignAll, here, later]

end

/-- A run has no effect on a tree whose references are all set, and ends without a fault. -/
theorem assign_of_isSet (options : ReferenceOptions) {tree : Tree}
    (set : ∀ reference ∈ tree.references, reference.isSet = true) :
    (assign options tree).tree = tree ∧ (assign options tree).fault = none := by
  have unchanged := assignTree_of_isSet options 0 { taken := pinned tree } tree set
  rw [assign, unchanged]
  exact ⟨rfl, rfl⟩

variable {options : ReferenceOptions}

/-- Runs with any options have no effect on what a run has left behind. -/
theorem assign_assign (typed : options.WellTyped) (later : ReferenceOptions) (tree : Tree) :
    (assign later (assign options tree).tree).tree = (assign options tree).tree ∧
      (assign later (assign options tree).tree).fault = none :=
  assign_of_isSet later (assign_completes typed tree).given

/-- What holds of all references along a table holds of all of them afterwards, if it holds of those
that can be chosen. -/
theorem give_forall {holds : Scalar → Prop}
    (chosen : ∀ taken title, holds (choose options taken title)) (taken : List Scalar)
    {table : List (String × Scalar)} (each : ∀ entry ∈ table, holds entry.2) :
    ∀ reference ∈ (give options taken table).1, holds reference := by
  induction table generalizing taken with
  | nil => simp [give]
  | cons entry rest hypothesis =>
    obtain ⟨title, reference⟩ := entry
    obtain ⟨here, later⟩ := List.forall_mem_cons.1 each
    by_cases isSet : reference.isSet = true
    · rw [give_cons_of_isSet isSet]
      exact List.forall_mem_cons.2 ⟨here, hypothesis taken later⟩
    · rw [give_cons_of_not_isSet (by simpa using isSet)]
      exact List.forall_mem_cons.2 ⟨chosen taken title, hypothesis _ later⟩

/-- What holds of all references of a tree holds of all of them after a run, if it holds of those
that can be chosen. -/
theorem assign_forall {holds : Scalar → Prop} (typed : options.WellTyped)
    (chosen : ∀ taken title, holds (choose options taken title)) {tree : Tree}
    (each : ∀ reference ∈ tree.references, holds reference) :
    ∀ reference ∈ (assign options tree).tree.references, holds reference := by
  rw [references_eq_table, List.forall_mem_map] at each
  rw [(assign_give typed tree).1]
  exact give_forall chosen _ each

/-- A run leaves a typed tree typed if it leaves texts as references. -/
theorem typed_assign_of_texts {tree : Tree} (shaped : tree.Typed)
    (texts : ∀ reference ∈ (assign options tree).tree.references, reference.isText = true) :
    (assign options tree).tree.Typed := by
  refine (typed_iff _).2 ⟨?_, texts⟩
  rw [withoutReferences_assign]
  exact ((typed_iff tree).1 shaped).1

/-- A run leaves a typed tree typed. -/
theorem typed_assign (typed : options.WellTyped) {tree : Tree} (shaped : tree.Typed) :
    (assign options tree).tree.Typed := by
  refine typed_assign_of_texts shaped (assign_forall typed ?_ ((typed_iff tree).1 shaped).2)
  intro taken title
  obtain ⟨chosen, chosenEq, _⟩ := choose_text typed taken title
  rw [chosenEq, Scalar.isText]

/-- A run leaves a condition that no reference changes as it was. -/
theorem everywhere_assign {condition : Tree → Prop}
    (unchanged : ∀ tree : Tree, condition tree.withoutReferences ↔ condition tree) {tree : Tree}
    (everywhere : tree.Everywhere condition) :
    (assign options tree).tree.Everywhere condition := by
  rw [← everywhere_withoutReferences unchanged, withoutReferences_assign,
    everywhere_withoutReferences unchanged]
  exact everywhere

/-- A run leaves the kind of the root as it was. -/
theorem kind?_assign (tree : Tree) : (assign options tree).tree.kind? = tree.kind? := by
  rw [← kind?_withoutReferences, withoutReferences_assign, kind?_withoutReferences]

/-- A run leaves violations as they were. -/
theorem firstViolation?_assign (tree : Tree) :
    (assign options tree).tree.firstViolation? = tree.firstViolation? := by
  rw [← firstViolation?_withoutReferences, withoutReferences_assign,
    firstViolation?_withoutReferences]

/-- A run leaves the text of a tree as it was. -/
theorem text_assign (tree : Tree) : (assign options tree).tree.text = tree.text := by
  rw [← text_withoutReferences, withoutReferences_assign, text_withoutReferences]

end Folio.References
