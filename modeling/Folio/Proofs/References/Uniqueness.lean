import Folio.Proofs.References.Assignment

/-!
# Uniqueness of references

A run completes the references of a tree: references that sections had stay, every section
has one afterwards, and a generated one differs from that of every other section, pinned or
generated, before or behind it. The reason is an invariant of the references in use: from the
first visit on they hold all pinned ones, and at every visit those generated so far, so that a
free reference differs from all of them.
-/

namespace Folio.References

open Folio.Tree

/-- References before and after a run, section by section: those that were set stay, all are
set in the end, and two sections have distinct ones unless both had theirs before. -/
structure Completes (before after : List Scalar) : Prop where
  length_eq : after.length = before.length
  kept : ∀ pair ∈ before.zip after, pair.1.isSet = true → pair.2 = pair.1
  given : ∀ reference ∈ after, reference.isSet = true
  apart : (before.zip after).Pairwise fun first second =>
    ¬(first.1.isSet = true ∧ second.1.isSet = true) → first.2 ≠ second.2

/-- References that were distinct as far as they were set are distinct in the end. -/
theorem Completes.nodup {before after : List Scalar} (completes : Completes before after)
    (distinct : (before.filter Scalar.isSet).Nodup) : after.Nodup := by
  obtain ⟨length_eq, kept, given, apart⟩ := completes
  clear given
  induction before generalizing after with
  | nil =>
    rw [List.length_nil, List.length_eq_zero_iff] at length_eq
    exact length_eq ▸ List.nodup_nil
  | cons first before hypothesis =>
    obtain _ | ⟨reference, after⟩ := after
    · exact List.nodup_nil
    rw [List.zip_cons_cons] at kept apart
    obtain ⟨here, later⟩ := List.pairwise_cons.1 apart
    have sameLength : after.length = before.length := by simpa using length_eq
    have keptLater : ∀ pair ∈ before.zip after, pair.1.isSet = true → pair.2 = pair.1 :=
      fun pair member => kept pair (List.mem_cons_of_mem _ member)
    have distinctLater : (before.filter Scalar.isSet).Nodup :=
      distinct.sublist ((List.sublist_cons_self _ _).filter _)
    refine List.nodup_cons.2 ⟨fun repeated => ?_, hypothesis distinctLater sameLength keptLater
      later⟩
    -- A later section has the reference of the first one; then both had it before.
    obtain ⟨index, inAfter, atIndex⟩ := List.getElem_of_mem repeated
    have inBefore : index < before.length := sameLength ▸ inAfter
    have member : (before[index], after[index]) ∈ before.zip after := by
      rw [List.mem_iff_getElem]
      exact ⟨index, by simpa using ⟨inBefore, inAfter⟩, List.getElem_zip⟩
    by_cases both : first.isSet = true ∧ before[index].isSet = true
    · have keptHere : reference = first := kept (first, reference) List.mem_cons_self both.1
      have keptThere : after[index] = before[index] := keptLater _ member both.2
      rw [List.filter_cons_of_pos both.1] at distinct
      refine (List.nodup_cons.1 distinct).1 (List.mem_filter.2 ⟨?_, both.1⟩)
      rw [← keptHere, ← atIndex, keptThere]
      exact List.getElem_mem inBefore
    · exact here _ member both atIndex.symm

/-- One more section in front completes, too, if its own reference does and is apart from those
behind it. -/
theorem Completes.cons {before after : List Scalar} (completes : Completes before after)
    {first given : Scalar} (kept : first.isSet = true → given = first)
    (isSet : given.isSet = true)
    (apart : ∀ pair ∈ before.zip after, ¬(first.isSet = true ∧ pair.1.isSet = true) →
      given ≠ pair.2) : Completes (first :: before) (given :: after) where
  length_eq := by rw [List.length_cons, List.length_cons, completes.length_eq]
  kept := by
    rw [List.zip_cons_cons]
    exact List.forall_mem_cons.2 ⟨kept, completes.kept⟩
  given := List.forall_mem_cons.2 ⟨isSet, completes.given⟩
  apart := by
    rw [List.zip_cons_cons]
    exact List.pairwise_cons.2 ⟨apart, completes.apart⟩

variable {options : ReferenceOptions}

/-- What a run gives to a section without a reference is a text that was not in use when the
run began. -/
theorem give_fresh (typed : options.WellTyped) (taken : List Scalar)
    (table : List (String × Scalar)) :
    ∀ pair ∈ (table.map (·.2)).zip (give options taken table).1, pair.1.isSet = false →
      ∃ reference : String, pair.2 = .text reference ∧ Scalar.text reference ∉ taken := by
  induction table generalizing taken with
  | nil => simp
  | cons entry rest hypothesis =>
    obtain ⟨title, reference⟩ := entry
    intro pair member notSet
    by_cases isSet : reference.isSet = true
    · rw [give_cons_of_isSet isSet, List.map_cons, List.zip_cons_cons] at member
      rcases List.mem_cons.1 member with rfl | later
      · simp [isSet] at notSet
      · exact hypothesis taken pair later notSet
    · rw [give_cons_of_not_isSet (by simpa using isSet), List.map_cons,
        List.zip_cons_cons] at member
      rcases List.mem_cons.1 member with rfl | later
      · obtain ⟨chosen, chosenEq, _, free⟩ := choose_text typed taken title
        exact ⟨chosen, chosenEq, free⟩
      · obtain ⟨given, givenEq, free⟩ := hypothesis _ pair later notSet
        exact ⟨given, givenEq, fun used => free (List.mem_cons_of_mem _ used)⟩

/-- A run completes the references of a table if those that are set are in use when it
begins. -/
theorem give_completes (typed : options.WellTyped) (taken : List Scalar)
    (table : List (String × Scalar))
    (inUse : ∀ reference : String, Scalar.text reference ∈ table.map (·.2) →
      reference ≠ "" → Scalar.text reference ∈ taken) :
    Completes (table.map (·.2)) (give options taken table).1 := by
  induction table generalizing taken with
  | nil => exact ⟨rfl, by simp, by simp [give], by simp⟩
  | cons entry rest hypothesis =>
    obtain ⟨title, reference⟩ := entry
    have inUseLater : ∀ used : String, Scalar.text used ∈ rest.map (·.2) → used ≠ "" →
        Scalar.text used ∈ taken :=
      fun used member => inUse used (List.mem_cons_of_mem _ member)
    by_cases isSet : reference.isSet = true
    · rw [give_cons_of_isSet isSet, List.map_cons]
      refine (hypothesis taken inUseLater).cons (fun _ => rfl) isSet ?_
      intro pair member notBoth equal
      have notSet : pair.1.isSet = false := by simpa [isSet] using notBoth
      obtain ⟨fresh, freshEq, free⟩ := give_fresh typed taken rest pair member notSet
      -- The pinned reference in front is in use, the generated one is not.
      have isFresh : reference = .text fresh := equal.trans freshEq
      rw [isFresh] at isSet
      exact free (inUse fresh (by simp [isFresh]) (by simpa using isSet))
    · have notSet : reference.isSet = false := by simpa using isSet
      obtain ⟨chosen, chosenEq, notEmpty, free⟩ := choose_text typed taken title
      have completes := hypothesis (choose options taken title :: taken) fun used member set =>
        List.mem_cons_of_mem _ (inUseLater used member set)
      rw [give_cons_of_not_isSet notSet, List.map_cons]
      refine completes.cons (fun set => absurd set isSet) (by simp [chosenEq, notEmpty]) ?_
      intro pair member _ equal
      by_cases laterSet : pair.1.isSet = true
      · -- A pinned reference behind is in use already, the chosen one is not.
        have chosenThere : pair.1 = .text chosen := by
          rw [← completes.kept pair member laterSet, ← equal, chosenEq]
        have inRest : Scalar.text chosen ∈ rest.map (·.2) :=
          chosenThere ▸ (List.of_mem_zip member).1
        exact free (inUseLater chosen inRest notEmpty)
      · -- A reference that is generated later finds the chosen one in use.
        obtain ⟨fresh, freshEq, freshFree⟩ :=
          give_fresh typed _ rest pair member (by simpa using laterSet)
        exact freshFree (by rw [← freshEq, ← equal]; exact List.mem_cons_self)

/-- Every text among some scalars is among the distinct ones. -/
theorem text_mem_distinct {reference : String} {scalars : List Scalar}
    (member : Scalar.text reference ∈ scalars) : Scalar.text reference ∈ distinct scalars := by
  induction scalars with
  | nil => simp at member
  | cons value rest hypothesis =>
    rw [distinct]
    rcases List.mem_cons.1 member with rfl | later
    · split
      · rename_i repeated
        exact hypothesis (isTaken_text.1 repeated)
      · exact List.mem_cons_self
    · split
      · exact hypothesis later
      · exact List.mem_cons_of_mem _ (hypothesis later)

/-- All references that are texts and not empty are pinned. -/
theorem text_mem_pinned {tree : Tree} {reference : String}
    (member : Scalar.text reference ∈ tree.references) (notEmpty : reference ≠ "") :
    Scalar.text reference ∈ pinned tree :=
  text_mem_distinct (List.mem_filter.2 ⟨member, by simpa using notEmpty⟩)

/-- A run completes the references of a tree. -/
theorem assign_completes (typed : options.WellTyped) (tree : Tree) :
    Completes tree.references (assign options tree).tree.references := by
  rw [(assign_give typed tree).1, references_eq_table]
  refine give_completes typed (pinned tree) tree.referenceTable fun reference member => ?_
  rw [← references_eq_table] at member
  exact text_mem_pinned member

/-- With well-typed options a run on any tree ends: every search for a free reference does,
and no fault ends the run early. It completes the references and changes nothing else in the
tree; if the references that were set were distinct, all are distinct in the end. -/
theorem assign_unique_and_frame (typed : options.WellTyped) (tree : Tree) :
    (∀ taken slug, Finds taken slug ((options.suffixStart.scalar?).getD (.int 2))
      (firstFree taken slug (taken.length + 1)
        ((options.suffixStart.scalar?).getD (.int 2)))) ∧
    (assign options tree).fault = none ∧
    (assign options tree).tree.withoutReferences = tree.withoutReferences ∧
    Completes tree.references (assign options tree).tree.references ∧
    ((tree.references.filter Scalar.isSet).Nodup →
      (assign options tree).tree.references.Nodup) := by
  have completes := assign_completes typed tree
  refine ⟨fun taken slug => ?_, (assign_give typed tree).2, withoutReferences_assign options tree,
    completes, completes.nodup⟩
  obtain ⟨start, startEq, _⟩ := typed.start
  rw [startEq]
  exact finds_firstFree taken slug start

/-- Two sections of one title, one inside the other, before a pinned reference that is the
numbered slug of the inner one. -/
def pinnedBehind : Tree :=
  .node (.document {}) [] [.many
    [ofSection (ofText "A") [ofSection (ofText "A") []],
      ofSection (ofText "?") [] (.text "a-2")]]

/-- The inner section passes over the reference that is pinned behind it. -/
theorem assign_pinnedBehind :
    ReferenceOptions.WellTyped {} ∧
    pinnedBehind.references = [.text "", .text "", .text "a-2"] ∧
    (assign {} pinnedBehind).tree.references = [.text "a", .text "a-3", .text "a-2"] ∧
    (assign {} pinnedBehind).tree.references.Nodup := by
  have typed := ReferenceOptions.wellTyped_default
  have before : pinnedBehind.references = [.text "", .text "", .text "a-2"] := rfl
  refine ⟨typed, before, rfl, (assign_unique_and_frame typed pinnedBehind).2.2.2.2 ?_⟩
  rw [before]
  exact List.nodup_singleton (Scalar.text "a-2")

end Folio.References
