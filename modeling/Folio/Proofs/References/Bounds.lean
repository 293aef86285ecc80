import Folio.Proofs.References.Settling

/-!
# How far numbers go

A search from a whole number ends after no more increments than there are numbered forms of its
slug among the references in use. For a whole run this bounds the numbers themselves: the
references in use are pinned ones and generated ones, each of another section than the one that is
visited, so in a tree with `count` sections a search finds fewer than `count` of them in use. The
invariant of a run is that references in use and sections still without one are together no more
than all sections (`Along.suffixed`).
-/

namespace Folio.References

open Folio.Tree

/-- A slug, or a slug with one of `count` numbers behind it that follow one another from a start
on. -/
def Suffixed (slug : String) (start : Int) (count : Nat) (given : Scalar) : Prop :=
  given = .text slug ∨
    ∃ number, start ≤ number ∧ number < start + count ∧
      given = numbered (.text slug) (.int number)

/-- What is chosen for a slug is free, and numbered only as far as forms are in use. -/
theorem unique_int (taken : List Scalar) (slug : Scalar) (start : Int) :
    ∃ increments ≤ (formsInUse taken slug start).ncard,
      Finds taken slug (.int start) (numbered slug (.int (start + increments))) ∧
      (∀ passed < increments, isTaken taken (numbered slug (.int (start + passed))) = true) ∧
      unique taken (.int start) slug =
        (if isTaken taken slug then numbered slug (.int (start + increments)) else slug) ∧
      isTaken taken (unique taken (.int start) slug) = false := by
  obtain ⟨increments, bounded, found, passed, free⟩ := firstFree_int taken slug start
  have chosen : unique taken (.int start) slug =
      if isTaken taken slug then numbered slug (.int (start + increments)) else slug := by
    rw [unique, attempts_int, found]
  refine ⟨increments, bounded, ?_, passed, chosen, ?_⟩
  · rw [← found]
    exact finds_firstFree taken slug start
  · rw [chosen]
    by_cases used : isTaken taken slug = true
    · rw [if_pos used, free]
    · rw [if_neg used]
      exact Bool.eq_false_of_not_eq_true used

/-- If fewer than `count` references are in use, one of `count` numbers is enough. -/
theorem suffixed_unique {taken : List Scalar} {count : Nat} (few : taken.length < count)
    (slug : String) (start : Int) :
    Suffixed slug start count (unique taken (.int start) (.text slug)) := by
  obtain ⟨increments, bounded, _, _, chosen, _⟩ := unique_int taken (.text slug) start
  have inUse := ncard_formsInUse_le taken (.text slug) start
  rw [chosen]
  by_cases used : isTaken taken (.text slug) = true
  · rw [if_pos used]
    exact .inr ⟨start + increments, by omega, by omega, rfl⟩
  · rw [if_neg used]
    exact .inl rfl

/-- The sections in a table that have no reference. -/
def unset (table : List (String × Scalar)) : Nat := table.countP fun entry => !entry.2.isSet

variable {fallback : String} {start : Int}

/-- A section without a reference is given what is chosen for its slug, which is in use from then
on. -/
theorem visitSection_unset {state : State} (noFault : state.fault = none) (depth : Int)
    (title : String) {reference : Scalar} (notSet : reference.isSet = false) :
    let given := unique state.taken (.int start) (.text (Slug.ofText title fallback))
    let visited := visitSection ⟨.text fallback, .int start⟩ depth title reference state
    visited.1 = given ∧ visited.2.taken = given :: state.taken ∧ visited.2.fault = none := by
  intro given visited
  have isSlug : slugOf ⟨.text fallback, .int start⟩ title =
      .ok (.text (Slug.ofText title fallback)) := by
    rw [slugOf, Slug.ofText]
    cases Slug.ofText? title <;> rfl
  rcases visitSection_of_slug noFault notSet isSlug depth with ⟨used, _⟩ | visits
  · obtain ⟨_, _, _, _, _, free⟩ :=
      unique_int state.taken (.text (Slug.ofText title fallback)) start
    have stillUsed : isTaken state.taken given = true := used
    rw [free] at stillUsed
    cases stillUsed
  · exact visits

/-- Visits of a table end without a fault, and give numbers below a bound, if there are no more
references in use and sections without one than the bound says. -/
theorem Along.suffixed {count : Nat} {state last : State} {table : List (String × Scalar)}
    {after : List Scalar} (along : Along ⟨.text fallback, .int start⟩ state table after last)
    (noFault : state.fault = none) (room : state.taken.length + unset table ≤ count) :
    last.fault = none ∧ ∀ pair ∈ table.zip after, pair.1.2.isSet = false →
      Suffixed (Slug.ofText pair.1.1 fallback) start count pair.2 := by
  induction along with
  | nil => exact ⟨noFault, by simp⟩
  | @cons state title reference rest others last depth _ hypothesis =>
    rw [List.zip_cons_cons, List.forall_mem_cons]
    by_cases isSet : reference.isSet = true
    · rw [visitSection_of_kept (.inl isSet)] at hypothesis ⊢
      rw [unset, List.countP_cons_of_neg (by simp [isSet])] at room
      obtain ⟨stillNone, later⟩ := hypothesis noFault room
      exact ⟨stillNone, fun notSet => absurd isSet (by simp [notSet]), later⟩
    · have notSet : reference.isSet = false := Bool.eq_false_of_not_eq_true isSet
      obtain ⟨given, taken, noneHere⟩ := visitSection_unset noFault depth title notSet
      rw [unset, List.countP_cons_of_pos (by simp [notSet])] at room
      have fewInUse : state.taken.length < count := by omega
      -- The given reference joins those in use, and its section leaves those without one.
      obtain ⟨stillNone, later⟩ := hypothesis noneHere (by
        rw [taken, List.length_cons, unset]
        omega)
      refine ⟨stillNone, fun _ => ?_, later⟩
      rw [given]
      exact suffixed_unique fewInUse _ start

/-- Distinct scalars are no more than those they are picked from. -/
theorem length_distinct_le (scalars : List Scalar) :
    (distinct scalars).length ≤ scalars.length := by
  induction scalars with
  | nil => exact le_refl _
  | cons value rest hypothesis =>
    rw [distinct, List.length_cons]
    split
    · omega
    · rw [List.length_cons]
      omega

/-- Pinned references and sections without one are together no more than the sections. -/
theorem length_pinned_le (tree : Tree) :
    (pinned tree).length + unset tree.referenceTable ≤ tree.sections.length := by
  have distinctFew := length_distinct_le (tree.references.filter Scalar.isSet)
  have withOne : (tree.references.filter Scalar.isSet).length =
      tree.referenceTable.countP fun entry => entry.2.isSet := by
    rw [references_eq_table, List.filter_map, List.length_map, List.countP_eq_length_filter]
    rfl
  have allSections : tree.sections.length =
      (tree.referenceTable.countP fun entry => entry.2.isSet) + unset tree.referenceTable := by
    have split := List.length_eq_countP_add_countP
      (fun entry : String × Scalar => entry.2.isSet) (l := tree.referenceTable)
    simpa [unset, referenceTable] using split
  rw [pinned]
  omega

/-- A search from a whole number ends, with a free form of its slug, after no more increments than
there are numbered forms of that slug in use from the start on. So in a run on a tree with some
number of sections, each section without a reference is given its slug, or the slug with one of as
many numbers behind it as there are sections, and no search is endless. -/
theorem suffixes_bounded :
    (∀ (taken : List Scalar) (slug : Scalar) (start : Int),
      ∃ increments ≤ (formsInUse taken slug start).ncard,
        Finds taken slug (.int start) (numbered slug (.int (start + increments))) ∧
        (∀ passed < increments, isTaken taken (numbered slug (.int (start + passed))) = true) ∧
        unique taken (.int start) slug =
          (if isTaken taken slug then numbered slug (.int (start + increments)) else slug) ∧
        isTaken taken (unique taken (.int start) slug) = false) ∧
    ∀ (fallback : String) (start : Int) (tree : Tree),
      (assign ⟨.text fallback, .int start⟩ tree).fault = none ∧
      ∀ pair ∈ tree.referenceTable.zip
          (assign ⟨.text fallback, .int start⟩ tree).tree.references,
        pair.1.2.isSet = false →
          Suffixed (Slug.ofText pair.1.1 fallback) start tree.sections.length pair.2 := by
  refine ⟨unique_int, fun fallback start tree => ?_⟩
  exact (assignTree_along 0 { taken := pinned tree } tree).suffixed rfl (length_pinned_le tree)

/-- Three sections of one title before a pinned reference that is one of the forms of their
slug. -/
def crowded : Tree :=
  .node (.document {}) [] [.many
    [ofSection (ofText "A") [ofSection (ofText "A") []], ofSection (ofText "A") [],
      ofSection (ofText "?") [] (.text "a-2")]]

/-- The last one passes over the two forms in use, and gets the number 4 of those from 2 on to
below 6. -/
theorem suffixes_bounded_crowded :
    (assign ⟨.text "section", .int 2⟩ crowded).tree.references =
      [.text "a", .text "a-3", .text "a-4", .text "a-2"] ∧
    (("A", .text ""), .text "a-4") ∈ crowded.referenceTable.zip
      (assign ⟨.text "section", .int 2⟩ crowded).tree.references ∧
    (Scalar.text "").isSet = false ∧ crowded.sections.length = 4 ∧
    Suffixed (Slug.ofText "A" "section") 2 crowded.sections.length (.text "a-4") := by
  have references : (assign ⟨.text "section", .int 2⟩ crowded).tree.references =
      [.text "a", .text "a-3", .text "a-4", .text "a-2"] := rfl
  have table : crowded.referenceTable =
      [("A", .text ""), ("A", .text ""), ("A", .text ""), ("?", .text "a-2")] := rfl
  have member : (("A", .text ""), .text "a-4") ∈ crowded.referenceTable.zip
      (assign ⟨.text "section", .int 2⟩ crowded).tree.references := by
    rw [references, table]
    simp
  exact ⟨references, member, rfl, rfl,
    (suffixes_bounded.2 "section" 2 crowded).2 (("A", .text ""), .text "a-4") member rfl⟩

end Folio.References
