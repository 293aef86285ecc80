import Folio.Proofs.Contents.Congruence
import Folio.Proofs.Tree.Wrapping

/-!
# Tables of contents pass containers over

A container is not listed and hands on the items of what it holds. The level of a section counts
the listed sections around it and not the nodes, so it stays as it is when a run is put into a
container, and with it what is listed, what is checked and which items there are.
-/

namespace Folio.Contents

open Folio.Tree

variable (options : ContentsOptions)

/-- What is listed of a node is so of the same node in another tree. -/
theorem isListed_sameNode {left right : Tree} (same : SameNode left right) (level : Nat) :
    isListed options level left = isListed options level right := by
  rw [isListed, isListed, same.isA_eq]

/-- The same sections with the same items below them have the same item. -/
theorem itemOf_sameNode {left right : Tree} (same : SameNode left right)
    (isSection : left.isA (.of .section) = true) (below : List Tree) :
    itemOf left below = itemOf right below := by
  rw [itemOf, itemOf, linkTo, linkTo, same.reference_eq, same.title_eq isSection]

/-- The same sections have the same entry. -/
theorem entryOf_sameNode {left right : Tree} (same : SameNode left right)
    (isSection : left.isA (.of .section) = true) : entryOf left = entryOf right := by
  rw [entryOf, entryOf, titleText, titleText, same.reference_eq, same.title_eq isSection]

/-- Containers hand on the items of what they hold. -/
theorem passesOver_forestWithin (level : Nat) : PassesOver (forestWithin options level) := by
  intro own run
  rw [forestWithin_of_not_listed rfl, children_wrapper]

/-- Containers are not listed. -/
theorem passesOver_entries (level : Nat) :
    PassesOver fun tree => (listed options level tree).map entryOf := by
  intro own run
  simp only [listed_of_not_listed (rfl : isListed options level (wrapper own run) = false),
    children_wrapper, List.map_flatMap]

/-- A container more or less makes no difference to the items. -/
theorem forestWithin_wraps {left right : Tree} (wraps : Wraps left right) (level : Nat) :
    forestWithin options level left = forestWithin options level right := by
  refine wraps.childInduct (motive := fun left right => ∀ level,
    forestWithin options level left = forestWithin options level right) ?_ level
  intro left right _ same below level
  have inside (level : Nat) := below.flatMap_eq (passesOver_forestWithin options level)
    fun _ _ items => items level
  have sameListed := isListed_sameNode options same level
  by_cases isListed : isListed options level left = true
  · rw [forestWithin_of_listed isListed, forestWithin_of_listed (sameListed ▸ isListed), inside,
      itemOf_sameNode same (isSection_of_isListed isListed)]
  · have notListed : Contents.isListed options level left = false := by simpa using isListed
    rw [forestWithin_of_not_listed notListed,
      forestWithin_of_not_listed (sameListed ▸ notListed), inside]

/-- A container more or less makes no difference to what is checked. -/
theorem entries_wraps {left right : Tree} (wraps : Wraps left right) (level : Nat) :
    (listed options level left).map entryOf = (listed options level right).map entryOf := by
  refine wraps.childInduct (motive := fun left right => ∀ level,
    (listed options level left).map entryOf = (listed options level right).map entryOf) ?_ level
  intro left right _ same below level
  have inside (level : Nat) := below.flatMap_eq (passesOver_entries options level)
    fun _ _ entries => entries level
  have sameListed := isListed_sameNode options same level
  by_cases isListed : isListed options level left = true
  · rw [listed_of_listed isListed, listed_of_listed (sameListed ▸ isListed), List.map_cons,
      List.map_cons, List.map_flatMap, List.map_flatMap, inside,
      entryOf_sameNode same (isSection_of_isListed isListed)]
  · have notListed : Contents.isListed options level left = false := by simpa using isListed
    rw [listed_of_not_listed notListed, listed_of_not_listed (sameListed ▸ notListed),
      List.map_flatMap, List.map_flatMap, inside]

/-- A container more or less makes no difference to the table of contents. -/
theorem build_wraps {left right : Tree} (wraps : Wraps left right) :
    (build options left).value = (build options right).value := by
  rcases build_congr options (entries_wraps options wraps 0) with
    ⟨cause, first, second⟩ | ⟨first, second⟩
  · rw [first, second]
  · rw [first, second, forestWithin_wraps options wraps]

end Folio.Contents
