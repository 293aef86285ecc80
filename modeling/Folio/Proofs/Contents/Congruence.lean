import Folio.Proofs.Contents.Layout

/-!
# Tables of trees that agree

Of a listed section the checks read the text of its title and its reference, and nothing else;
so trees that list sections with the same titles and references, one by one, are both refused,
for the same cause, or both given the table of their items. Trees alike list sections alike, and
their items are alike.
-/

namespace Folio.Contents

open Folio.Tree

variable (options : ContentsOptions)

/-- What a check reads of a section: the text of its title and its reference. -/
def entryOf (visited : Tree) : String × Scalar := (visited.titleText, visited.reference)

/-- Sections with the same entry are checked alike. -/
theorem checkReference_congr {left right : Tree} (same : entryOf left = entryOf right)
    (state : State) : checkReference options left state = checkReference options right state := by
  obtain ⟨titles, references⟩ : left.titleText = right.titleText ∧
      left.reference = right.reference := Prod.mk.inj same
  unfold checkReference
  rw [titles, references]

/-- Sections with the same entries, one by one, are checked alike. -/
theorem checkAll_congr {left right : List Tree} (same : left.map entryOf = right.map entryOf)
    (state : State) : checkAll options state left = checkAll options state right := by
  induction left generalizing right state with
  | nil =>
    obtain rfl : right = [] := List.map_eq_nil_iff.1 same.symm
    rfl
  | cons first rest hypothesis =>
    obtain _ | ⟨other, others⟩ := right
    · cases same
    · obtain ⟨here, later⟩ := List.cons.inj same
      rw [checkAll, checkAll, checkReference_congr options here]
      cases checkReference options other state with
      | error cause => rfl
      | ok checked => exact hypothesis later checked

/-- Tables of trees that list sections with the same entries are refused for the same cause, or
both hold the items of their trees. -/
theorem build_congr {left right : Tree}
    (same : (listed options 0 left).map entryOf = (listed options 0 right).map entryOf) :
    (∃ cause, (build options left).value = .error cause ∧
      (build options right).value = .error cause) ∨
    ((build options left).value = .ok (orderedList (forestWithin options 0 left)) ∧
      (build options right).value = .ok (orderedList (forestWithin options 0 right))) := by
  rw [build_eq, build_eq, checkAll_congr options same]
  cases checkAll options { stack := [OpenSection.bottom] } (listed options 0 right) with
  | error refusal => exact .inl ⟨refusal.1, rfl, rfl⟩
  | ok last => exact .inr ⟨rfl, rfl⟩

/-- A node with one list of children is alike to one with children alike. -/
theorem alike_ofList (head : Head) {left right : List Tree}
    (contents : List.Forall₂ Alike left right) : Alike (ofList head left) (ofList head right) :=
  .node (.same head) (.cons (.many contents) .nil)

/-- Sections alike with items alike below them have items alike. -/
theorem itemOf_alike {left right : Tree} (alike : Alike left right)
    {leftBelow rightBelow : List Tree} (below : List.Forall₂ Alike leftBelow rightBelow) :
    Alike (itemOf left leftBelow) (itemOf right rightBelow) := by
  have link : Alike (linkTo left) (linkTo right) := by
    rw [linkTo, linkTo, alike.reference_eq]
    exact alike_ofList _ (.cons alike.title .nil)
  refine alike_ofList _ (.cons link ?_)
  cases below with
  | nil => exact .nil
  | cons first others => exact .cons (alike_ofList _ (.cons first others)) .nil

/-- Trees that are alike are listed alike. -/
theorem isListed_alike {left right : Tree} (alike : Alike left right) (level : Nat) :
    isListed options level left = isListed options level right := by
  rw [isListed, isListed, alike.isA_eq]

/-- Trees alike have items alike. -/
theorem forestWithin_alike {left right : Tree} (alike : Alike left right) (level : Nat) :
    List.Forall₂ Alike (forestWithin options level left) (forestWithin options level right) := by
  refine alike.childInduct (motive := fun left right => ∀ level, List.Forall₂ Alike
    (forestWithin options level left) (forestWithin options level right)) ?_ level
  intro left right alike below level
  have inside (level : Nat) := List.rel_flatMap below fun _ _ items => items level
  have sameListed := isListed_alike options alike level
  by_cases isListed : isListed options level left = true
  · rw [forestWithin_of_listed isListed, forestWithin_of_listed (sameListed ▸ isListed)]
    exact .cons (itemOf_alike alike (inside (level + 1))) .nil
  · have notListed : Contents.isListed options level left = false := by simpa using isListed
    rw [forestWithin_of_not_listed notListed,
      forestWithin_of_not_listed (sameListed ▸ notListed)]
    exact inside level

/-- Trees alike list sections alike. -/
theorem listed_alike {left right : Tree} (alike : Alike left right) (level : Nat) :
    List.Forall₂ Alike (listed options level left) (listed options level right) := by
  refine alike.childInduct (motive := fun left right => ∀ level, List.Forall₂ Alike
    (listed options level left) (listed options level right)) ?_ level
  intro left right alike below level
  have inside (level : Nat) := List.rel_flatMap below fun _ _ sections => sections level
  have sameListed := isListed_alike options alike level
  by_cases isListed : isListed options level left = true
  · rw [listed_of_listed isListed, listed_of_listed (sameListed ▸ isListed)]
    exact .cons alike (inside (level + 1))
  · have notListed : Contents.isListed options level left = false := by simpa using isListed
    rw [listed_of_not_listed notListed, listed_of_not_listed (sameListed ▸ notListed)]
    exact inside level

/-- Trees alike list sections with the same entries. -/
theorem entries_alike {left right : Tree} (alike : Alike left right) :
    (listed options 0 left).map entryOf = (listed options 0 right).map entryOf :=
  map_eq_of_forall₂ (fun _ _ same => Prod.ext same.titleText_eq same.reference_eq)
    (listed_alike options alike 0)

/-- The tables of the items for trees alike are alike. -/
theorem table_alike {left right : Tree} (alike : Alike left right) :
    Alike (orderedList (forestWithin options 0 left))
      (orderedList (forestWithin options 0 right)) :=
  alike_ofList _ (forestWithin_alike options alike 0)

end Folio.Contents
