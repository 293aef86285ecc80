import Folio.Proofs.Contents.Nesting
import Folio.Proofs.Tree.Congruence

/-!
# The layout of tables of contents

A table of contents is read by what its items hold: first a link, labelled with the title of a
section, and then at most one nested list, of items again. `IsItem` is this layout. The items
for a well-shaped tree have it, so the table is well-shaped too.
-/

namespace Folio.Contents

open Folio.Tree

/-- An item as tables of contents have them: a link with a title as its label, and a nested list
of such items, if there are any. -/
inductive IsItem : Tree → Prop where
  | of {reference : String} {title : Tree} {below : List Tree} (shaped : title.Shaped)
      (nested : ∀ item ∈ below, IsItem item) :
      IsItem (listItem (internalLink (.text reference) [title] ::
        if below.isEmpty then [] else [orderedList below]))

/-- The item of a well-shaped section is one, if the items below it are. -/
theorem isItem_itemOf {visited : Tree} {below : List Tree} (shaped : visited.Shaped)
    (isSection : visited.isA (.of .section) = true) (nested : ∀ item ∈ below, IsItem item) :
    IsItem (itemOf visited below) := by
  obtain ⟨here, inside⟩ := everywhere_iff.1 shaped
  obtain ⟨reference, metadata, title, body, rfl⟩ := here.of_section isSection
  have isChild : title ∈ (Tree.node (.section (.text reference)) metadata
      [.one title, .many body]).children := by simp [children, Slot.toList]
  exact .of (inside title isChild) nested

/-- The items for a well-shaped tree are laid out as items. -/
theorem isItem_forestWithin (options : ContentsOptions) (level : Nat) {tree : Tree}
    (shaped : tree.Shaped) : ∀ item ∈ forestWithin options level tree, IsItem item := by
  induction tree using childInduction generalizing level with
  | step tree below =>
    have inside (level : Nat) :
        ∀ item ∈ tree.children.flatMap (forestWithin options level), IsItem item := by
      intro item member
      obtain ⟨child, isChild, inChild⟩ := List.mem_flatMap.1 member
      exact below child isChild level ((everywhere_iff.1 shaped).2 child isChild) item inChild
    by_cases isListed : isListed options level tree = true
    · rw [forestWithin_of_listed isListed, List.forall_mem_singleton]
      exact isItem_itemOf shaped (isSection_of_isListed isListed) (inside (level + 1))
    · have notListed : Contents.isListed options level tree = false := by simpa using isListed
      rw [forestWithin_of_not_listed notListed]
      exact inside level

/-- A list of well-shaped trees in the one field of a node is well-shaped. -/
theorem shaped_ofList {head : Head} {contents : List Tree} (typed : head.isTyped = true)
    (layout : head.kind.slots.map (·.type.isSequence) = [true])
    (each : ∀ tree ∈ contents, tree.Shaped) : (ofList head contents).Shaped := by
  refine everywhere_iff.2 ⟨⟨typed, layout.symm⟩, fun child member => ?_⟩
  have inList : child ∈ contents := by simpa [ofList, children, Slot.toList] using member
  exact each child inList

/-- Items are well-shaped. -/
theorem IsItem.shaped {item : Tree} (isItem : IsItem item) : item.Shaped := by
  induction isItem with
  | @of reference title below shaped _ hypothesis =>
    have link : (internalLink (.text reference) [title]).Shaped :=
      shaped_ofList rfl rfl (List.forall_mem_singleton.2 shaped)
    have list : (orderedList below).Shaped := shaped_ofList rfl rfl hypothesis
    refine shaped_ofList rfl rfl (List.forall_mem_cons.2 ⟨link, fun nested member => ?_⟩)
    split at member
    · cases member
    · exact List.mem_singleton.1 member ▸ list

/-- The table of the items for a well-shaped tree is well-shaped. -/
theorem shaped_table (options : ContentsOptions) (level : Nat) {tree : Tree}
    (shaped : tree.Shaped) : (orderedList (forestWithin options level tree)).Shaped :=
  shaped_ofList rfl rfl fun item member =>
    (isItem_forestWithin options level shaped item member).shaped

end Folio.Contents
