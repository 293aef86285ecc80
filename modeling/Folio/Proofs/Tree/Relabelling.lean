import Folio.Proofs.Tree.Preorder

/-!
# What relabelling keeps

A relabelled tree has the structure of the tree it was made from: the children of the one are
the relabelled children of the other. Dropping the references of all sections is a
relabelling; two trees that agree after it differ in references of sections only.
-/

namespace Folio

/-- Change everything in a slot. -/
def Slot.map {α β : Type} (change : α → β) : Slot α → Slot β
  | .one content => .one (change content)
  | .many contents => .many (contents.map change)

/-- The contents of a slot are changed one by one. -/
@[simp] theorem Slot.toList_map {α β : Type} (change : α → β) (slot : Slot α) :
    (slot.map change).toList = slot.toList.map change := by
  cases slot <;> rfl

namespace Tree

/-- Trees are changed one by one. -/
theorem mapHeadsAll_eq (change : Head → Head) (trees : List Tree) :
    mapHeadsAll change trees = trees.map (mapHeads change) := by
  induction trees with
  | nil => rfl
  | cons tree rest hypothesis => rw [mapHeadsAll, hypothesis, List.map_cons]

/-- Slots are changed one by one. -/
theorem mapHeadsSlots_eq (change : Head → Head) (slots : List (Slot Tree)) :
    mapHeadsSlots change slots = slots.map (Slot.map (mapHeads change)) := by
  induction slots with
  | nil => rfl
  | cons slot rest hypothesis =>
    cases slot with
    | one tree => rw [mapHeadsSlots, hypothesis, List.map_cons, Slot.map]
    | many trees => rw [mapHeadsSlots, hypothesis, List.map_cons, Slot.map, mapHeadsAll_eq]

/-- Relabelled slots hold the relabelled contents. -/
theorem contents_mapHeads (change : Head → Head) (slots : List (Slot Tree)) :
    (slots.map (Slot.map (mapHeads change))).flatMap Slot.toList =
      (slots.flatMap Slot.toList).map (mapHeads change) := by
  induction slots with
  | nil => rfl
  | cons slot rest hypothesis =>
    rw [List.map_cons, List.flatMap_cons, List.flatMap_cons, List.map_append, hypothesis,
      Slot.toList_map]

/-- The children of a relabelled tree are the relabelled children. -/
theorem children_mapHeads (change : Head → Head) (tree : Tree) :
    (mapHeads change tree).children = tree.children.map (mapHeads change) := by
  cases tree with
  | stray value => rfl
  | node head metadata slots =>
    rw [mapHeads, mapHeadsSlots_eq, children, children, contents_mapHeads]

/-- A relabelled tree is visited like the tree it was made from. -/
theorem preorder_mapHeads (change : Head → Head) (tree : Tree) :
    (mapHeads change tree).preorder = tree.preorder.map (mapHeads change) := by
  induction tree using childInduction with
  | step tree below =>
    rw [preorder_eq, preorder_eq tree, children_mapHeads, List.map_cons, List.map_flatMap,
      List.flatMap_map]
    congr 1
    exact List.flatMap_congr below

end Tree

/-- The head without the reference of a section. -/
def Head.withoutReference : Head → Head
  | .section _ => .section (.text "")
  | head => head

/-- A node without its reference is of the same kind. -/
@[simp] theorem Head.kind_withoutReference (head : Head) :
    head.withoutReference.kind = head.kind := by
  cases head <;> rfl

namespace Tree

/-- The tree without the references of its sections. -/
def withoutReferences (tree : Tree) : Tree := mapHeads Head.withoutReference tree

/-- So is the root of a tree without references. -/
@[simp] theorem kind?_withoutReferences (tree : Tree) :
    tree.withoutReferences.kind? = tree.kind? := by
  cases tree with
  | stray value => rfl
  | node head metadata slots => simp [withoutReferences, mapHeads, kind?]

/-- References are no text. -/
@[simp] theorem ownText_withoutReferences (tree : Tree) :
    tree.withoutReferences.ownText = tree.ownText := by
  cases tree with
  | stray value => rfl
  | node head metadata slots => cases head <;> rfl

/-- References are no texts. -/
theorem text_withoutReferences (tree : Tree) : tree.withoutReferences.text = tree.text := by
  rw [text, text, withoutReferences, preorder_mapHeads, List.map_map]
  congr 1
  exact List.map_congr_left fun visited _ => ownText_withoutReferences visited

end Tree

end Folio
