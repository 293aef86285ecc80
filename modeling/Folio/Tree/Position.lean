import Folio.Tree

/-!
# Positions

A position is the sequence of child numbers that leads from the root to a tree; the root is
at the empty position. Looking a tree up and changing it recurse on the position.
-/

namespace Folio

/-- Child numbers from the root down. -/
abbrev Position := List Nat

namespace Tree

/-- The tree at a position. -/
def at? : Tree → Position → Option Tree
  | tree, [] => some tree
  | tree, index :: rest => (tree.children[index]?).bind fun child => child.at? rest

/-- Change the tree at a position; outside the tree nothing changes. -/
def modifyAt (change : Tree → Tree) : Position → Tree → Tree
  | [], tree => change tree
  | index :: rest, tree => tree.withChildren (tree.children.modify index (modifyAt change rest))

/-- Put a tree at a position. -/
def replaceAt (position : Position) (replacement tree : Tree) : Tree :=
  modifyAt (fun _ => replacement) position tree

@[simp] theorem at?_nil (tree : Tree) : tree.at? [] = some tree := rfl

@[simp] theorem replaceAt_nil (replacement tree : Tree) :
    replaceAt [] replacement tree = replacement := rfl

/-- The children of a node, put back into their places, give the node again. -/
theorem refill_children (slots : List (Slot Tree)) :
    refill slots (slots.flatMap Slot.toList) = slots := by
  suffices general : ∀ rest, refill slots (slots.flatMap Slot.toList ++ rest) = slots by
    simpa using general []
  intro rest
  induction slots with
  | nil => rfl
  | cons slot slots hypothesis =>
    cases slot with
    | one content => simp [refill, refillSlot, Slot.toList, hypothesis]
    | many contents => simp [refill, refillSlot, Slot.toList, hypothesis]

/-- A tree with its own children is that tree. -/
@[simp] theorem withChildren_children (tree : Tree) : tree.withChildren tree.children = tree := by
  cases tree with
  | node head metadata slots => simp [withChildren, children, refill_children]
  | stray value => rfl

end Tree

end Folio
