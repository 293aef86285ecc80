import Folio.Proofs.Tree.Position

/-!
# Nodes that grow at the end

A child is appended to the list that the slots of a node end in, as they do for documents,
sections and lists. What lies in the last child is found and changed there whatever stands in
front of it, so a builder that keeps positions of open nodes can work on the tree itself.
-/

namespace Folio

namespace Tree

/-- Add a child at the end of the list that slots end in. -/
def appendSlot (child : Tree) : List (Slot Tree) → List (Slot Tree)
  | [] => []
  | [.many children] => [.many (children ++ [child])]
  | slot :: rest => slot :: appendSlot child rest

/-- Add a child at the end of the list that the slots of a node end in. -/
def addChild (child : Tree) : Tree → Tree
  | node head metadata slots => node head metadata (appendSlot child slots)
  | stray value => stray value

/-- Add a child to what stands at a position. The position of the child is given back, too. -/
def append? (position : Position) (tree child : Tree) : Option (Tree × Position) :=
  (tree.at? position).map fun parent =>
    (modifyAt (addChild child) position tree, position ++ [parent.children.length])

variable (head : Head) (metadata : Json.Members) (front : List (Slot Tree))

/-- A child is added to the list in the last slot. -/
theorem addChild_node (contents : List Tree) (child : Tree) :
    addChild child (node head metadata (front ++ [.many contents])) =
      node head metadata (front ++ [.many (contents ++ [child])]) := by
  have grown : appendSlot child (front ++ [.many contents]) =
      front ++ [.many (contents ++ [child])] := by
    induction front with
    | nil => rfl
    | cons slot rest hypothesis =>
      have nonempty : rest ++ [Slot.many contents] ≠ [] := by simp
      rw [List.cons_append, appendSlot, hypothesis, List.cons_append]
      exact fun contents _ isNil => absurd isNil nonempty
  rw [addChild, grown]

/-- The children in the last slot come behind all others. -/
theorem children_node (contents : List Tree) :
    (node head metadata (front ++ [.many contents])).children =
      front.flatMap Slot.toList ++ contents := by
  simp [children, Slot.toList]

/-- What lies in the last child of a node. -/
theorem at?_of_last {parent child : Tree} {before : List Tree}
    (last : parent.children = before ++ [child]) (below : Position) :
    parent.at? (before.length :: below) = child.at? below := by
  rw [at?, last, List.getElem?_concat_length, Option.bind_some]

/-- Slots refilled from the children of a node of which the last ones are different. -/
theorem refill_front {contents trees : List Tree} (sameLength : trees.length = contents.length) :
    refill (front ++ [.many contents]) (front.flatMap Slot.toList ++ trees) =
      front ++ [.many trees] := by
  induction front with
  | nil => simp [refill, refillSlot, ← sameLength]
  | cons slot rest hypothesis =>
    rw [List.cons_append, List.flatMap_cons, List.append_assoc, refill, List.cons_append]
    cases slot with
    | one content => exact congrArg (Slot.one content :: ·) hypothesis
    | many contents =>
      have filled : refillSlot (.many contents)
          (contents ++ (rest.flatMap Slot.toList ++ trees)) =
            (.many contents, rest.flatMap Slot.toList ++ trees) := by
        simp [refillSlot]
      rw [Slot.toList, filled]
      exact congrArg (Slot.many contents :: ·) hypothesis

/-- A change in the last child of a node. -/
theorem modifyAt_of_last (change : Tree → Tree) (before : List Tree) (child : Tree)
    (below : Position) :
    modifyAt change ((front.flatMap Slot.toList ++ before).length :: below)
        (node head metadata (front ++ [.many (before ++ [child])])) =
      node head metadata (front ++ [.many (before ++ [modifyAt change below child])]) := by
  have changed : (front.flatMap Slot.toList ++ (before ++ [child])).modify
      (front.flatMap Slot.toList ++ before).length (modifyAt change below) =
        front.flatMap Slot.toList ++ (before ++ [modifyAt change below child]) := by
    rw [List.modify_eq_set_getElem?]
    simp
  rw [modifyAt, children_node, changed, withChildren, refill_front]
  simp

variable (before : List Tree) (child : Tree)

/-- A child is added behind those in a list. -/
theorem addChild_ofList : addChild child (ofList head before) = ofList head (before ++ [child]) :=
  rfl

/-- What stands below the last child does so in that child. -/
theorem at?_last (below : Position) :
    (ofList head (before ++ [child])).at? (before.length :: below) = child.at? below :=
  at?_of_last (children_ofList head _) below

/-- A change below the last child is one in that child. -/
theorem modifyAt_last (change : Tree → Tree) (below : Position) :
    modifyAt change (before.length :: below) (ofList head (before ++ [child])) =
      ofList head (before ++ [modifyAt change below child]) :=
  modifyAt_of_last head [] [] change before child below

end Tree

end Folio
