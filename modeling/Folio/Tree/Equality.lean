import Folio.Fault
import Folio.Tree.Traversal

/-!
# Equality of trees

Two trees are equal if they are the same apart from metadata. They are compared node by
node along two walks in step; each pair of nodes agrees in kind, attributes and the layout
of its slots, which keeps the two stacks of pending trees aligned.
-/

namespace Folio.Tree

/-- Slots are laid out alike: each a single place in both trees, or equally many. -/
def sameLayout : List (Slot Tree) → List (Slot Tree) → Bool
  | [], [] => true
  | .one _ :: left, .one _ :: right => sameLayout left right
  | .many first :: left, .many second :: right =>
    first.length == second.length && sameLayout left right
  | _, _ => false

/-- Attributes agree name by name. -/
def sameAttributes (left right : Head) : Bool :=
  left.attributes.length == right.attributes.length &&
    (left.attributes.zip right.attributes).all fun (first, second) =>
      first.1 == second.1 && first.2.same second.2

/-- Two nodes agree in everything but metadata and the contents of their slots. Two stray
values of one type cannot be compared. -/
def sameNode : Tree → Tree → Except Fault Bool
  | .node left _ leftSlots, .node right _ rightSlots =>
    .ok (left.kind == right.kind && sameAttributes left right && sameLayout leftSlots rightSlots)
  | .stray left, .stray right =>
    if left.typeName == right.typeName then .error .notStructured else .ok false
  | _, _ => .ok false

/-- The values that a stray value consists of where a list is called for: the characters of
a text, the names of an object, the items of a list. -/
def elements? : Tree → Except Fault (List Tree)
  | .stray (.str text) =>
    .ok (text.toList.map fun character => .stray (.str character.toString))
  | .stray (.obj members) => .ok (members.map fun member => .stray (.str member.1))
  | .stray (.arr items) => .ok (items.map .stray)
  | tree => .error (.notIterable tree.typeName)

/-- The children of a node, if the only slot of a sequence does hold a list. -/
def childrenChecked : Tree → Except Fault (List Tree)
  | .node head metadata slots =>
    match head.kind.shape, slots with
    | .sequence, [.one content] => elements? content
    | _, _ => .ok (Tree.node head metadata slots).children
  | .stray value => .error (.noMember value.typeName "shape")

mutual

/-- The number of nodes. -/
def nodeCount : Tree → Nat
  | .node _ _ slots => 1 + nodeCountSlots slots
  | .stray _ => 0

/-- The number of nodes in some slots. -/
def nodeCountSlots : List (Slot Tree) → Nat
  | [] => 0
  | .one tree :: rest => nodeCount tree + nodeCountSlots rest
  | .many trees :: rest => nodeCountAll trees + nodeCountSlots rest

/-- The number of nodes in several trees. -/
def nodeCountAll : List Tree → Nat
  | [] => 0
  | tree :: rest => nodeCount tree + nodeCountAll rest

end

/-- Nodes of joined lists add up. -/
theorem nodeCountAll_append (first second : List Tree) :
    nodeCountAll (first ++ second) = nodeCountAll first + nodeCountAll second := by
  induction first with
  | nil => simp [nodeCountAll]
  | cons tree rest hypothesis => simp [nodeCountAll, hypothesis, Nat.add_assoc]

/-- Nodes in slots are counted through the contents of the slots. -/
theorem nodeCountSlots_eq (slots : List (Slot Tree)) :
    nodeCountSlots slots = nodeCountAll (slots.flatMap Slot.toList) := by
  induction slots with
  | nil => simp [nodeCountSlots, nodeCountAll]
  | cons slot rest hypothesis =>
    cases slot <;>
      simp [nodeCountSlots, nodeCountAll, Slot.toList, hypothesis, nodeCountAll_append]

/-- Stray values are no nodes. -/
theorem nodeCountAll_stray {α : Type} (values : List α) (value : α → Json) :
    nodeCountAll (values.map fun entry => .stray (value entry)) = 0 := by
  induction values with
  | nil => simp [nodeCountAll]
  | cons first rest hypothesis => simp [nodeCountAll, nodeCount, hypothesis]

/-- The elements of a stray value are no nodes. -/
theorem nodeCountAll_elements {tree : Tree} {trees : List Tree}
    (found : elements? tree = .ok trees) : nodeCountAll trees = 0 := by
  unfold elements? at found
  split at found
  · cases found
    exact nodeCountAll_stray _ fun character : Char => Json.str character.toString
  · cases found
    exact nodeCountAll_stray _ fun member : String × Json => Json.str member.1
  · cases found
    exact nodeCountAll_stray _ id
  · simp at found

/-- The children of a node hold fewer nodes than the node. -/
theorem nodeCountAll_childrenChecked {head : Head} {metadata : Json.Members}
    {slots : List (Slot Tree)} {trees : List Tree}
    (found : (Tree.node head metadata slots).childrenChecked = .ok trees) :
    nodeCountAll trees < nodeCount (.node head metadata slots) := by
  simp only [childrenChecked] at found
  split at found
  · rw [nodeCountAll_elements found]
    simp only [nodeCount]
    omega
  · cases found
    simp [nodeCount, children, nodeCountSlots_eq]

/-- Compare two stacks of pending trees, top first, until they differ or are used up. -/
def sameWalks : List Tree → List Tree → Except Fault Bool
  | [], [] => .ok true
  | left :: lefts, right :: rights =>
    match sameNode left right with
    | .error fault => .error fault
    | .ok false => .ok false
    | .ok true =>
      match left with
      | .stray value => .error (.noMember value.typeName "shape")
      | .node head metadata slots =>
        match _below : (Tree.node head metadata slots).childrenChecked with
        | .error fault => .error fault
        | .ok leftChildren =>
          match right.childrenChecked with
          | .error fault => .error fault
          | .ok rightChildren => sameWalks (leftChildren ++ lefts) (rightChildren ++ rights)
  | _, _ => .ok false
termination_by lefts => nodeCountAll lefts
decreasing_by
  have fewer := nodeCountAll_childrenChecked _below
  simp only [nodeCountAll, nodeCountAll_append]
  omega

/-- The trees are equal, metadata aside. -/
def equal (left right : Tree) : Except Fault Bool := sameWalks [left] [right]

end Folio.Tree
