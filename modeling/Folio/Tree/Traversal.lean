import Folio.Tree

/-!
# Traversal

A visit takes a node before its children and the children from left to right; its depth
grows by one with every level. `visits` is the recursion, `walk` the same order from an
explicit stack of pending trees.
-/

namespace Folio.Tree

mutual

/-- Every tree of a visit with its depth. -/
def visits (depth : Int) : Tree → List (Int × Tree)
  | .node head metadata slots =>
    (depth, .node head metadata slots) :: visitsSlots (depth + 1) slots
  | .stray value => [(depth, .stray value)]

/-- The visit of everything in some slots. -/
def visitsSlots (depth : Int) : List (Slot Tree) → List (Int × Tree)
  | [] => []
  | .one tree :: rest => visits depth tree ++ visitsSlots depth rest
  | .many trees :: rest => visitsAll depth trees ++ visitsSlots depth rest

/-- The visit of several trees, one after another. -/
def visitsAll (depth : Int) : List Tree → List (Int × Tree)
  | [] => []
  | tree :: rest => visits depth tree ++ visitsAll depth rest

end

/-- Joined lists are visited one after the other. -/
theorem visitsAll_append (depth : Int) (first second : List Tree) :
    visitsAll depth (first ++ second) = visitsAll depth first ++ visitsAll depth second := by
  induction first with
  | nil => simp [visitsAll]
  | cons tree rest hypothesis => simp [visitsAll, hypothesis]

/-- Slots are visited through their contents. -/
theorem visitsSlots_eq (depth : Int) (slots : List (Slot Tree)) :
    visitsSlots depth slots = visitsAll depth (slots.flatMap Slot.toList) := by
  induction slots with
  | nil => simp [visitsSlots, visitsAll]
  | cons slot rest hypothesis =>
    cases slot <;> simp [visitsSlots, visitsAll, Slot.toList, hypothesis, visitsAll_append]

/-- A visit is the tree itself, then the visits of its children one level down. -/
theorem visits_eq (depth : Int) (tree : Tree) :
    visits depth tree = (depth, tree) :: visitsAll (depth + 1) tree.children := by
  cases tree with
  | node head metadata slots => simp [visits, children, visitsSlots_eq]
  | stray value => simp [visits, children, visitsAll]

/-- The trees of a visit. -/
def preorder (tree : Tree) : List Tree := (tree.visits 0).map (·.2)

mutual

/-- The number of nodes and stray values. -/
def size : Tree → Nat
  | .node _ _ slots => 1 + sizeSlots slots
  | .stray _ => 1

/-- The number of nodes and stray values in some slots. -/
def sizeSlots : List (Slot Tree) → Nat
  | [] => 0
  | .one tree :: rest => size tree + sizeSlots rest
  | .many trees :: rest => sizeAll trees + sizeSlots rest

/-- The number of nodes and stray values in several trees. -/
def sizeAll : List Tree → Nat
  | [] => 0
  | tree :: rest => size tree + sizeAll rest

end

/-- Sizes of joined lists add up. -/
theorem sizeAll_append (first second : List Tree) :
    sizeAll (first ++ second) = sizeAll first + sizeAll second := by
  induction first with
  | nil => simp [sizeAll]
  | cons tree rest hypothesis => simp [sizeAll, hypothesis, Nat.add_assoc]

/-- Slots are measured through their contents. -/
theorem sizeSlots_eq (slots : List (Slot Tree)) :
    sizeSlots slots = sizeAll (slots.flatMap Slot.toList) := by
  induction slots with
  | nil => simp [sizeSlots, sizeAll]
  | cons slot rest hypothesis =>
    cases slot <;> simp [sizeSlots, sizeAll, Slot.toList, hypothesis, sizeAll_append]

/-- A tree has one part more than its children together. -/
theorem size_eq (tree : Tree) : tree.size = 1 + sizeAll tree.children := by
  cases tree with
  | node head metadata slots => simp [size, children, sizeSlots_eq]
  | stray value => simp [size, children, sizeAll]

/-- The parts of everything that waits on a stack. -/
def pendingSize (pending : List (Int × Tree)) : Nat := sizeAll (pending.map (·.2))

/-- The visit of everything on a stack of pending trees: the top is taken off, and its
children are put in its place. -/
def walk : List (Int × Tree) → List (Int × Tree)
  | [] => []
  | (depth, tree) :: pending =>
    (depth, tree) :: walk (tree.children.map (depth + 1, ·) ++ pending)
termination_by pending => pendingSize pending
decreasing_by
  simp [pendingSize, sizeAll, sizeAll_append, Function.comp_def, size_eq tree]

end Folio.Tree
