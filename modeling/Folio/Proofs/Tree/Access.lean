import Folio.Proofs.Tree.Placement

/-!
# Checked access

The operations of the library read members of whatever they meet: the children of a node on a
visit, a field that holds one node or a list of them, an attribute. Here each of these is read
with a check, and a value that has no such member is a fault. In a valid tree there are no
faults, and what is read is what the operations read without any check.
-/

namespace Folio.Tree

/-- The contents of a structural field, which only nodes of some kinds have. -/
def fieldChecked (name : String) (tree : Tree) : Except Fault (Slot Tree) :=
  match tree.slot? name with
  | some slot => .ok slot
  | none => .error (.noMember tree.typeName name)

/-- The node in a field; a list of nodes is none. -/
def oneChecked (name : String) (tree : Tree) : Except Fault Tree := do
  match ← tree.fieldChecked name with
  | .one content => .ok content
  | .many _ => .error (.noMember "list" name)

/-- The nodes in a field; a single node cannot be gone through. -/
def manyChecked (name : String) (tree : Tree) : Except Fault (List Tree) := do
  match ← tree.fieldChecked name with
  | .one content => .error (.notIterable content.typeName)
  | .many contents => .ok contents

/-- An attribute, as running text. -/
def shownChecked (name : String) : Tree → Except Fault String
  | .node head _ _ =>
    match head.attribute? name with
    | some (.scalar value) => .ok value.plain
    | _ => .error (.noMember head.kind.name name)
  | .stray value => .error (.noMember value.typeName name)

/-- The visit of everything on a stack of pending trees, the children of each being read with a
check. -/
def visitChecked : List Tree → Except Fault (List Tree)
  | [] => .ok []
  | .stray value :: _ => .error (.noMember value.typeName "shape")
  | .node head metadata slots :: pending =>
    match _below : (Tree.node head metadata slots).childrenChecked with
    | .error fault => .error fault
    | .ok children =>
      (visitChecked (children ++ pending)).map (Tree.node head metadata slots :: ·)
termination_by pending => nodeCountAll pending
decreasing_by
  have fewer := nodeCountAll_childrenChecked _below
  simp only [nodeCountAll, nodeCountAll_append]
  omega

/-- The trees of a visit. -/
def preorderChecked (tree : Tree) : Except Fault (List Tree) := visitChecked [tree]

/-- The text of a tree. -/
def textChecked (tree : Tree) : Except Fault String :=
  tree.preorderChecked.map fun visited => String.join (visited.map ownText)

/-- The nodes of some categories. -/
def collectChecked (categories : List Category) (tree : Tree) : Except Fault (List Tree) :=
  tree.preorderChecked.map fun visited => visited.filter fun tree => categories.any tree.isA

/-- One step of a visit of well-shaped trees. -/
theorem visitChecked_cons {tree : Tree} (shaped : tree.IsShaped) (pending : List Tree) :
    visitChecked (tree :: pending) =
      (visitChecked (tree.children ++ pending)).map (tree :: ·) := by
  cases tree with
  | stray value => exact shaped.elim
  | node head metadata slots =>
    have readable := childrenChecked_of_shaped shaped
    rw [visitChecked]
    split
    · rename_i fault failed
      rw [readable] at failed
      cases failed
    · rename_i found succeeded
      rw [readable] at succeeded
      cases succeeded
      rfl

/-- A visit of well-shaped trees is without a fault, and meets what any visit meets. -/
theorem visitChecked_eq (trees : List Tree) (shaped : ∀ tree ∈ trees, tree.Shaped) :
    visitChecked trees = .ok (trees.flatMap preorder) := by
  induction size : sizeAll trees using Nat.strongRecOn generalizing trees with
  | ind bound hypothesis =>
    cases trees with
    | nil => rw [visitChecked]; rfl
    | cons tree pending =>
      obtain ⟨here, later⟩ := List.forall_mem_cons.1 shaped
      obtain ⟨node, below⟩ := everywhere_iff.1 here
      have smaller : sizeAll (tree.children ++ pending) < bound := by
        rw [← size, sizeAll_append, sizeAll, size_eq tree]
        omega
      rw [visitChecked_cons node, hypothesis _ smaller _
        (List.forall_mem_append.2 ⟨below, later⟩) rfl, List.flatMap_cons, preorder_eq tree,
        List.flatMap_append]
      rfl

/-- What is collected of one category are the visited nodes that belong to it. -/
theorem mem_collect_singleton {category : Category} {tree visited : Tree} :
    visited ∈ tree.collect [category] ↔
      visited ∈ tree.preorder ∧ visited.isA category = true := by
  rw [collect, collectWhere, List.mem_filter]
  simp

section Shaped

variable {tree : Tree} (shaped : tree.Shaped)

include shaped

/-- A well-shaped tree is visited without a fault. -/
theorem preorderChecked_of_shaped : tree.preorderChecked = .ok tree.preorder := by
  rw [preorderChecked, visitChecked_eq [tree] (List.forall_mem_singleton.2 shaped),
    List.flatMap_singleton]

/-- Its text is read without a fault. -/
theorem textChecked_of_shaped : tree.textChecked = .ok tree.text := by
  rw [textChecked, preorderChecked_of_shaped shaped]
  rfl

/-- Nodes are collected from it without a fault. -/
theorem collectChecked_of_shaped (categories : List Category) :
    tree.collectChecked categories = .ok (tree.collect categories) := by
  rw [collectChecked, preorderChecked_of_shaped shaped]
  rfl

end Shaped

end Folio.Tree
