import Folio.Tree.Relabelling
import Folio.Tree.Section
import Mathlib.Data.List.Basic

/-!
# Visits through children

What is read off the visit of a tree is read off the tree and then off its children, one
after another. `preorder_eq` says so of the visited trees; collections, texts and references
inherit the equation, so later proofs recurse on trees and never on visits.
-/

namespace Folio.Tree

/-- A property of all trees holds if it passes from the children of a tree to the tree. -/
theorem childInduction {motive : Tree → Prop}
    (step : ∀ tree, (∀ child ∈ tree.children, motive child) → motive tree) (tree : Tree) :
    motive tree := by
  induction tree using Tree.induction with
  | stray value => exact step _ (by simp [children])
  | node head metadata slots below =>
    refine step _ fun child member => ?_
    obtain ⟨slot, inSlots, inSlot⟩ := List.mem_flatMap.1 member
    exact below slot inSlots child inSlot

/-- The trees of a visit of several trees. -/
theorem visitsAll_trees (depth : Int) (trees : List Tree) :
    (visitsAll depth trees).map (·.2) =
      trees.flatMap fun tree => (tree.visits depth).map (·.2) := by
  induction trees with
  | nil => simp [visitsAll]
  | cons tree rest hypothesis => simp [visitsAll, hypothesis]

/-- The depth at which a visit begins has no influence on the trees that it meets. -/
theorem visits_trees (depth : Int) (tree : Tree) :
    (tree.visits depth).map (·.2) = tree.preorder := by
  suffices general : ∀ first second : Int,
      (tree.visits first).map (·.2) = (tree.visits second).map (·.2) from general depth 0
  induction tree using childInduction with
  | step tree below =>
    intro first second
    rw [visits_eq, visits_eq, List.map_cons, List.map_cons, visitsAll_trees, visitsAll_trees]
    congr 1
    exact List.flatMap_congr fun child member => below child member (first + 1) (second + 1)

/-- The trees of a visit are the tree itself and then those of its children. -/
theorem preorder_eq (tree : Tree) : tree.preorder = tree :: tree.children.flatMap preorder := by
  rw [preorder, visits_eq, List.map_cons, visitsAll_trees]
  congr 1
  exact List.flatMap_congr fun child _ => visits_trees _ child

/-- The collected nodes of a tree are the tree, if it passes, and then those of its
children. -/
theorem collectWhere_eq (test : Tree → Bool) (tree : Tree) :
    tree.collectWhere test =
      (if test tree then [tree] else []) ++ tree.children.flatMap (collectWhere test) := by
  have below : (tree.children.flatMap preorder).filter test =
      tree.children.flatMap (collectWhere test) := by
    rw [List.filter_flatMap]
    rfl
  rw [collectWhere, preorder_eq, List.filter_cons, below]
  split <;> simp

/-- Only sections belong to the category of sections. -/
theorem isA_section (tree : Tree) :
    tree.isA (.of .section) = (tree.kind? == some .section) := by
  cases tree with
  | stray value => rfl
  | node head metadata slots => cases head <;> rfl

/-- The sections of a tree are what passes the test for sections. -/
theorem sections_eq_collectWhere (tree : Tree) :
    tree.sections = tree.collectWhere fun visited => visited.isA (.of .section) := by
  have single : (fun visited : Tree => [Category.of .section].any visited.isA) =
      fun visited => visited.isA (.of .section) := by
    funext visited
    simp
  rw [sections, collect, single]

/-- The sections of a tree are the tree, if it is one, and then those of its children. -/
theorem sections_eq (tree : Tree) :
    tree.sections =
      (if tree.isA (.of .section) then [tree] else []) ++ tree.children.flatMap sections := by
  rw [sections_eq_collectWhere, collectWhere_eq]
  congr 1
  exact List.flatMap_congr fun child _ => (sections_eq_collectWhere child).symm

/-- The text of a tree is its own and then those of its children. -/
theorem text_eq (tree : Tree) :
    tree.text = tree.ownText ++ String.join (tree.children.map text) := by
  have below : ∀ trees : List Tree,
      String.join ((trees.flatMap preorder).map ownText) = String.join (trees.map text) := by
    intro trees
    induction trees with
    | nil => rfl
    | cons first rest hypothesis =>
      simp only [List.flatMap_cons, List.map_append, List.map_cons, String.join_append,
        String.join_cons, hypothesis]
      rfl
  rw [text, preorder_eq, List.map_cons, String.join_cons, below]

end Folio.Tree
