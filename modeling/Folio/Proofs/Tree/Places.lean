import Folio.Proofs.Tree.Position
import Folio.Proofs.Tree.Preorder
import Mathlib.Data.List.Forall2

/-!
# Places of collected nodes

Where the nodes that pass a test stand in a tree, in the order of a visit. The places go
together with the collection: looking them up gives the collected nodes, in the same order
(`at?_placesWhere`).
-/

namespace Folio.Tree

mutual

/-- The positions of the nodes of a tree that pass a test, in the order of a visit. -/
def placesWhere (test : Tree → Bool) : Tree → List Position
  | .node head metadata slots =>
    (if test (.node head metadata slots) then [[]] else []) ++ placesInSlots test 0 slots
  | .stray value => if test (.stray value) then [[]] else []

/-- The positions in some slots, the first child of which has the given number. -/
def placesInSlots (test : Tree → Bool) (index : Nat) : List (Slot Tree) → List Position
  | [] => []
  | .one tree :: rest =>
    (placesWhere test tree).map (index :: ·) ++ placesInSlots test (index + 1) rest
  | .many trees :: rest =>
    placesInAll test index trees ++ placesInSlots test (index + trees.length) rest

/-- The positions in several children, the first of which has the given number. -/
def placesInAll (test : Tree → Bool) (index : Nat) : List Tree → List Position
  | [] => []
  | tree :: rest => (placesWhere test tree).map (index :: ·) ++ placesInAll test (index + 1) rest

end

variable (test : Tree → Bool)

/-- Places in joined lists are those in one and then those in the other, with the numbers going on.
-/
theorem placesInAll_append (index : Nat) (first second : List Tree) :
    placesInAll test index (first ++ second) =
      placesInAll test index first ++ placesInAll test (index + first.length) second := by
  induction first generalizing index with
  | nil => simp [placesInAll]
  | cons tree rest hypothesis =>
    simp [placesInAll, hypothesis, Nat.add_assoc, Nat.add_comm 1]

/-- Places in slots are those in their contents, one list after the other. -/
theorem placesInSlots_eq (index : Nat) (slots : List (Slot Tree)) :
    placesInSlots test index slots = placesInAll test index (slots.flatMap Slot.toList) := by
  induction slots generalizing index with
  | nil => simp [placesInSlots, placesInAll]
  | cons slot rest hypothesis =>
    cases slot <;> simp [placesInSlots, placesInAll, Slot.toList, hypothesis, placesInAll_append]

/-- The places in a tree are that of the tree itself, if it passes, and those in its children. -/
theorem placesWhere_eq (tree : Tree) :
    placesWhere test tree =
      (if test tree then [[]] else []) ++ placesInAll test 0 tree.children := by
  cases tree with
  | node head metadata slots => rw [placesWhere, placesInSlots_eq, children]
  | stray value => simp [placesWhere, placesInAll, children]

/-- Looking up the places gives the collected nodes. -/
theorem at?_placesWhere (tree : Tree) :
    (placesWhere test tree).map tree.at? = (tree.collectWhere test).map some := by
  induction tree using childInduction with
  | step tree below =>
    have inside (done todo : List Tree) (split : tree.children = done ++ todo) :
        (placesInAll test done.length todo).map tree.at? =
          (todo.flatMap (collectWhere test)).map some := by
      induction todo generalizing done with
      | nil => rfl
      | cons child rest hypothesis =>
        have isChild : tree.at? [done.length] = some child := at?_child split
        have under (place : Position) : tree.at? (done.length :: place) = child.at? place := by
          rw [← List.singleton_append, at?_append, isChild]
          rfl
        have behind := hypothesis (done ++ [child]) (by simpa using split)
        rw [List.length_append, List.length_singleton] at behind
        rw [placesInAll, List.map_append, List.map_map, List.flatMap_cons, List.map_append, behind,
          ← below child (by rw [split]; simp)]
        congr 1
        exact List.map_congr_left fun place _ => under place
    have children := inside [] tree.children rfl
    rw [List.length_nil] at children
    rw [placesWhere_eq, collectWhere_eq, List.map_append, List.map_append, children]
    split <;> rfl

/-- A tree in which nothing is collected has no places. -/
theorem placesWhere_eq_nil {tree : Tree} (none : tree.collectWhere test = []) :
    placesWhere test tree = [] := by
  have lookups := at?_placesWhere test tree
  rw [none] at lookups
  exact List.map_eq_nil_iff.1 lookups

/-- What relates the collected nodes to a list relates their places to it. -/
theorem forall₂_placesWhere {β : Type} {relation : Tree → β → Prop} {tree : Tree}
    {others : List β} (related : List.Forall₂ relation (tree.collectWhere test) others) :
    List.Forall₂ (fun place other => ∃ found, tree.at? place = some found ∧ relation found other)
      (tree.placesWhere test) others := by
  have lookups : List.Forall₂ (fun found other => ∃ tree, found = some tree ∧ relation tree other)
      ((tree.collectWhere test).map some) others :=
    List.forall₂_map_left_iff.2 (related.imp fun found _ holds => ⟨found, rfl, holds⟩)
  rw [← at?_placesWhere] at lookups
  exact List.forall₂_map_left_iff.1 lookups

end Folio.Tree
