import Folio.CommandLine.Report
import Folio.Proofs.Contents.Forest
import Folio.Proofs.Tree.Codec
import Folio.Proofs.Tree.Equality
import Folio.Proofs.Tree.Places
import Folio.Proofs.Tree.Traversal

/-!
# Visits go through all positions

The positions of a tree, in the order of the child numbers that lead to them, are what a visit
goes through: it makes one call for each, with the tree that stands there and a depth that grows
by the length of the position. `calls_visits` says so of the recursion on trees; a visitor that
leaves every tree as it is makes the same calls, whether recursion or a walk drives it, and so
does the stack of pending trees. Child numbers count what lies in the fields of a node, field by
field in `Kind.visitOrder`.
-/

namespace Folio

namespace Kind

/-- The fields for nodes in the order of a visit: a title before the body, a term before what it
means, an image before its caption, and a row from its header to its footer. -/
def visitOrder : Kind → List String
  | text | image => []
  | .section => ["title", "children"]
  | definition => ["term", "definition"]
  | figure => ["image", "description"]
  | row => ["header", "cells", "footer"]
  | table => ["rows"]
  | unorderedList | orderedList | definitionList => ["items"]
  | _ => ["children"]

/-- Slots are visited in the order of their declaration. -/
theorem visitOrder_eq (kind : Kind) : kind.visitOrder = kind.slots.map (·.name) := by
  cases kind <;> rfl

/-- A visit leaves out no field for nodes, and goes through none twice. -/
theorem visitOrder_perm (kind : Kind) :
    kind.visitOrder.Perm
      ((kind.fields.filter fun field => field.type.isStructural).map (·.name)) := by
  rw [visitOrder_eq]
  exact kind.slots_perm.map _

end Kind

namespace Tree

open CommandLine (contentsOf)

/-- The children of a well-shaped node are what lies in its fields, in the order of a visit. -/
theorem children_eq_contents {head : Head} {metadata : Json.Members} {slots : List (Slot Tree)}
    (shaped : NodeShaped head slots) :
    (Tree.node head metadata slots).children =
      head.kind.visitOrder.flatMap fun name => contentsOf name (.node head metadata slots) := by
  have lengths : head.kind.slots.length = slots.length := by
    simpa using (congrArg List.length shaped.layout).symm
  have found : (head.kind.slots.map fun field =>
      (Tree.node head metadata slots).slot? field.name) = slots.map some :=
    find?_zip head.kind.slots_nodup lengths
  have inOrder : (slots.map some).flatMap (fun slot? => (slot?.map Slot.toList).getD []) =
      slots.flatMap Slot.toList := by
    rw [List.flatMap_map]
    rfl
  rw [Kind.visitOrder_eq, List.flatMap_map, children, ← inOrder, ← found, List.flatMap_map]
  rfl

/-- The positions in a tree, each in front of those below it and of those to its right. -/
def positions (tree : Tree) : List Position := tree.placesWhere fun _ => true

/-- Places in trees are those in each, with its number in front. -/
theorem placesInAll_eq_flatMap (test : Tree → Bool) (index : Nat) (trees : List Tree) :
    placesInAll test index trees =
      (trees.zipIdx index).flatMap fun entry => (entry.1.placesWhere test).map (entry.2 :: ·) := by
  induction trees generalizing index with
  | nil => rfl
  | cons tree rest hypothesis =>
    rw [placesInAll, hypothesis, List.zipIdx_cons, List.flatMap_cons]

/-- The positions are that of the root and those in the children, behind the child's number. -/
theorem positions_eq (tree : Tree) :
    tree.positions = [] :: tree.children.zipIdx.flatMap fun entry =>
      entry.1.positions.map (entry.2 :: ·) := by
  rw [positions, placesWhere_eq, placesInAll_eq_flatMap]
  rfl

/-- Positions are those at which something stands. -/
theorem mem_positions_iff {tree : Tree} {position : Position} :
    position ∈ tree.positions ↔ ∃ found, tree.at? position = some found := by
  induction position generalizing tree with
  | nil =>
    rw [positions_eq]
    exact iff_of_true List.mem_cons_self ⟨tree, rfl⟩
  | cons index rest hypothesis =>
    have inChild : index :: rest ∈ tree.positions ↔
        ∃ child, tree.children[index]? = some child ∧ rest ∈ child.positions := by
      rw [positions_eq]
      simp [List.mem_zipIdx_iff_getElem?]
    rw [inChild]
    constructor
    · rintro ⟨child, isChild, below⟩
      obtain ⟨found, stands⟩ := hypothesis.1 below
      exact ⟨found, by rw [at?, isChild]; exact stands⟩
    · rintro ⟨found, stands⟩
      rw [at?, Option.bind_eq_some_iff] at stands
      obtain ⟨child, isChild, below⟩ := stands
      exact ⟨child, isChild, hypothesis.2 ⟨found, below⟩⟩

/-- What stands at a position is met on a visit. -/
theorem mem_preorder_of_at? {tree found : Tree} {position : Position}
    (stands : tree.at? position = some found) : found ∈ tree.preorder := by
  have listed : some found ∈ tree.positions.map tree.at? :=
    List.mem_map.2 ⟨position, mem_positions_iff.2 ⟨found, stands⟩, stands⟩
  rw [positions, at?_placesWhere] at listed
  obtain ⟨visited, collected, same⟩ := List.mem_map.1 listed
  exact Option.some.inj same ▸ (List.mem_filter.1 collected).1

/-- Numbers along a list ascend. -/
theorem pairwise_zipIdx {α : Type} (values : List α) (start : Nat) :
    (values.zipIdx start).Pairwise fun first second => first.2 < second.2 := by
  rw [← List.pairwise_map (f := Prod.snd) (R := (· < ·)), List.zipIdx_map_snd]
  exact List.pairwise_lt_range'

/-- Positions ascend from left to right, a position standing before those below it. -/
theorem pairwise_positions (tree : Tree) : tree.positions.Pairwise (· < ·) := by
  induction tree using childInduction with
  | step tree below =>
    rw [positions_eq, List.pairwise_cons, List.pairwise_flatMap]
    refine ⟨fun position member => ?_, fun entry member => ?_, ?_⟩
    · obtain ⟨entry, -, inEntry⟩ := List.mem_flatMap.1 member
      obtain ⟨rest, -, rfl⟩ := List.mem_map.1 inEntry
      exact List.nil_lt_cons _ _
    · rw [List.pairwise_map]
      refine (below entry.1 (List.fst_mem_of_mem_zipIdx member)).imp fun smaller => ?_
      exact List.cons_lt_cons_iff.2 (.inr ⟨rfl, smaller⟩)
    · refine (pairwise_zipIdx tree.children 0).imp fun smaller first inFirst second inSecond => ?_
      obtain ⟨firstRest, -, rfl⟩ := List.mem_map.1 inFirst
      obtain ⟨secondRest, -, rfl⟩ := List.mem_map.1 inSecond
      exact List.cons_lt_cons_iff.2 (.inl smaller)

/-- Several trees are visited one after another. -/
theorem visitsAll_eq (depth : Int) (trees : List Tree) :
    visitsAll depth trees = trees.flatMap (visits depth) := by
  induction trees with
  | nil => rfl
  | cons tree rest hypothesis => rw [visitsAll, hypothesis, List.flatMap_cons]

/-- The trees that stand at the positions, with their depths, are what a visit calls upon. -/
theorem calls_visits (tree : Tree) (depth : Int) :
    (tree.positions.map fun position =>
      (tree.at? position).map fun found => (depth + position.length, found)) =
      (tree.visits depth).map some := by
  induction tree using childInduction generalizing depth with
  | step tree below =>
    have inChild (entry : Tree × Nat) (member : entry ∈ tree.children.zipIdx) :
        ((entry.1.positions.map (entry.2 :: ·)).map fun position =>
          (tree.at? position).map fun found => (depth + position.length, found)) =
        (entry.1.visits (depth + 1)).map some := by
      have isChild := List.mem_zipIdx_iff_getElem?.1 member
      rw [← below entry.1 (List.fst_mem_of_mem_zipIdx member), List.map_map]
      refine List.map_congr_left fun position _ => ?_
      have deeper : depth + ((entry.2 :: position).length : Int) =
          depth + 1 + position.length := by
        rw [List.length_cons]
        omega
      rw [Function.comp_apply, at?, isChild, deeper]
      rfl
    rw [positions_eq, visits_eq, List.map_cons, List.map_cons, List.map_flatMap,
      List.flatMap_congr inChild, visitsAll_eq, List.map_flatMap]
    have children : tree.children = tree.children.zipIdx.map Prod.fst :=
      (List.zipIdx_map_fst 0 tree.children).symm
    conv_rhs => rw [children, List.flatMap_map]
    simp

/-- A stack of pending trees is used up by visiting them one after another. -/
theorem walk_eq (pending : List (Int × Tree)) :
    walk pending = pending.flatMap fun entry => entry.2.visits entry.1 := by
  fun_induction walk pending with
  | case1 => rfl
  | case2 depth tree pending hypothesis =>
    rw [hypothesis, List.flatMap_cons, List.flatMap_append, List.flatMap_map, visits_eq,
      visitsAll_eq, List.cons_append]

/-- A visitor that leaves every tree as it is and notes each call in its state. -/
def Visitor.noting {σ : Type} (note : Int → Tree → σ → σ) : Visitor σ :=
  fun depth tree state => (tree, note depth tree state)

/-- The state after some calls, each of which has been noted. -/
def noted {σ : Type} (note : Int → Tree → σ → σ) (calls : List (Int × Tree)) (state : σ) : σ :=
  calls.foldl (fun state call => note call.1 call.2 state) state

section Noting

variable {σ : Type} (note : Int → Tree → σ → σ)

/-- Notes on joined calls are taken one after the other. -/
theorem noted_append (first second : List (Int × Tree)) (state : σ) :
    noted note (first ++ second) state = noted note second (noted note first state) :=
  List.foldl_append

/-- Visits of several trees note the calls of each. -/
theorem traverseEach_noting {levels : Nat} {depth : Int} {trees : List Tree}
    (each : ∀ tree ∈ trees, ∀ state, traverse (.noting note) levels depth tree state =
      some (tree, noted note (tree.visits depth) state)) (state : σ) :
    traverseEach (traverse (.noting note) levels depth) trees state =
      some (trees, noted note (visitsAll depth trees) state) := by
  induction trees generalizing state with
  | nil => rfl
  | cons tree rest hypothesis =>
    obtain ⟨here, later⟩ := List.forall_mem_cons.1 each
    rw [visitsAll, noted_append]
    exact traverseEach_cons.2 ⟨tree, _, rest, here state, hypothesis later _, rfl⟩

/-- The recursion makes the calls of a visit and leaves the tree as it is, within as many levels
as the tree has parts. -/
theorem traverse_noting {levels : Nat} {tree : Tree} (enough : tree.size ≤ levels) (depth : Int)
    (state : σ) :
    traverse (.noting note) levels depth tree state =
      some (tree, noted note (tree.visits depth) state) := by
  induction levels generalizing tree depth state with
  | zero =>
    rw [size_eq] at enough
    omega
  | succ levels hypothesis =>
    have each : ∀ child ∈ tree.children, ∀ state,
        traverse (.noting note) levels (depth + 1) child state =
          some (child, noted note (child.visits (depth + 1)) state) := by
      intro child member state
      have smaller := size_lt_of_mem_children member
      exact hypothesis (by omega) (depth + 1) state
    rw [visits_eq]
    exact traverse_succ.2 ⟨tree.children, traverseEach_noting note each (note depth tree state),
      (withChildren_children tree).symm⟩

/-- A walk makes the calls of a visit, leaves the tree as it is and ends. -/
theorem run_noting (depth : Int) (tree : Tree) (state : σ) :
    ∃ visits, ∀ more ≥ visits,
      Walk.run (.noting note) more (.start depth tree state) =
        ⟨tree, [], noted note (tree.visits depth) state⟩ := by
  obtain ⟨visits, ran⟩ := traverse_iff_run.1
    ⟨tree.size, traverse_noting note (le_refl tree.size) depth state⟩
  refine ⟨visits, fun more enough => ?_⟩
  rw [← Nat.add_sub_cancel' enough, Walk.run_add, ran, Walk.run_of_ended _ _ rfl]

end Noting

/-- A visit of a typed tree makes one call for each position, in the order of positions and with
the depth grown by the length of the position, whether the recursion, a walk or the stack of
pending trees goes through it. The children that positions count are what lies in the fields of
the node, field by field, and every field for nodes is gone through once. -/
theorem visits_positions {tree : Tree} (typed : tree.Typed) (depth : Int) :
    tree.positions.Pairwise (· < ·) ∧
    (∀ position, position ∈ tree.positions ↔ ∃ found, tree.at? position = some found) ∧
    ((tree.positions.map fun position =>
        (tree.at? position).map fun found => (depth + position.length, found)) =
      (tree.visits depth).map some) ∧
    (∀ {σ : Type} (note : Int → Tree → σ → σ) (state : σ),
      (∀ levels ≥ tree.size, traverse (.noting note) levels depth tree state =
        some (tree, noted note (tree.visits depth) state)) ∧
      ∃ visits, ∀ more ≥ visits, Walk.run (.noting note) more (.start depth tree state) =
        ⟨tree, [], noted note (tree.visits depth) state⟩) ∧
    walk [(depth, tree)] = tree.visits depth ∧
    ∀ position found, tree.at? position = some found → ∃ kind, found.kind? = some kind ∧
      found.childrenChecked = .ok found.children ∧
      found.children = kind.visitOrder.flatMap (contentsOf · found) ∧
      kind.visitOrder.Perm
        ((kind.fields.filter fun field => field.type.isStructural).map (·.name)) := by
  refine ⟨pairwise_positions tree, fun _ => mem_positions_iff, calls_visits tree depth,
    fun note state => ⟨fun levels enough => traverse_noting note enough depth state,
      run_noting note depth tree state⟩, ?walk, ?fields⟩
  case walk =>
    rw [walk_eq, List.flatMap_singleton]
  case fields =>
    intro position found stands
    have shaped : found.IsShaped := typed.shaped found (mem_preorder_of_at? stands)
    cases found with
    | stray value => exact shaped.elim
    | node head metadata slots =>
      exact ⟨head.kind, rfl, childrenChecked_of_shaped shaped, children_eq_contents shaped,
        head.kind.visitOrder_perm⟩

/-- A section whose title is marked up, with a row in its body that has a header and a footer and
nothing between. -/
def headedRow : Tree :=
  .node (.section (.text "")) [] [.one (ofList .bold [ofText "t"]), .many
    [ofList .table [.node .row [] [.many [ofText "h"], .many [], .many [ofText "f"]]]]]

/-- The title is visited with what is in it before the body, and the header before the footer. -/
theorem visits_headedRow :
    headedRow.Typed ∧
    headedRow.positions = [[], [0], [0, 0], [1], [1, 0], [1, 0, 0], [1, 0, 1]] ∧
    (headedRow.visits 5).map (·.1) = [5, 6, 7, 6, 7, 8, 8] ∧
    walk [(5, headedRow)] = headedRow.visits 5 ∧
    (headedRow.at? [1, 0]).map children = some [ofText "h", ofText "f"] := by
  have typed : headedRow.Typed := by decide
  exact ⟨typed, rfl, rfl, (visits_positions typed 5).2.2.2.2.1, rfl⟩

end Tree

end Folio
