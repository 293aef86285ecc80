import Folio.Proofs.Contents.Ranks
import Folio.Proofs.Signature

/-!
# Open sections around a visit

A table of contents is built from depths alone, but at every visit the sections that are still open
are those around the visited node. `close_stack` follows the way down to a position: the visits
before it are those of the nodes above it, and those of everything to the left of them. The latter
have been closed again, by `Adds`; of the former, the listed ones are open, the innermost first.
-/

namespace Folio

namespace Tree

/-- A visit meets something at every position. -/
theorem length_visits (depth : Int) (tree : Tree) :
    (tree.visits depth).length = tree.positions.length := by
  have calls := congrArg List.length (calls_visits tree depth)
  rw [List.length_map, List.length_map] at calls
  exact calls.symm

/-- The visits before a position in one of several trees are those of the trees in front of it, and
those before the position in the tree itself. -/
theorem take_visitsAll (depth : Int) {trees : List Tree} {start index number : Nat}
    {place : Position}
    (isPlace : ((trees.zipIdx start).flatMap fun entry =>
      entry.1.positions.map (entry.2 :: ·))[index]? = some (number :: place)) :
    ∃ before child after inside, trees = before ++ child :: after ∧
      start + before.length = number ∧ child.positions[inside]? = some place ∧
      (visitsAll depth trees).take index =
        visitsAll depth before ++ (child.visits depth).take inside := by
  induction trees generalizing start index with
  | nil => simp at isPlace
  | cons first others hypothesis =>
    rw [List.zipIdx_cons, List.flatMap_cons] at isPlace
    rw [visitsAll]
    rcases Nat.lt_or_ge index first.positions.length with here | later
    · rw [List.getElem?_append_left (by rwa [List.length_map]), List.getElem?_map,
        Option.map_eq_some_iff] at isPlace
      obtain ⟨found, isFound, same⟩ := isPlace
      obtain ⟨rfl, rfl⟩ := List.cons.inj same
      refine ⟨[], first, others, index, rfl, rfl, isFound, ?_⟩
      rw [List.take_append_of_le_length (by rw [length_visits]; omega)]
      rfl
    · rw [List.getElem?_append_right (by rwa [List.length_map]), List.length_map] at isPlace
      obtain ⟨before, child, after, inside, rfl, rfl, isFound, visited⟩ := hypothesis isPlace
      refine ⟨first :: before, child, after, inside, rfl, ?_, isFound, ?_⟩
      · rw [List.length_cons]
        omega
      · rw [List.take_append, List.take_of_length_le (by rwa [length_visits]), length_visits,
          visited, visitsAll, List.append_assoc]

/-- The visits before a position inside a child are that of the tree, those of the children in
front, and those before the position in the child. -/
theorem take_visits (depth : Int) {tree : Tree} {index number : Nat} {place : Position}
    (isPlace : tree.positions[index]? = some (number :: place)) :
    ∃ before child after inside, tree.children = before ++ child :: after ∧
      before.length = number ∧ child.positions[inside]? = some place ∧
      (tree.visits depth).take index = (depth, tree) ::
        (visitsAll (depth + 1) before ++ (child.visits (depth + 1)).take inside) := by
  rw [positions_eq] at isPlace
  cases index with
  | zero => simp at isPlace
  | succ index =>
    rw [List.getElem?_cons_succ] at isPlace
    obtain ⟨before, child, after, inside, split, isNumber, isFound, visited⟩ :=
      take_visitsAll (depth + 1) isPlace
    refine ⟨before, child, after, inside, split, by omega, isFound, ?_⟩
    rw [visits_eq, List.take_succ_cons, visited]

/-- The first visit is that of the root. -/
theorem eq_zero_of_positions {tree : Tree} {index : Nat}
    (isRoot : tree.positions[index]? = some []) : index = 0 := by
  cases index with
  | zero => rfl
  | succ index =>
    rw [positions_eq, List.getElem?_cons_succ] at isRoot
    obtain ⟨entry, _, inEntry⟩ := List.mem_flatMap.1 (List.mem_of_getElem? isRoot)
    obtain ⟨_, _, isNil⟩ := List.mem_map.1 inEntry
    cases isNil

end Tree

namespace Contents

open Folio.Tree OpenSection

/-- The entry stands for the section at a position of a tree whose own depth is given. -/
def Opens (tree : Tree) (depth : Int) (entry : OpenSection) (place : Position) : Prop :=
  entry.depth = depth + place.length ∧
    ∃ visited, tree.at? place = some visited ∧ entry.link = some (linkTo visited)

/-- What stands for a section in a child stands for it in the parent. -/
theorem Opens.of_child {tree child : Tree} {depth : Int} {number : Nat} {entry : OpenSection}
    {place : Position} (isChild : tree.children[number]? = some child)
    (opens : Opens child (depth + 1) entry place) : Opens tree depth entry (number :: place) := by
  obtain ⟨atDepth, visited, stands, isLink⟩ := opens
  refine ⟨?_, visited, ?_, isLink⟩
  · rw [atDepth, List.length_cons]
    omega
  · rw [at?, isChild, Option.bind_some, stands]

variable {options : ContentsOptions}

/-- The visits of several trees add the items of each. -/
theorem adds_visitsAll (options : ContentsOptions) (depth : Int) (level : Nat)
    (trees : List Tree) :
    Adds options depth level (visitsAll depth trees) (trees.flatMap (listed options level))
      (trees.flatMap (forestWithin options level)) :=
  .of_each fun tree _ => adds_visits options depth level tree

/-- Visits that pass leave the innermost open section with some further items. -/
theorem Adds.of_passed {depth : Int} {level : Nat} {visits : List (Int × Tree)}
    {sections items : List Tree} (adds : Adds options depth level visits sections items)
    {state between : State} {entry : OpenSection} {rest : List OpenSection}
    (atLevel : rest.length = level) (atDepth : close depth state.stack = entry :: rest)
    (passed : visitAll options state visits = .ok between) :
    close depth between.stack = entry.addAll items :: rest := by
  have added := adds state entry rest atLevel atDepth
  cases checked : checkAll options state sections with
  | error refusal =>
    rw [checked] at added
    rw [added] at passed
    cases passed
  | ok last =>
    rw [checked] at added
    obtain ⟨stack, ran, closed⟩ := added
    rw [ran] at passed
    cases passed
    exact closed

/-- Where visits pass one after another, each of them does. -/
theorem exists_between {state last : State} {first second : List (Int × Tree)}
    (passed : visitAll options state (first ++ second) = .ok last) :
    ∃ between, visitAll options state first = .ok between ∧
      visitAll options between second = .ok last := by
  rw [visitAll_append] at passed
  exact bind_eq_ok.1 passed

/-- A visit that passes opens its node if that is listed. -/
theorem exists_innermost {depth : Int} {level : Nat} {tree : Tree} {state between : State}
    {entry : OpenSection} {rest : List OpenSection} (atLevel : rest.length = level)
    (atDepth : close depth state.stack = entry :: rest)
    (passed : visit options state depth tree = .ok between) :
    ∃ innermost others, others.length = levelBelow options level tree ∧
      close (depth + 1) between.stack = innermost :: others ∧
      innermost :: others =
        (if isListed options level tree then [openedFor depth tree] else []) ++ entry :: rest := by
  have settled : Settled depth (entry :: rest) := atDepth ▸ settled_close depth state.stack
  by_cases isListed : isListed options level tree = true
  · rw [visit_of_listed isListed atLevel atDepth] at passed
    cases checked : checkReference options tree state with
    | error cause =>
      rw [checked] at passed
      cases passed
    | ok last =>
      rw [checked] at passed
      cases passed
      refine ⟨openedFor depth tree, entry :: rest, ?_, ?_, by rw [if_pos isListed]; rfl⟩
      · rw [levelBelow, if_pos isListed, List.length_cons, atLevel]
      · exact close_of_settled (Int.lt_succ depth : (openedFor depth tree).depth < depth + 1)
  · rw [visit_of_not_listed (by simpa using isListed) atLevel atDepth] at passed
    cases passed
    refine ⟨entry, rest, ?_, ?_, by rw [if_neg isListed]; rfl⟩
    · rw [levelBelow, if_neg isListed, atLevel]
    · exact close_of_settled (settled.mono (by omega))

/-- At the visit of a position, once the sections are closed that it lies outside of, the listed
sections around it stand on what stood there when the tree was come to, the outermost first. -/
theorem close_stack {place : Position} {tree : Tree} {depth : Int} {level index : Nat}
    {state between : State} {entry : OpenSection} {rest : List OpenSection}
    (isPlace : tree.positions[index]? = some place) (atLevel : rest.length = level)
    (atDepth : close depth state.stack = entry :: rest)
    (passed : visitAll options state ((tree.visits depth).take index) = .ok between) :
    ∃ opened items,
      close (depth + place.length) between.stack = opened ++ entry.addAll items :: rest ∧
      List.Forall₂ (Opens tree depth) opened.reverse (listedAbove options level tree place) := by
  induction place generalizing tree depth level index state entry rest with
  | nil =>
    obtain rfl := eq_zero_of_positions isPlace
    rw [List.take_zero, visitAll] at passed
    cases passed
    have atRoot : depth + (([] : Position).length : Int) = depth := Int.add_zero depth
    refine ⟨[], [], ?_, .nil⟩
    rw [atRoot, atDepth, addAll_nil, List.nil_append]
  | cons number place hypothesis =>
    obtain ⟨before, child, after, inside, split, rfl, isFound, visited⟩ :=
      take_visits depth isPlace
    have isChild : tree.children[before.length]? = some child := by simp [split]
    have deeper : depth + ((before.length :: place).length : Int) = depth + 1 + place.length := by
      rw [List.length_cons]
      omega
    rw [visited, ← List.singleton_append] at passed
    obtain ⟨started, ranRoot, passed⟩ := exists_between passed
    obtain ⟨middle, ranBefore, ranInside⟩ := exists_between passed
    have ranRoot : visit options state depth tree = .ok started := by
      rw [visitAll] at ranRoot
      cases here : visit options state depth tree with
      | error refusal => simp [here] at ranRoot
      | ok next => simpa [here, visitAll] using ranRoot
    obtain ⟨innermost, others, levelInside, opensRoot, isStack⟩ :=
      exists_innermost atLevel atDepth ranRoot
    -- What lies in front of the child is closed again.
    have closedBefore :=
      (adds_visitsAll options (depth + 1) _ before).of_passed levelInside opensRoot ranBefore
    obtain ⟨opened, items, closed, opens⟩ :=
      hypothesis isFound levelInside closedBefore ranInside
    have opensHere : List.Forall₂ (Opens tree depth) opened.reverse
        ((listedAbove options (levelBelow options level tree) child place).map
          (before.length :: ·)) :=
      List.forall₂_map_right_iff.2 (opens.imp fun _ _ => .of_child isChild)
    rw [deeper, closed, listedAbove_cons isChild]
    by_cases isListed : isListed options level tree = true
    · rw [if_pos isListed] at isStack ⊢
      obtain ⟨rfl, rfl⟩ := List.cons.inj isStack
      -- The tree is open itself, below what is open in the child.
      refine ⟨opened ++ [_], [], by rw [addAll_nil, List.append_assoc]; rfl, ?_⟩
      rw [List.reverse_concat]
      exact .cons ⟨(Int.add_zero depth).symm, tree, rfl, rfl⟩ opensHere
    · rw [if_neg isListed] at isStack ⊢
      obtain ⟨rfl, rfl⟩ := List.cons.inj isStack
      exact ⟨opened, _, by rw [addAll_addAll], opensHere⟩

end Contents

end Folio
