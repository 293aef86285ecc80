import Folio.Proofs.Tree.Visits

/-!
# Comparison turn by turn

A comparison of two trees advances two walks that know nothing of each other. `Comparison.turn` is
one turn of it: both walks come to their next visit, and what they visit is looked at. That the
walks stay at the same position is not checked anywhere; it is an invariant of the stacks. Nodes
that match have equally many children, so the positions that a turn puts on the two stacks are the
same (`InStep.step`). It follows that neither walk ends before the other, and that the comparison
goes through the positions that the trees have in common, in the order of a visit, up to the first
one at which they differ.
-/

namespace Folio.Tree

/-- A visitor that only looks. -/
def idle : Visitor Unit := fun _ tree state => (tree, state)

namespace Walk

/-- The tree that is visited next, if the walk has not ended. -/
def next? {σ : Type} (walk : Walk σ) : Option Tree :=
  walk.pending.head?.bind fun entry => walk.tree.at? entry.2

/-- The trees at all waiting positions. -/
def trees {σ : Type} (walk : Walk σ) : List Tree :=
  walk.pending.filterMap fun entry => walk.tree.at? entry.2

/-- The positions from one on that lie in what stands there. -/
def positionsFrom (tree : Tree) (place : Position) : List Position :=
  (((tree.at? place).map positions).getD []).map (place ++ ·)

/-- The positions that are still to be visited. -/
def ahead {σ : Type} (walk : Walk σ) : List Position :=
  walk.pending.flatMap fun entry => positionsFrom walk.tree entry.2

section Idle

variable {root tree : Tree} {depth : Int} {place : Position} {rest : List (Int × Position)}

/-- A visit that only looks lets the children wait where the tree stood. -/
theorem step_idle (found : root.at? place = some tree) :
    (Walk.mk root ((depth, place) :: rest) ()).step idle =
      ⟨root, waiting (depth + 1) place 0 tree.children.length ++ rest, ()⟩ := by
  rw [step_of_found idle found, idle, replaceAt_self found]

/-- The next node is the one at the first place that is waiting. -/
theorem next?_cons (found : root.at? place = some tree) :
    (Walk.mk root ((depth, place) :: rest) ()).next? = some tree := found

/-- The trees that wait are those at the places that do. -/
theorem trees_cons (found : root.at? place = some tree) :
    (Walk.mk root ((depth, place) :: rest) ()).trees = tree :: (Walk.mk root rest ()).trees := by
  rw [trees, List.filterMap_cons, found]
  rfl

/-- The children take the place of a visited tree. -/
theorem trees_step (found : root.at? place = some tree) :
    ((Walk.mk root ((depth, place) :: rest) ()).step idle).trees =
      tree.children ++ (Walk.mk root rest ()).trees := by
  have below := trees_waiting found (depth + 1) (List.nil_append tree.children).symm
  rw [step_idle found, trees, List.filterMap_append, trees]
  exact congrArg (· ++ _) below

/-- Positions of several children of a tree, from a number on, in the order of a visit. -/
theorem ahead_waiting (found : root.at? place = some tree) {done todo : List Tree}
    (split : tree.children = done ++ todo) :
    (waiting depth place done.length todo.length).flatMap
        (fun entry => positionsFrom root entry.2) =
      (todo.zipIdx done.length).flatMap fun entry =>
        (entry.1.positions.map (entry.2 :: ·)).map (place ++ ·) := by
  induction todo generalizing done with
  | nil => rfl
  | cons child todo hypothesis =>
    have stands : root.at? (place ++ [done.length]) = some child := by
      rw [at?_append, found]
      exact at?_child split
    have later := @hypothesis (done ++ [child]) (by simp [split])
    rw [List.length_append, List.length_singleton] at later
    rw [List.length_cons, waiting_succ, List.flatMap_cons, later, List.zipIdx_cons,
      List.flatMap_cons, positionsFrom, stands]
    simp [Function.comp_def]

/-- A visit takes its position off those that are ahead. -/
theorem ahead_step (found : root.at? place = some tree) :
    (Walk.mk root ((depth, place) :: rest) ()).ahead =
      place :: ((Walk.mk root ((depth, place) :: rest) ()).step idle).ahead := by
  have below := @ahead_waiting _ _ (depth + 1) _ found [] tree.children (List.nil_append _).symm
  rw [List.length_nil] at below
  rw [step_idle found, ahead, ahead, List.flatMap_append, below, List.flatMap_cons, positionsFrom,
    found, Option.map_some, Option.getD_some, positions_eq, List.map_cons, List.map_flatMap,
    List.append_nil, List.cons_append]

end Idle

end Walk

/-- A comparison under way: the walks through the two trees. -/
structure Comparison where
  left : Walk Unit
  right : Walk Unit

/-- What a turn of a comparison comes to. -/
inductive Turn where
  /-- A pair matches, and both walks go on. -/
  | goes (next : Comparison)
  /-- Both walks have ended. -/
  | ended
  /-- One walk has ended, and the other has not. -/
  | alone
  /-- A pair differs. -/
  | differs
  | fails (fault : Fault)

namespace Comparison

open Walk

/-- Before the first turn. -/
def start (left right : Tree) : Comparison := ⟨.start 0 left (), .start 0 right ()⟩

/-- One turn: both walks come to their next visit, and the two trees there are looked at. -/
def turn (comparison : Comparison) : Turn :=
  match comparison.left.next?, comparison.right.next? with
  | none, none => .ended
  | some left, some right =>
    match sameNode left right with
    | .ok true => .goes ⟨comparison.left.step idle, comparison.right.step idle⟩
    | .ok false => .differs
    | .error fault => .fails fault
  | _, _ => .alone

/-- A comparison that is reached after some turns, at all of which a pair has matched. -/
inductive Reached (left right : Tree) : (turns : Nat) → Comparison → Prop where
  | start : Reached left right 0 (start left right)
  | turn {turns comparison next} (before : Reached left right turns comparison)
      (goes : comparison.turn = .goes next) : Reached left right (turns + 1) next

/-- Both trees have a node at the position, and the two match. -/
def MatchAt (left right : Tree) (place : Position) : Prop :=
  ∃ first second, left.at? place = some first ∧ right.at? place = some second ∧
    sameNode first second = .ok true

/-- Two walks with the same positions on their stacks. -/
def facing (left right : Tree) (pending : List (Int × Position)) : Comparison :=
  ⟨⟨left, pending, ()⟩, ⟨right, pending, ()⟩⟩

/-- The invariant of a comparison, told of the positions on both stacks: each holds a node in both
trees, those visited before match, and what is left to do is what the comparison of the waiting
trees does. -/
structure InStep (left right : Tree) (visited : List Position) (pending : List (Int × Position)) :
    Prop where
  leftSound : (Walk.mk left pending ()).Sound
  rightSound : (Walk.mk right pending ()).Sound
  leftPositions : left.positions = visited ++ (Walk.mk left pending ()).ahead
  rightPositions : right.positions = visited ++ (Walk.mk right pending ()).ahead
  matched : ∀ place ∈ visited, MatchAt left right place
  rest : left.equal right =
    sameWalks (Walk.mk left pending ()).trees (Walk.mk right pending ()).trees

variable {left right : Tree} {visited : List Position} {pending : List (Int × Position)}
  {comparison next : Comparison}

/-- Two walks are in step at the beginning. -/
theorem InStep.start (left right : Tree) : InStep left right [] [(0, [])] where
  leftSound := .start 0 left ()
  rightSound := .start 0 right ()
  leftPositions := by simp [ahead, positionsFrom]
  rightPositions := by simp [ahead, positionsFrom]
  matched := by simp
  rest := rfl

/-- What a turn comes to while the same positions wait on both stacks. If a pair matches, its nodes
have equally many children, so the same positions come upon both. -/
inductive Looks (left right : Tree) : List (Int × Position) → Turn → Prop where
  | ended : Looks left right [] .ended
  | goes {depth place rest first second} (leftFound : left.at? place = some first)
      (rightFound : right.at? place = some second) (passed : sameNode first second = .ok true)
      (sameLength : first.children.length = second.children.length) :
      Looks left right ((depth, place) :: rest)
        (.goes (facing left right
          (waiting (depth + 1) place 0 first.children.length ++ rest)))
  | differs {depth place rest first second} (leftFound : left.at? place = some first)
      (rightFound : right.at? place = some second) (failed : sameNode first second = .ok false) :
      Looks left right ((depth, place) :: rest) .differs

/-- Walks in step end together, or look at two nodes at one position. -/
theorem InStep.looks (leftShaped : left.Shaped) (rightShaped : right.Shaped)
    (inStep : InStep left right visited pending) :
    Looks left right pending (facing left right pending).turn := by
  cases pending with
  | nil => exact .ended
  | cons entry rest =>
    obtain ⟨depth, place⟩ := entry
    obtain ⟨first, leftFound⟩ : ∃ first, left.at? place = some first :=
      inStep.leftSound.found _ List.mem_cons_self
    obtain ⟨second, rightFound⟩ : ∃ second, right.at? place = some second :=
      inStep.rightSound.found _ List.mem_cons_self
    obtain ⟨passes, looked, -, sameLength⟩ := sameNode_spec
      (leftShaped first (mem_preorder_of_at? leftFound))
      (rightShaped second (mem_preorder_of_at? rightFound))
    rw [turn, facing, next?_cons leftFound, next?_cons rightFound]
    simp only [looked]
    cases passes with
    | false => exact .differs leftFound rightFound looked
    | true =>
      have goes : Looks left right ((depth, place) :: rest) _ :=
        .goes leftFound rightFound looked (sameLength rfl)
      rwa [step_idle leftFound, step_idle rightFound, ← sameLength rfl]

/-- The comparison of the waiting trees looks at the nodes that the turn looks at. -/
theorem InStep.rest_cons (leftShaped : left.Shaped) (rightShaped : right.Shaped) {depth : Int}
    {place : Position} {rest : List (Int × Position)} {first second : Tree} {passes : Bool}
    (inStep : InStep left right visited ((depth, place) :: rest))
    (leftFound : left.at? place = some first) (rightFound : right.at? place = some second)
    (looked : sameNode first second = .ok passes) :
    left.equal right = if passes then
      sameWalks (first.children ++ (Walk.mk left rest ()).trees)
        (second.children ++ (Walk.mk right rest ()).trees)
      else .ok false := by
  rw [inStep.rest, trees_cons leftFound, trees_cons rightFound,
    sameWalks_cons (leftShaped first (mem_preorder_of_at? leftFound))
      (rightShaped second (mem_preorder_of_at? rightFound)), looked]
  rfl

/-- A pair that matches keeps the walks in step. -/
theorem InStep.step (leftShaped : left.Shaped) (rightShaped : right.Shaped)
    (inStep : InStep left right visited pending)
    (goes : (facing left right pending).turn = .goes next) :
    ∃ place later, next = facing left right later ∧
      InStep left right (visited ++ [place]) later := by
  have looks := inStep.looks leftShaped rightShaped
  rw [goes] at looks
  cases looks with
  | @goes depth place rest first second leftFound rightFound passed sameLength =>
    have leftStep := @step_idle left first depth place rest leftFound
    have rightStep := @step_idle right second depth place rest rightFound
    rw [← sameLength] at rightStep
    refine ⟨place, _, rfl, ?leftSound, ?rightSound, ?leftPositions, ?rightPositions, ?matched,
      ?rest⟩
    case leftSound => exact leftStep ▸ inStep.leftSound.step idle
    case rightSound => exact rightStep ▸ inStep.rightSound.step idle
    case leftPositions =>
      rw [inStep.leftPositions, ahead_step leftFound, leftStep, List.append_assoc,
        List.singleton_append]
    case rightPositions =>
      rw [inStep.rightPositions, ahead_step rightFound, rightStep, List.append_assoc,
        List.singleton_append]
    case matched =>
      refine List.forall_mem_append.2 ⟨inStep.matched, List.forall_mem_singleton.2 ?_⟩
      exact ⟨first, second, leftFound, rightFound, passed⟩
    case rest =>
      rw [← leftStep, ← rightStep, trees_step leftFound, trees_step rightFound]
      exact inStep.rest_cons leftShaped rightShaped leftFound rightFound passed

/-- At every comparison that is reached the walks are in step. -/
theorem Reached.inStep (leftShaped : left.Shaped) (rightShaped : right.Shaped) {turns : Nat}
    (reached : Reached left right turns comparison) :
    ∃ visited pending, visited.length = turns ∧ comparison = facing left right pending ∧
      InStep left right visited pending := by
  induction reached with
  | start => exact ⟨[], _, rfl, rfl, .start left right⟩
  | turn _ goes hypothesis =>
    obtain ⟨visited, pending, sameLength, rfl, inStep⟩ := hypothesis
    obtain ⟨place, later, isNext, inStepNext⟩ := inStep.step leftShaped rightShaped goes
    exact ⟨visited ++ [place], later, by rw [List.length_append, sameLength]; rfl, isNext,
      inStepNext⟩

/-- The waiting position is the first one that is still to be visited. -/
theorem head?_ahead {root : Tree} (sound : (Walk.mk root pending ()).Sound) :
    (Walk.mk root pending ()).ahead.head? = pending.head?.map (·.2) := by
  cases pending with
  | nil => rfl
  | cons entry rest =>
    obtain ⟨found, stands⟩ := sound.found _ List.mem_cons_self
    exact congrArg List.head? (ahead_step stands)

/-- The position is the first one, in the order of a visit, at which two trees differ: the
positions visited before it are the same in both, and match. -/
structure FirstDifference (left right : Tree) (visited : List Position) (place : Position) :
    Prop where
  leftPositions : ∃ rest, left.positions = visited ++ place :: rest
  rightPositions : ∃ rest, right.positions = visited ++ place :: rest
  matched : ∀ earlier ∈ visited, MatchAt left right earlier
  differs : ¬MatchAt left right place

/-- A comparison comes to an end: no more turns match than the tree has positions. -/
theorem Reached.exists_last (leftShaped : left.Shaped) (rightShaped : right.Shaped) {turns : Nat}
    (reached : Reached left right turns comparison) :
    ∃ more last, Reached left right more last ∧ ∀ next, last.turn ≠ .goes next := by
  induction bound : left.positions.length - turns using Nat.strongRecOn
    generalizing turns comparison with
  | ind bound hypothesis =>
    by_cases goesOn : ∃ next, comparison.turn = .goes next
    · obtain ⟨next, goes⟩ := goesOn
      have further := reached.turn goes
      obtain ⟨visited, _, sameLength, _, inStep⟩ := further.inStep leftShaped rightShaped
      have within : turns + 1 ≤ left.positions.length := by
        rw [inStep.leftPositions, List.length_append]
        omega
      exact hypothesis _ (by omega) further rfl
    · exact ⟨turns, comparison, reached, fun next goes => goesOn ⟨next, goes⟩⟩

/-- Where a comparison does not go on, the trees have been found equal or their first difference
has. -/
theorem InStep.last (leftShaped : left.Shaped) (rightShaped : right.Shaped)
    (inStep : InStep left right visited pending)
    (last : ∀ next, (facing left right pending).turn ≠ .goes next) :
    ((facing left right pending).turn = .ended ∧ left.equal right = .ok true ∧
      left.positions = visited ∧ right.positions = visited) ∨
    ((facing left right pending).turn = .differs ∧ left.equal right = .ok false ∧
      ∃ place, FirstDifference left right visited place) := by
  have looks := inStep.looks leftShaped rightShaped
  generalize outcome : (facing left right pending).turn = turn at looks
  cases looks with
  | goes => exact absurd outcome (last _)
  | ended =>
    refine .inl ⟨rfl, ?_, ?_, ?_⟩
    · rw [inStep.rest, trees, trees, List.filterMap_nil, List.filterMap_nil, sameWalks]
    · rw [inStep.leftPositions, ahead, List.flatMap_nil, List.append_nil]
    · rw [inStep.rightPositions, ahead, List.flatMap_nil, List.append_nil]
  | @differs depth place rest first second leftFound rightFound failed =>
    have apart : ¬MatchAt left right place := by
      rintro ⟨_, _, isFirst, isSecond, passed⟩
      obtain rfl := Option.some.inj (leftFound.symm.trans isFirst)
      obtain rfl := Option.some.inj (rightFound.symm.trans isSecond)
      rw [failed] at passed
      cases passed
    refine .inr ⟨rfl, ?_, place, ⟨_, ahead_step leftFound ▸ inStep.leftPositions⟩,
      ⟨_, ahead_step rightFound ▸ inStep.rightPositions⟩, inStep.matched, apart⟩
    exact inStep.rest_cons leftShaped rightShaped leftFound rightFound failed

end Comparison

open Comparison

/-- Two typed trees are compared in step. Whatever comparison is reached with all pairs before it
matching, the same positions wait on both stacks at the same depths, the next one being that with
the number of the turn in either tree, and neither walk has ended alone. The comparison comes to an
end: after all positions if the trees are equal, and otherwise at the first position at which they
differ. -/
theorem equal_lockstep {left right : Tree} (leftTyped : left.Typed) (rightTyped : right.Typed) :
    (∀ turns comparison, Reached left right turns comparison →
      comparison.left.pending = comparison.right.pending ∧
      comparison.left.pending.head?.map (·.2) = left.positions[turns]? ∧
      comparison.right.pending.head?.map (·.2) = right.positions[turns]? ∧
      comparison.turn ≠ .alone) ∧
    ∃ turns last visited, Reached left right turns last ∧ visited.length = turns ∧
      ((last.turn = .ended ∧ left.equal right = .ok true ∧
          left.positions = visited ∧ right.positions = visited) ∨
        last.turn = .differs ∧ left.equal right = .ok false ∧
          ∃ place, FirstDifference left right visited place) := by
  have leftShaped := leftTyped.shaped
  have rightShaped := rightTyped.shaped
  constructor
  · intro turns comparison reached
    obtain ⟨visited, pending, sameLength, rfl, inStep⟩ := reached.inStep leftShaped rightShaped
    have number (positions ahead : List Position) (split : positions = visited ++ ahead) :
        ahead.head? = positions[turns]? := by
      rw [split, List.getElem?_append_right (by omega), List.head?_eq_getElem?, sameLength,
        Nat.sub_self]
    refine ⟨rfl, ?_, ?_, fun alone => ?_⟩
    · exact (head?_ahead inStep.leftSound).symm.trans (number _ _ inStep.leftPositions)
    · exact (head?_ahead inStep.rightSound).symm.trans (number _ _ inStep.rightPositions)
    · have looks := inStep.looks leftShaped rightShaped
      rw [alone] at looks
      cases looks
  · obtain ⟨turns, last, reached, stops⟩ :=
      (Reached.start : Reached left right 0 _).exists_last leftShaped rightShaped
    obtain ⟨visited, pending, sameLength, rfl, inStep⟩ := reached.inStep leftShaped rightShaped
    exact ⟨turns, _, visited, reached, sameLength, inStep.last leftShaped rightShaped stops⟩

/-- Two items of a list, the first of which holds something. -/
def pairOfItems (content : Tree) : Tree := orderedList [listItem [content], listItem []]

/-- A text and the same text in bold differ in the number of their children, so the stacks would
fall out of step behind them. The comparison stops there, with the second item waiting on both. -/
theorem equal_lockstep_bold :
    let left := pairOfItems (ofText "a")
    let right := pairOfItems (ofList .bold [ofText "a"])
    left.Typed ∧ right.Typed ∧
    ∃ comparison, Reached left right 2 comparison ∧ comparison.turn = .differs ∧
      comparison.left.pending = [(2, [0, 0]), (1, [1])] ∧
      comparison.left.pending = comparison.right.pending := by
  intro left right
  have leftTyped : left.Typed := by decide
  have rightTyped : right.Typed := by decide
  have reached : Reached left right 2 _ := .turn (.turn .start rfl) rfl
  exact ⟨leftTyped, rightTyped, _, reached, rfl, rfl,
    ((equal_lockstep leftTyped rightTyped).1 2 _ reached).1⟩

end Folio.Tree
