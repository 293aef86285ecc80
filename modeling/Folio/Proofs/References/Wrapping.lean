import Folio.Proofs.References.Shape
import Folio.Proofs.Tree.Wrapping

/-!
# Runs pass containers over

A container is no section, so a visit does nothing to it; what it holds is visited one level
deeper, which is reported but changes nothing else. So runs on two trees, of which one has a
container more, go on in step and leave two such trees behind.
-/

namespace Folio.References

open Folio.Tree

variable (options : ReferenceOptions)

/-- What a run does in one slot. -/
def assignSlot (depth : Int) (state : State) : Slot Tree → Slot Tree × State
  | .one tree =>
    let (tree, state) := assignTree options depth state tree
    (.one tree, state)
  | .many trees =>
    let (trees, state) := assignAll options depth state trees
    (.many trees, state)

/-- References are given in slots one by one. -/
theorem assignSlots_cons (depth : Int) (state : State) (slot : Slot Tree)
    (rest : List (Slot Tree)) :
    assignSlots options depth state (slot :: rest) =
      let here := assignSlot options depth state slot
      let later := assignSlots options depth here.2 rest
      (here.1 :: later.1, later.2) := by
  cases slot <;> rw [assignSlots] <;> rfl

/-- A run on joined slots is one run after the other. -/
theorem assignSlots_append (depth : Int) (state : State) (first second : List (Slot Tree)) :
    assignSlots options depth state (first ++ second) =
      let here := assignSlots options depth state first
      let later := assignSlots options depth here.2 second
      (here.1 ++ later.1, later.2) := by
  induction first generalizing state with
  | nil => rfl
  | cons slot rest hypothesis =>
    simp only [List.cons_append, assignSlots_cons, hypothesis]

section InStep

variable {leftState rightState : State} (agree : leftState.Agree rightState)
  (leftDepth rightDepth : Int)

include agree

/-- Runs on the same trees are in step. -/
theorem assignAll_same (trees : List Tree) :
    (assignAll options leftDepth leftState trees).1 =
        (assignAll options rightDepth rightState trees).1 ∧
      (assignAll options leftDepth leftState trees).2.Agree
        (assignAll options rightDepth rightState trees).2 := by
  have each : List.Forall₂ (RunInStep options Eq) trees trees :=
    List.forall₂_same.2 fun tree _ => assignTree_same options tree
  obtain ⟨same, after⟩ := assignAll_inStep leftDepth rightDepth agree each
  rw [List.forall₂_eq_eq_eq] at same
  exact ⟨same, after⟩

/-- Runs on the same slots are in step. -/
theorem assignSlots_same (slots : List (Slot Tree)) :
    (assignSlots options leftDepth leftState slots).1 =
        (assignSlots options rightDepth rightState slots).1 ∧
      (assignSlots options leftDepth leftState slots).2.Agree
        (assignSlots options rightDepth rightState slots).2 := by
  have each : List.Forall₂ (Slot.Related (RunInStep options Eq)) slots slots :=
    List.forall₂_same.2 fun slot _ => .refl fun tree _ => assignTree_same options tree
  obtain ⟨same, after⟩ := assignSlots_inStep leftDepth rightDepth agree each
  exact ⟨eq_of_forall₂_related same, after⟩

/-- Runs on slots that differ once are in step if they are so in the place of the
difference. -/
theorem assignSlot_differ {related : Tree → Tree → Prop} {name : Option String}
    {left right : Slot Tree} (differ : DifferOnce (RunInStep options related) name left right) :
    DifferOnce related name (assignSlot options leftDepth leftState left).1
        (assignSlot options rightDepth rightState right).1 ∧
      (assignSlot options leftDepth leftState left).2.Agree
        (assignSlot options rightDepth rightState right).2 := by
  cases differ with
  | run before run after own =>
    obtain ⟨sameBefore, atRun⟩ := assignAll_same options agree leftDepth rightDepth before
    -- What the container holds is visited one level deeper.
    obtain ⟨sameRun, behind⟩ := assignAll_same options atRun leftDepth (rightDepth + 1) run
    obtain ⟨sameAfter, atEnd⟩ := assignAll_same options behind leftDepth rightDepth after
    simp only [assignSlot, assignAll_append, assignAll, wrapper, assignTree, visitHead,
      assignSlots]
    rw [sameBefore, sameRun, sameAfter]
    exact ⟨.run _ _ _ own, atEnd⟩
  | one inside =>
    obtain ⟨here, behind⟩ := inside leftDepth rightDepth agree
    exact ⟨.one here, behind⟩
  | many before after inside =>
    obtain ⟨sameBefore, atPlace⟩ := assignAll_same options agree leftDepth rightDepth before
    obtain ⟨here, behind⟩ := inside leftDepth rightDepth atPlace
    obtain ⟨sameAfter, atEnd⟩ := assignAll_same options behind leftDepth rightDepth after
    simp only [assignSlot, assignAll_append, assignAll]
    rw [sameBefore, sameAfter]
    exact ⟨.many _ _ here, atEnd⟩

end InStep

/-- Runs on trees of which one has a container more are in step. -/
theorem assignTree_wraps {left right : Tree} (wraps : Wraps left right) :
    RunInStep options Wraps left right := by
  refine wraps.induct (motive := RunInStep options Wraps) ?_
  intro head metadata first last left right untitled _ below leftDepth rightDepth _ _ agree
  have titles (isSection : head.kind = .section) :
      (titleIn (first ++ left :: last)).text = (titleIn (first ++ right :: last)).text :=
    congrArg text (titleIn_append (untitled isSection) _ _)
  obtain ⟨sameHead, atFirst⟩ := visitHead_agree options agree leftDepth rightDepth titles
  obtain ⟨sameFirst, atSlot⟩ :=
    assignSlots_same options atFirst (leftDepth + 1) (rightDepth + 1) first
  obtain ⟨differ, behind⟩ :=
    assignSlot_differ options atSlot (leftDepth + 1) (rightDepth + 1) below
  obtain ⟨sameLast, atEnd⟩ :=
    assignSlots_same options behind (leftDepth + 1) (rightDepth + 1) last
  simp only [assignTree_node, assignSlots_append, assignSlots_cons]
  refine ⟨?_, atEnd⟩
  rw [sameHead, sameFirst, sameLast]
  exact .of_kept metadata _ untitled (kind_visitHead rightDepth _ _ head)
    (assignSlots_becomes options (rightDepth + 1) _ first).length_eq differ

/-- Runs on trees of which one has a container more meet the same fault, if any, and leave such
trees behind. -/
theorem assign_wraps {left right : Tree} (wraps : Wraps left right) :
    Wraps (assign options left).tree (assign options right).tree ∧
      (assign options left).fault = (assign options right).fault := by
  have start : State.Agree { taken := pinned left } { taken := pinned right } :=
    ⟨by rw [pinned, pinned, wraps.references_eq], rfl⟩
  obtain ⟨trees, states⟩ := assignTree_wraps options wraps 0 0 start
  exact ⟨trees, states.fault⟩

end Folio.References
