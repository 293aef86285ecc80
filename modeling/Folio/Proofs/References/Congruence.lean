import Folio.Proofs.References.Assignment
import Folio.Proofs.Tree.Congruence

/-!
# Two runs in step

A run reads of a state only which references are in use and whether a fault has ended it; the
depth of a visit is reported and nothing else. So two runs whose states agree in this go on
alike: on one tree they leave the same tree behind, and on trees that are alike, trees that are
alike. `RunInStep` says so for any relation of trees, and the two laws differ only in how a node
passes it on.
-/

namespace Folio.References

open Folio.Tree

variable (options : ReferenceOptions)

/-- Two states know the same references in use and the same fault. What was counted and
reported may differ. -/
structure State.Agree (left right : State) : Prop where
  taken : left.taken = right.taken
  fault : left.fault = right.fault

/-- From states that agree, a section gets the same reference, at whatever depth. -/
theorem visitSection_agree {left right : State} (agree : left.Agree right)
    (leftDepth rightDepth : Int) (title : String) (reference : Scalar) :
    (visitSection options leftDepth title reference left).1 =
        (visitSection options rightDepth title reference right).1 ∧
      (visitSection options leftDepth title reference left).2.Agree
        (visitSection options rightDepth title reference right).2 := by
  rw [visitSection, visitSection, agree.fault, agree.taken]
  split
  · exact ⟨rfl, agree⟩
  · cases slugOf options title with
    | error fault => exact ⟨rfl, rfl, rfl⟩
    | ok slug =>
      simp only
      split <;> exact ⟨rfl, rfl, rfl⟩

/-- From states that agree, one head becomes the same head, if it is none of a section or its
title has the same text. -/
theorem visitHead_agree {left right : State} (agree : left.Agree right)
    (leftDepth rightDepth : Int) {leftSlots rightSlots : List (Slot Tree)} {head : Head}
    (titles : head.kind = .section → (titleIn leftSlots).text = (titleIn rightSlots).text) :
    (visitHead options leftDepth leftSlots left head).1 =
        (visitHead options rightDepth rightSlots right head).1 ∧
      (visitHead options leftDepth leftSlots left head).2.Agree
        (visitHead options rightDepth rightSlots right head).2 := by
  cases head with
  | «section» reference =>
    obtain ⟨sameReference, after⟩ :=
      visitSection_agree options agree leftDepth rightDepth
        (titleIn rightSlots).text reference
    rw [visitHead, visitHead, titles rfl]
    exact ⟨congrArg Head.section sameReference, after⟩
  | _ => exact ⟨rfl, agree⟩

/-- A run visits a node and then goes through its slots. -/
theorem assignTree_node (depth : Int) (state : State) (head : Head) (metadata : Json.Members)
    (slots : List (Slot Tree)) :
    let visited := visitHead options depth slots state head
    let below := assignSlots options (depth + 1) visited.2 slots
    assignTree options depth state (.node head metadata slots) =
      (.node visited.1 metadata below.1, below.2) := rfl

/-- From states that agree, and at whatever depths, runs on the two trees leave related trees
and states that agree behind. -/
def RunInStep (related : Tree → Tree → Prop)
    (left right : Tree) : Prop :=
  ∀ (leftDepth rightDepth : Int) {leftState rightState : State}, leftState.Agree rightState →
    related (assignTree options leftDepth leftState left).1
        (assignTree options rightDepth rightState right).1 ∧
      (assignTree options leftDepth leftState left).2.Agree
        (assignTree options rightDepth rightState right).2

section RunInStep

variable {options} {related : Tree → Tree → Prop} (leftDepth rightDepth : Int)
  {leftState rightState : State} (agree : leftState.Agree rightState)

include agree

/-- Runs on several trees are in step if they are so on each. -/
theorem assignAll_inStep {left right : List Tree}
    (each : List.Forall₂ (RunInStep options related) left right) :
    List.Forall₂ related (assignAll options leftDepth leftState left).1
        (assignAll options rightDepth rightState right).1 ∧
      (assignAll options leftDepth leftState left).2.Agree
        (assignAll options rightDepth rightState right).2 := by
  induction each generalizing leftState rightState with
  | nil => exact ⟨.nil, agree⟩
  | cons first _ hypothesis =>
    obtain ⟨here, between⟩ := first leftDepth rightDepth agree
    obtain ⟨later, after⟩ := hypothesis between
    exact ⟨.cons here later, after⟩

/-- Runs on slots are in step if they are so on everything in them. -/
theorem assignSlots_inStep {left right : List (Slot Tree)}
    (each : List.Forall₂ (Slot.Related (RunInStep options related)) left right) :
    List.Forall₂ (Slot.Related related) (assignSlots options leftDepth leftState left).1
        (assignSlots options rightDepth rightState right).1 ∧
      (assignSlots options leftDepth leftState left).2.Agree
        (assignSlots options rightDepth rightState right).2 := by
  induction each generalizing leftState rightState with
  | nil => exact ⟨.nil, agree⟩
  | cons first _ hypothesis =>
    cases first with
    | one content =>
      obtain ⟨here, between⟩ := content leftDepth rightDepth agree
      obtain ⟨later, after⟩ := hypothesis between
      exact ⟨.cons (.one here) later, after⟩
    | many contents =>
      obtain ⟨here, between⟩ := assignAll_inStep leftDepth rightDepth agree contents
      obtain ⟨later, after⟩ := hypothesis between
      exact ⟨.cons (.many here) later, after⟩

end RunInStep

/-- Heads that agree do so after visits from states that agree. -/
theorem visitHead_alike {left right : State} (agree : left.Agree right)
    (leftDepth rightDepth : Int) {leftSlots rightSlots : List (Slot Tree)}
    (titles : (titleIn leftSlots).text = (titleIn rightSlots).text) {leftHead rightHead : Head}
    (heads : leftHead.Agree rightHead) :
    (visitHead options leftDepth leftSlots left leftHead).1.Agree
        (visitHead options rightDepth rightSlots right rightHead).1 ∧
      (visitHead options leftDepth leftSlots left leftHead).2.Agree
        (visitHead options rightDepth rightSlots right rightHead).2 := by
  cases heads with
  | same =>
    obtain ⟨sameHead, after⟩ :=
      visitHead_agree options agree leftDepth rightDepth fun _ : leftHead.kind = _ => titles
    exact ⟨sameHead ▸ .same _, after⟩
  | documents details => exact ⟨.documents details, agree⟩

/-- Runs on trees alike are in step. -/
theorem assignTree_alike {left right : Tree} (alike : Alike left right) :
    RunInStep options Alike left right := by
  refine alike.induct (motive := RunInStep options Alike)
    fun heads slots below leftDepth rightDepth _ _ agree => ?_
  obtain ⟨sameHeads, between⟩ :=
    visitHead_alike options agree leftDepth rightDepth (titleIn_alike slots).text_eq heads
  obtain ⟨sameSlots, after⟩ :=
    assignSlots_inStep (leftDepth + 1) (rightDepth + 1) between below
  rw [assignTree_node, assignTree_node]
  exact ⟨.node sameHeads sameSlots, after⟩

/-- Runs on trees alike meet the same fault, if any, and leave trees behind that are alike. -/
theorem assign_alike {left right : Tree} (alike : Alike left right) :
    Alike (assign options left).tree (assign options right).tree ∧
      (assign options left).fault = (assign options right).fault := by
  have samePinned : pinned left = pinned right := by rw [pinned, pinned, alike.references_eq]
  have start : State.Agree { taken := pinned left } { taken := pinned right } :=
    ⟨samePinned, rfl⟩
  obtain ⟨trees, states⟩ := assignTree_alike options alike 0 0 start
  exact ⟨trees, states.fault⟩

/-- Slots are equal if everything in them is. -/
theorem eq_of_forall₂_related {left right : List (Slot Tree)}
    (same : List.Forall₂ (Slot.Related Eq) left right) : left = right := by
  induction same with
  | nil => rfl
  | cons here _ hypothesis =>
    cases here with
    | one content => rw [content, hypothesis]
    | many contents =>
      rw [List.forall₂_eq_eq_eq] at contents
      rw [contents, hypothesis]

/-- Runs on one tree are in step. -/
theorem assignTree_same (tree : Tree) : RunInStep options Eq tree tree := by
  induction tree using Tree.induction with
  | stray value => exact fun _ _ _ _ agree => ⟨rfl, agree⟩
  | node head metadata slots below =>
    intro leftDepth rightDepth leftState rightState agree
    have each : List.Forall₂ (Slot.Related (RunInStep options Eq)) slots slots :=
      List.forall₂_same.2 fun slot inSlots => .refl (below slot inSlots)
    obtain ⟨sameHead, between⟩ :=
      visitHead_agree options agree leftDepth rightDepth fun _ : head.kind = _ => rfl
    obtain ⟨sameSlots, after⟩ :=
      assignSlots_inStep (leftDepth + 1) (rightDepth + 1) between each
    rw [assignTree_node, assignTree_node]
    refine ⟨?_, after⟩
    rw [sameHead, eq_of_forall₂_related sameSlots]

end Folio.References
