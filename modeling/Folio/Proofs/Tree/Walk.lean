import Folio.Proofs.Tree.Position
import Folio.Tree.Traversal
import Folio.Tree.Visitor
import Mathlib.Data.List.Infix

/-!
# Walks step by step

A walk under way is sound: at every position that waits on its stack stands a tree, and no
waiting position lies above another. A visit changes the tree at its own position only, so it
leaves the trees at all other waiting positions as they are, and a sound walk stays sound
whatever its visitor does (`Sound.run`). Hence each step is one visit, a recorded walk has as
many entries as it has made steps, and the entries of a stopped walk are the first ones of any
longer run. A walk whose tree does not change any more ends, since each visit then replaces a
tree that waits by the smaller ones below it.
-/

namespace Folio.Tree.Walk

variable {σ : Type} {visitor : Visitor σ}

/-- The positions of `count` children from number `first` on, as they wait on a stack. -/
def waiting (depth : Int) (position : Position) (first count : Nat) : List (Int × Position) :=
  (List.range' first count).map fun index => (depth, position ++ [index])

/-- Children wait from the first one on. -/
theorem waiting_succ (depth : Int) (position : Position) (first count : Nat) :
    waiting depth position first (count + 1) =
      (depth, position ++ [first]) :: waiting depth position (first + 1) count := rfl

/-- A walk that has ended stays as it is. -/
theorem step_of_ended (visitor : Visitor σ) {walk : Walk σ} (ended : walk.pending = []) :
    walk.step visitor = walk := by
  rw [step, ended]

/-- A step visits the tree at the top position, puts what the visitor makes of it into its
place, and lets its children wait where it stood. -/
theorem step_of_found (visitor : Visitor σ) {root tree : Tree} {depth : Int}
    {position : Position} {rest : List (Int × Position)} {state : σ}
    (found : root.at? position = some tree) :
    (Walk.mk root ((depth, position) :: rest) state).step visitor =
      { tree := replaceAt position (visitor depth tree state).1 root
        pending :=
          waiting (depth + 1) position 0 (visitor depth tree state).1.children.length ++ rest
        state := (visitor depth tree state).2 } := by
  simp only [step, found, waiting, List.range_eq_range']

theorem run_zero (visitor : Visitor σ) (walk : Walk σ) : run visitor 0 walk = walk := rfl

/-- So it does however many visits follow. -/
theorem run_of_ended (visitor : Visitor σ) (visits : Nat) {walk : Walk σ}
    (ended : walk.pending = []) : run visitor visits walk = walk := by
  cases visits with
  | zero => rfl
  | succ visits => rw [run, ended]

/-- A run is a step and the rest of the run. -/
theorem run_succ (visitor : Visitor σ) (visits : Nat) (walk : Walk σ) :
    run visitor (visits + 1) walk = run visitor visits (walk.step visitor) := by
  cases waits : walk.pending with
  | nil => rw [run_of_ended visitor _ waits, step_of_ended visitor waits,
      run_of_ended visitor _ waits]
  | cons entry rest => rw [run, waits]

/-- A run can be cut anywhere and taken up again. -/
theorem run_add (visitor : Visitor σ) (first second : Nat) (walk : Walk σ) :
    run visitor (first + second) walk = run visitor second (run visitor first walk) := by
  induction first generalizing walk with
  | zero => rw [Nat.zero_add, run_zero]
  | succ first hypothesis => rw [Nat.add_right_comm, run_succ, run_succ, hypothesis]

/-- Two runs that have ended agree, however long they were. -/
theorem run_eq_of_ended {first second : Nat} {walk : Walk σ}
    (firstEnded : (run visitor first walk).pending = [])
    (secondEnded : (run visitor second walk).pending = []) :
    run visitor first walk = run visitor second walk := by
  have longer := run_add visitor first second walk
  rw [run_of_ended visitor second firstEnded, Nat.add_comm, run_add,
    run_of_ended visitor first secondEnded] at longer
  exact longer.symm

/-- Every waiting position has its tree, and none lies above another. -/
structure Sound (walk : Walk σ) : Prop where
  found : ∀ entry ∈ walk.pending, ∃ tree, walk.tree.at? entry.2 = some tree
  apart : walk.pending.Pairwise fun first second => Apart first.2 second.2

/-- A walk is sound at the beginning. -/
theorem Sound.start (depth : Int) (tree : Tree) (state : σ) : (start depth tree state).Sound where
  found := by simp [Walk.start]
  apart := List.pairwise_singleton _ _

/-- A child of a position is apart from what the position is apart from. -/
theorem apart_child {position other : Position} (apart : Apart position other) (index : Nat) :
    Apart (position ++ [index]) other := by
  constructor
  · intro above
    exact apart.1 ((List.prefix_append position [index]).trans above)
  · intro above
    rcases List.prefix_concat_iff.1 above with rfl | higher
    · exact apart.1 (List.prefix_append position [index])
    · exact apart.2 higher

/-- Siblings are apart. -/
theorem apart_siblings (position : Position) {first second : Nat} (different : first ≠ second) :
    Apart (position ++ [first]) (position ++ [second]) := by
  constructor
  · intro above
    have same := (List.prefix_append_right_inj position).1 above
    simp [different] at same
  · intro above
    have same := (List.prefix_append_right_inj position).1 above
    simp [different.symm] at same

/-- A step keeps a walk sound. -/
theorem Sound.step {walk : Walk σ} (sound : walk.Sound) (visitor : Visitor σ) :
    (walk.step visitor).Sound := by
  obtain ⟨root, pending, state⟩ := walk
  cases pending with
  | nil =>
    rw [step_of_ended visitor rfl]
    exact sound
  | cons entry rest =>
    obtain ⟨depth, position⟩ := entry
    obtain ⟨tree, there⟩ : ∃ tree, root.at? position = some tree :=
      sound.found _ List.mem_cons_self
    obtain ⟨apartHere, apartRest⟩ := List.pairwise_cons.1 sound.apart
    rw [step_of_found visitor there]
    constructor
    · intro entry member
      rcases List.mem_append.1 member with below | later
      · obtain ⟨index, inRange, rfl⟩ := List.mem_map.1 below
        have bounded : index < (visitor depth tree state).1.children.length := by
          simpa using List.mem_range'_1.1 inRange
        refine ⟨(visitor depth tree state).1.children[index], ?_⟩
        rw [at?_replaceAt there, at?, List.getElem?_eq_getElem bounded]
        rfl
      · obtain ⟨found, stands⟩ := sound.found _ (List.mem_cons_of_mem _ later)
        exact ⟨found, (at?_replaceAt_of_apart (apartHere _ later) _ _).trans stands⟩
    · refine List.pairwise_append.2 ⟨?_, apartRest, ?_⟩
      · refine List.pairwise_map.2 (List.Pairwise.imp ?_ List.nodup_range')
        exact apart_siblings position
      · intro entry below other later
        obtain ⟨index, _, rfl⟩ := List.mem_map.1 below
        exact apart_child (apartHere _ later) index

/-- A run keeps a walk sound. -/
theorem Sound.run {walk : Walk σ} (sound : walk.Sound) (visitor : Visitor σ) (visits : Nat) :
    (Walk.run visitor visits walk).Sound := by
  induction visits generalizing walk with
  | zero => exact sound
  | succ visits hypothesis =>
    rw [run_succ]
    exact hypothesis (sound.step visitor)

/-- The parts of all trees that wait. -/
def weight (walk : Walk σ) : Nat :=
  sizeAll (walk.pending.filterMap fun entry => walk.tree.at? entry.2)

/-- Where the last children of a tree wait, these children stand, wherever the tree does. -/
theorem trees_waiting {root tree : Tree} {position : Position}
    (there : root.at? position = some tree) (depth : Int) {done todo : List Tree}
    (split : tree.children = done ++ todo) :
    (waiting depth position done.length todo.length).filterMap (fun entry => root.at? entry.2) =
      todo := by
  induction todo generalizing done with
  | nil => rfl
  | cons child todo hypothesis =>
    have splitNext : tree.children = (done ++ [child]) ++ todo := by
      rw [split, List.append_assoc, List.singleton_append]
    have later := hypothesis splitNext
    have stands : root.at? (position ++ [done.length]) = some child := by
      rw [at?_append, there]
      exact at?_child split
    rw [List.length_append, List.length_singleton] at later
    rw [List.length_cons, waiting_succ, List.filterMap_cons, stands, later]

/-- A visit without a change takes weight off. -/
theorem weight_step_lt {walk : Walk σ} (sound : walk.Sound) (waits : walk.pending ≠ [])
    (unchanged : (walk.step visitor).tree = walk.tree) :
    (walk.step visitor).weight < walk.weight := by
  obtain ⟨root, pending, state⟩ := walk
  cases pending with
  | nil => exact absurd rfl waits
  | cons entry rest =>
    obtain ⟨depth, position⟩ := entry
    obtain ⟨tree, there⟩ : ∃ tree, root.at? position = some tree :=
      sound.found _ List.mem_cons_self
    rw [step_of_found visitor there] at unchanged ⊢
    have unchanged : replaceAt position (visitor depth tree state).1 root = root := unchanged
    have same : (visitor depth tree state).1 = tree := by
      have stands := at?_replaceAt there (visitor depth tree state).1 []
      rw [unchanged, List.append_nil, there, at?_nil] at stands
      exact (Option.some.inj stands).symm
    have below : (waiting (depth + 1) position 0 tree.children.length).filterMap
        (fun entry => root.at? entry.2) = tree.children :=
      trees_waiting there (depth + 1) (List.nil_append _).symm
    simp only [weight, same, replaceAt_self there, List.filterMap_append, below, sizeAll_append,
      List.filterMap_cons, there, sizeAll]
    have parts := size_eq tree
    omega

/-- A sound walk whose tree does not change any more ends. -/
theorem exists_ended_of_still (visitor : Visitor σ) {walk : Walk σ} (sound : walk.Sound)
    (still : ∀ visits, (run visitor visits walk).tree = walk.tree) :
    ∃ visits, (run visitor visits walk).pending = [] := by
  induction heavy : walk.weight using Nat.strongRecOn generalizing walk with
  | ind bound hypothesis =>
    by_cases waits : walk.pending = []
    · exact ⟨0, waits⟩
    · have unchanged : (walk.step visitor).tree = walk.tree := by
        have first := still 1
        rwa [run_succ, run_zero] at first
      have lighter : (walk.step visitor).weight < bound :=
        heavy ▸ weight_step_lt sound waits unchanged
      obtain ⟨visits, ended⟩ := hypothesis _ lighter (sound.step visitor)
        (fun visits => by rw [← run_succ, still, unchanged]) rfl
      exact ⟨visits + 1, by rw [run_succ, ended]⟩

/-- The visitor changes the tree of a walk a finite number of times only: from some visit on
the tree stays as it is. -/
def FinitelyManyEdits (visitor : Visitor σ) (walk : Walk σ) : Prop :=
  ∃ edited, ∀ visits, edited ≤ visits →
    (run visitor visits walk).tree = (run visitor edited walk).tree

/-- A walk ends if its visitor edits finitely often. -/
theorem exists_ended {walk : Walk σ} (sound : walk.Sound)
    (finite : FinitelyManyEdits visitor walk) :
    ∃ visits, (run visitor visits walk).pending = [] := by
  obtain ⟨edited, still⟩ := finite
  obtain ⟨visits, ended⟩ := exists_ended_of_still visitor (sound.run visitor edited)
    fun visits => by rw [← run_add, still _ (Nat.le_add_right edited visits)]
  exact ⟨edited + visits, by rw [run_add, ended]⟩

end Folio.Tree.Walk
