import Folio.Proofs.Tree.Recording
import Folio.Tree.Edit

/-!
# Recursion and walk

A visitor that changes the tree is driven in two ways: by recursion, which visits the children
that a node has after its own visit, and by a walk over positions. `run_of_traverse` follows the
recursion: when the walk comes to a position, it makes the visits of the recursion there,
whatever else waits, and leaves the result in its place. `exists_traverse_of_run` goes the other
way: what a walk finishes, the recursion finishes too.
-/

namespace Folio.Tree

open Walk

variable {σ : Type} {visitor : Visitor σ}

/-- Trees are traversed one after another, each from where the one before ended. -/
theorem traverseEach_cons {visit : Tree → σ → Option (Tree × σ)} {tree : Tree}
    {rest results : List Tree} {state after : σ} :
    traverseEach visit (tree :: rest) state = some (results, after) ↔
      ∃ first between others, visit tree state = some (first, between) ∧
        traverseEach visit rest between = some (others, after) ∧ results = first :: others := by
  simp only [traverseEach, Option.bind_eq_bind, Option.bind_eq_some_iff, Option.pure_def,
    Option.some.injEq, Prod.mk.injEq, Prod.exists]
  constructor
  · rintro ⟨first, between, here, others, last, later, rfl, rfl⟩
    exact ⟨first, between, others, here, later, rfl⟩
  · rintro ⟨first, between, others, here, later, rfl⟩
    exact ⟨first, between, here, others, after, later, rfl, rfl⟩

/-- A node is visited before its children, which are those that it has after the visit. -/
theorem traverse_succ {levels : Nat} {depth : Int} {tree final : Tree} {state after : σ} :
    traverse visitor (levels + 1) depth tree state = some (final, after) ↔
      ∃ below, traverseEach (traverse visitor levels (depth + 1))
          (visitor depth tree state).1.children (visitor depth tree state).2 =
            some (below, after) ∧
        final = (visitor depth tree state).1.withChildren below := by
  simp only [traverse, Option.bind_eq_bind, Option.bind_eq_some_iff, Option.pure_def,
    Option.some.injEq, Prod.mk.injEq, Prod.exists]
  constructor
  · rintro ⟨below, last, each, rfl, rfl⟩
    exact ⟨below, each, rfl⟩
  · rintro ⟨below, each, rfl⟩
    exact ⟨below, after, each, rfl, rfl⟩

/-- No tree is lost. -/
theorem length_traverseEach {visit : Tree → σ → Option (Tree × σ)} {trees results : List Tree}
    {state after : σ} (found : traverseEach visit trees state = some (results, after)) :
    results.length = trees.length := by
  induction trees generalizing state results with
  | nil =>
    obtain ⟨rfl, rfl⟩ : [] = results ∧ state = after := by simpa [traverseEach] using found
    rfl
  | cons tree rest hypothesis =>
    obtain ⟨first, between, others, _, later, rfl⟩ := traverseEach_cons.1 found
    rw [List.length_cons, List.length_cons, hypothesis later]

/-- A traversal that goes further leads to the same results. -/
theorem traverseEach_mono {visit more : Tree → σ → Option (Tree × σ)}
    (further : ∀ tree state result, visit tree state = some result → more tree state = some result)
    {trees results : List Tree} {state after : σ}
    (found : traverseEach visit trees state = some (results, after)) :
    traverseEach more trees state = some (results, after) := by
  induction trees generalizing state results with
  | nil => exact found
  | cons tree rest hypothesis =>
    obtain ⟨first, between, others, here, later, rfl⟩ := traverseEach_cons.1 found
    exact traverseEach_cons.2
      ⟨first, between, others, further _ _ _ here, hypothesis later, rfl⟩

/-- A traversal that ends within some levels ends likewise within more. -/
theorem traverse_mono {levels more : Nat} (enough : levels ≤ more) {depth : Int} {tree : Tree}
    {state : σ} {result : Tree × σ}
    (found : traverse visitor levels depth tree state = some result) :
    traverse visitor more depth tree state = some result := by
  induction levels generalizing more depth tree state result with
  | zero => simp [traverse] at found
  | succ levels hypothesis =>
    obtain ⟨more, rfl⟩ := Nat.exists_eq_succ_of_ne_zero (by omega : more ≠ 0)
    obtain ⟨below, each, final⟩ := traverse_succ.1 found
    have further := traverseEach_mono
      (fun tree state result => hypothesis (by omega : levels ≤ more)) each
    exact traverse_succ.2 ⟨below, further, final⟩

-- A node stands at a position; its children `done` have been visited and `child :: todo` have not.
section Children

variable {root before parent child : Tree} {position : Position} {done todo : List Tree}

/-- The next child stands behind those that are done. -/
theorem at?_next (there : root.at? position = some before)
    (split : parent.children = done ++ child :: todo) :
    (replaceAt position parent root).at? (position ++ [done.length]) = some child := by
  rw [at?_replaceAt there]
  exact at?_child split

/-- The result of the next child is put where the child stood. -/
theorem replaceAt_next (split : parent.children = done ++ child :: todo) (result : Tree) :
    replaceAt (position ++ [done.length]) result (replaceAt position parent root) =
      replaceAt position (parent.withChildren (done ++ result :: todo)) root := by
  rw [replaceAt_child, split, List.set_append_right _ _ (le_refl _), Nat.sub_self,
    List.set_cons_zero]

/-- The visited child joins those in front of it. -/
theorem children_next (split : parent.children = done ++ child :: todo) (result : Tree) :
    (parent.withChildren (done ++ result :: todo)).children = (done ++ [result]) ++ todo := by
  have sameLength : (done ++ result :: todo).length = parent.children.length := by
    simp [split]
  rw [children_withChildren sameLength, List.append_assoc, List.singleton_append]

end Children

/-- The recursion on a tree is what a walk does at a position where the tree stands, however
much else waits. -/
def Follows (visitor : Visitor σ) (depth : Int) (visit : Tree → σ → Option (Tree × σ)) : Prop :=
  ∀ {tree final : Tree} {state after : σ}, visit tree state = some (final, after) →
    ∀ {root : Tree} {position : Position} (rest : List (Int × Position)),
      root.at? position = some tree →
      ∃ visits, run visitor visits ⟨root, (depth, position) :: rest, state⟩ =
        ⟨replaceAt position final root, rest, after⟩

/-- If a walk follows the recursion on single trees, it follows it along the children of a
node. -/
theorem run_of_traverseEach {depth : Int} {visit : Tree → σ → Option (Tree × σ)}
    (follows : Follows visitor depth visit) {root before : Tree} {position : Position}
    (there : root.at? position = some before) (rest : List (Int × Position))
    {todo results : List Tree} {state after : σ}
    (found : traverseEach visit todo state = some (results, after))
    {parent : Tree} {done : List Tree} (split : parent.children = done ++ todo) :
    ∃ visits, run visitor visits
        ⟨replaceAt position parent root,
          waiting depth position done.length todo.length ++ rest, state⟩ =
      ⟨replaceAt position (parent.withChildren (done ++ results)) root, rest, after⟩ := by
  induction todo generalizing state results parent done with
  | nil =>
    obtain ⟨rfl, rfl⟩ : [] = results ∧ state = after := by simpa [traverseEach] using found
    exact ⟨0, by rw [← split, withChildren_children]; rfl⟩
  | cons child todo hypothesis =>
    obtain ⟨first, between, others, here, later, rfl⟩ := traverseEach_cons.1 found
    obtain ⟨visits, ran⟩ := follows here
      (waiting depth position (done.length + 1) todo.length ++ rest) (at?_next there split)
    obtain ⟨visitsLater, ranLater⟩ := hypothesis later (children_next split first)
    have firstLength : (done ++ first :: todo).length = parent.children.length := by
      simp [split]
    have allLength : (done ++ [first] ++ others).length = parent.children.length := by
      simp [split, length_traverseEach later]
    rw [withChildren_withChildren firstLength allLength, List.length_append,
      List.length_singleton, List.append_assoc, List.singleton_append] at ranLater
    refine ⟨visits + visitsLater, ?_⟩
    rw [run_add, List.length_cons, waiting_succ, List.cons_append, ran, replaceAt_next split,
      ranLater]

/-- Where the recursion ends, the walk comes to the same tree and state, and then goes on with
what waits behind. -/
theorem run_of_traverse (visitor : Visitor σ) (levels : Nat) (depth : Int) :
    Follows visitor depth (traverse visitor levels depth) := by
  induction levels generalizing depth with
  | zero =>
    intro tree final state after found
    simp [traverse] at found
  | succ levels hypothesis =>
    intro tree final state after found root position rest there
    obtain ⟨below, each, rfl⟩ := traverse_succ.1 found
    obtain ⟨visits, ran⟩ := run_of_traverseEach (hypothesis (depth + 1)) there rest each
      (List.nil_append _).symm
    refine ⟨visits + 1, ?_⟩
    rw [run_succ, step_of_found visitor there]
    exact ran

/-- If a walk ends, it ends from every point that it comes to within as many visits. -/
theorem ended_of_run {walk : Walk σ} {visits : Nat}
    (ended : (run visitor visits walk).pending = []) (made : Nat) :
    (run visitor visits (run visitor made walk)).pending = [] := by
  rw [← run_add, Nat.add_comm, run_add, run_of_ended visitor made ended]
  exact ended

/-- A walk that ends within some visits stands at a position only if the recursion ends on the
tree there. -/
def EndsWithin (visitor : Visitor σ) (visits : Nat) (depth : Int) : Prop :=
  ∀ {root tree : Tree} {position : Position} {rest : List (Int × Position)} {state : σ},
    root.at? position = some tree →
    (run visitor visits ⟨root, (depth, position) :: rest, state⟩).pending = [] →
    ∃ levels final after, traverse visitor levels depth tree state = some (final, after)

/-- If the recursion ends on single trees, it ends along the children of a node: the walk ends
from each of them within the visits that it needs from the first. -/
theorem exists_traverseEach_of_run {visits : Nat} {depth : Int}
    (ends : EndsWithin visitor visits depth) {root before : Tree} {position : Position}
    (there : root.at? position = some before) (rest : List (Int × Position))
    {todo done : List Tree} {parent : Tree} {state : σ}
    (split : parent.children = done ++ todo)
    (ended : (run visitor visits ⟨replaceAt position parent root,
      waiting depth position done.length todo.length ++ rest, state⟩).pending = []) :
    ∃ levels results after,
      traverseEach (traverse visitor levels depth) todo state = some (results, after) := by
  induction todo generalizing parent done state with
  | nil => exact ⟨0, [], state, rfl⟩
  | cons child todo hypothesis =>
    have stands := at?_next there split
    rw [List.length_cons, waiting_succ, List.cons_append] at ended
    obtain ⟨levels, first, between, here⟩ := ends stands ended
    obtain ⟨made, ran⟩ := run_of_traverse visitor levels depth here
      (waiting depth position (done.length + 1) todo.length ++ rest) stands
    have endedNext := ended_of_run ended made
    rw [ran, replaceAt_next split] at endedNext
    obtain ⟨levelsLater, others, after, later⟩ := hypothesis (children_next split first)
      (by rw [List.length_append, List.length_singleton]; exact endedNext)
    have hereMax := traverse_mono (le_max_left levels levelsLater) here
    have laterMax := traverseEach_mono
      (fun _ _ _ => traverse_mono (le_max_right levels levelsLater)) later
    exact ⟨max levels levelsLater, first :: others, after,
      traverseEach_cons.2 ⟨first, between, others, hereMax, laterMax, rfl⟩⟩

/-- If a walk that has come to a position ends, the recursion on the tree that stands there
ends within some number of levels. -/
theorem exists_traverse_of_run (visitor : Visitor σ) (visits : Nat) (depth : Int) :
    EndsWithin visitor visits depth := by
  induction visits generalizing depth with
  | zero =>
    intro root tree position rest state there ended
    simp [run] at ended
  | succ visits hypothesis =>
    intro root tree position rest state there ended
    rw [run_succ, step_of_found visitor there] at ended
    obtain ⟨levels, below, after, found⟩ := exists_traverseEach_of_run (hypothesis (depth + 1))
      there rest (List.nil_append _).symm ended
    exact ⟨levels + 1, _, after, traverse_succ.2 ⟨below, found, rfl⟩⟩

/-- The recursion ends if and only if the walk does, with the same tree and the same state. -/
theorem traverse_iff_run {depth : Int} {tree final : Tree} {state after : σ} :
    (∃ levels, traverse visitor levels depth tree state = some (final, after)) ↔
      ∃ visits, run visitor visits (start depth tree state) = ⟨final, [], after⟩ := by
  constructor
  · rintro ⟨levels, found⟩
    exact run_of_traverse visitor levels depth found [] (at?_nil tree)
  · rintro ⟨visits, ran⟩
    have ended : (run visitor visits (start depth tree state)).pending = [] := by rw [ran]
    obtain ⟨levels, other, last, found⟩ :=
      exists_traverse_of_run visitor visits depth (at?_nil tree) ended
    obtain ⟨otherVisits, otherRan⟩ :=
      run_of_traverse visitor levels depth found [] (at?_nil tree)
    have otherEnded : (run visitor otherVisits (start depth tree state)).pending = [] :=
      congrArg Walk.pending otherRan
    have same : Walk.mk other [] last = Walk.mk final [] after :=
      otherRan.symm.trans ((run_eq_of_ended otherEnded ended).trans ran)
    obtain ⟨rfl, rfl⟩ : other = final ∧ last = after := by simpa using same
    exact ⟨levels, found⟩

/-- A walk that ends has been edited finitely often. -/
theorem finitelyManyEdits_of_ended {walk : Walk σ} {visits : Nat}
    (ended : (run visitor visits walk).pending = []) : FinitelyManyEdits visitor walk := by
  refine ⟨visits, fun more enough => ?_⟩
  rw [← Nat.add_sub_cancel' enough, run_add, run_of_ended visitor _ ended]

/-- The recursion ends exactly for those visitors that edit finitely often. -/
theorem exists_traverse_iff {depth : Int} {tree : Tree} {state : σ} :
    (∃ levels final after, traverse visitor levels depth tree state = some (final, after)) ↔
      FinitelyManyEdits visitor (start depth tree state) := by
  constructor
  · rintro ⟨levels, final, after, found⟩
    obtain ⟨visits, ran⟩ := traverse_iff_run.1 ⟨levels, found⟩
    have ended : (run visitor visits (start depth tree state)).pending = [] :=
      congrArg Walk.pending ran
    exact finitelyManyEdits_of_ended ended
  · intro finite
    obtain ⟨visits, ended⟩ := exists_ended (.start depth tree state) finite
    exact exists_traverse_of_run visitor visits depth (at?_nil tree) ended

/-- A visitor that edits finitely often does so when it is recorded. -/
theorem finitelyManyEdits_recording {depth : Int} {tree : Tree} {state : σ}
    (finite : FinitelyManyEdits visitor (start depth tree state)) :
    FinitelyManyEdits visitor.recording (start depth tree (state, [])) := by
  obtain ⟨edited, still⟩ := finite
  exact ⟨edited, fun visits enough => by
    rw [tree_run_recording, tree_run_recording, still visits enough]⟩

/-- A visitor that edits finitely often is driven by recursion and by a walk to the same end:
the same entries are seen, and the visitor has the same state and the tree the same form. A walk
that is stopped after some visits has seen the first entries, and its tree is the one that the
recursion ends with if the visitor leaves everything alone after these visits. -/
theorem traverse_eq_walk (visitor : Visitor σ) (depth : Int) (tree : Tree) (state : σ)
    (finite : FinitelyManyEdits visitor (start depth tree state)) :
    ∃ final after seen,
      (∃ levels, ∀ more ≥ levels,
        traverse visitor.recording more depth tree (state, []) = some (final, after, seen)) ∧
      (∃ visits, ∀ more ≥ visits,
        run visitor.recording more (start depth tree (state, [])) = ⟨final, [], after, seen⟩) ∧
      ∀ stop,
        (run visitor.recording stop (start depth tree (state, []))).state.2.reverse =
          seen.reverse.take stop ∧
        ∃ levels after, traverse visitor.limited levels depth tree (stop, state) =
          some ((run visitor.recording stop (start depth tree (state, []))).tree, after) := by
  have sound : (start depth tree (state, ([] : List (Int × Tree)))).Sound := .start _ _ _
  obtain ⟨levels, final, ⟨after, seen⟩, found⟩ :=
    exists_traverse_iff.2 (finitelyManyEdits_recording finite)
  obtain ⟨visits, ran⟩ := traverse_iff_run.1 ⟨levels, found⟩
  have ended : (run visitor.recording visits (start depth tree (state, []))).pending = [] :=
    congrArg Walk.pending ran
  refine ⟨final, after, seen, ⟨levels, fun more enough => traverse_mono enough found⟩,
    ⟨visits, fun more enough => ?_⟩, fun stop => ⟨?_, ?_⟩⟩
  · rw [← Nat.add_sub_cancel' enough, run_add, run_of_ended _ _ ended, ran]
  · rw [seen_of_stopped visitor sound rfl ended stop, ran]
  · have soundLimited : (start depth tree (stop, state)).Sound := .start _ _ _
    obtain ⟨limitedLevels, stopped, last, foundStopped⟩ :=
      exists_traverse_iff.2 (finitelyManyEdits_limited visitor soundLimited)
    obtain ⟨limitedVisits, ranStopped⟩ := traverse_iff_run.1 ⟨limitedLevels, foundStopped⟩
    have endedStopped : (run visitor.limited (stop + limitedVisits)
        (start depth tree (stop, state))).tree = stopped := by
      rw [Nat.add_comm, run_add, run_of_ended _ _ (congrArg Walk.pending ranStopped), ranStopped]
    rw [tree_limited visitor soundLimited (Nat.le_add_right stop limitedVisits)] at endedStopped
    refine ⟨limitedLevels, last, ?_⟩
    rw [foundStopped, tree_run_recording, ← endedStopped]
    rfl

/-- Wraps the children of the first three content nodes that it meets. The node that a change
puts below the visited one is met next. -/
def wrapping : Edit := { tag := "content", change := .wrap, limit := 3 }

/-- Two texts in a content node. -/
def contentPair : Tree := ofList .content [ofText "a", ofText "b"]

/-- The visitor edits finitely often, though each edit puts a node in its own way, and within
two visits of the walk it has seen what the recursion sees first. -/
theorem traverse_wrapping :
    FinitelyManyEdits wrapping.visitor (start 0 contentPair { left := 3 }) ∧
    ∃ levels final after seen,
      traverse wrapping.visitor.recording levels 0 contentPair ({ left := 3 }, []) =
        some (final, after, seen) ∧
      seen.reverse.take 2 = [(0, contentPair), (1, contentPair)] := by
  have ended : (run wrapping.visitor 6 (start 0 contentPair { left := 3 })).pending = [] := rfl
  have finite := finitelyManyEdits_of_ended ended
  obtain ⟨final, after, seen, ⟨levels, found⟩, _, stopped⟩ :=
    traverse_eq_walk wrapping.visitor 0 contentPair { left := 3 } finite
  refine ⟨finite, levels, final, after, seen, found levels (le_refl levels), ?_⟩
  rw [← (stopped 2).1]
  rfl

end Folio.Tree
