import Folio.Proofs.Tree.Walk

/-!
# Recorded and limited walks

A recorded walk is the walk itself with an entry more at every step, so stopping it early
cuts its entries short and nothing else. A limited visitor acts at its first visits and leaves
everything alone afterwards: whoever drives it ends up with the tree as it was after these
visits. That makes the trees in the middle of a run observable at its end, also for a run that
is no sequence of steps.
-/

namespace Folio.Tree

variable {σ τ : Type}

/-- The visitor at its first visits; the state holds how many are left. Afterwards trees and
state stay as they are. -/
def Visitor.limited (visitor : Visitor σ) : Visitor (Nat × σ)
  | _, tree, (0, state) => (tree, 0, state)
  | depth, tree, (left + 1, state) =>
    let (changed, after) := visitor depth tree state
    (changed, left, after)

namespace Walk

/-- The walk with another view of its state. -/
def mapState (view : σ → τ) (walk : Walk σ) : Walk τ :=
  { tree := walk.tree, pending := walk.pending, state := view walk.state }

/-- Visitors that act alike up to a view of the state make the same step up to that view. -/
theorem mapState_step {first : Visitor σ} {second : Visitor τ} {view : σ → τ} {walk : Walk σ}
    (agree : ∀ depth tree, second depth tree (view walk.state) =
      ((first depth tree walk.state).1, view (first depth tree walk.state).2)) :
    (walk.step first).mapState view = (walk.mapState view).step second := by
  obtain ⟨root, pending, state⟩ := walk
  cases pending with
  | nil => rfl
  | cons entry rest =>
    have agree (depth : Int) (tree : Tree) : second depth tree (view state) =
      ((first depth tree state).1, view (first depth tree state).2) := agree depth tree
    cases found : root.at? entry.2 with
    | none => simp [step, mapState, found]
    | some tree => simp [step, mapState, found, agree]

section Recording

variable (visitor : Visitor σ) {walk : Walk (σ × List (Int × Tree))}

/-- Recording changes nothing of a run. -/
theorem mapState_run_recording (visits : Nat) (walk : Walk (σ × List (Int × Tree))) :
    (run visitor.recording visits walk).mapState Prod.fst =
      run visitor visits (walk.mapState Prod.fst) := by
  induction visits generalizing walk with
  | zero => rfl
  | succ visits hypothesis =>
    have same : (walk.step visitor.recording).mapState Prod.fst =
        (walk.mapState Prod.fst).step visitor := mapState_step fun _ _ => rfl
    rw [run_succ, run_succ, hypothesis, same]

/-- Recording does not change the tree. -/
theorem tree_run_recording (visits : Nat) (depth : Int) (tree : Tree) (state : σ) :
    (run visitor.recording visits (start depth tree (state, []))).tree =
      (run visitor visits (start depth tree state)).tree :=
  congrArg Walk.tree (mapState_run_recording visitor visits (start depth tree (state, [])))

/-- A step of a sound walk records one entry. -/
theorem seen_step (sound : walk.Sound) (waits : walk.pending ≠ []) :
    ∃ entry, (walk.step visitor.recording).state.2 = entry :: walk.state.2 := by
  obtain ⟨root, pending, state⟩ := walk
  cases pending with
  | nil => exact absurd rfl waits
  | cons entry rest =>
    obtain ⟨tree, there⟩ : ∃ tree, root.at? entry.2 = some tree :=
      sound.found _ List.mem_cons_self
    exact ⟨(entry.1, tree), by rw [step_of_found _ there]; rfl⟩

/-- A run adds entries to those that were there: one for each step, or fewer if it ended. -/
theorem seen_run (sound : walk.Sound) (visits : Nat) :
    ∃ later, (run visitor.recording visits walk).state.2 = later ++ walk.state.2 ∧
      later.length ≤ visits ∧
      (later.length = visits ∨ (run visitor.recording visits walk).pending = []) := by
  induction visits generalizing walk with
  | zero => exact ⟨[], rfl, le_refl 0, .inl rfl⟩
  | succ visits hypothesis =>
    by_cases waits : walk.pending = []
    · rw [run_of_ended _ _ waits]
      exact ⟨[], rfl, Nat.zero_le _, .inr waits⟩
    · obtain ⟨entry, first⟩ := seen_step visitor sound waits
      obtain ⟨later, seen, bounded, complete⟩ := hypothesis (sound.step visitor.recording)
      rw [run_succ]
      refine ⟨later ++ [entry], ?_, ?_, complete.imp_left fun all => ?_⟩
      · rw [seen, first, List.append_assoc, List.singleton_append]
      · rw [List.length_append, List.length_singleton]
        omega
      · rw [List.length_append, List.length_singleton, all]

/-- The entries of a walk that is stopped are the first ones of the walk that is not. -/
theorem seen_of_stopped (sound : walk.Sound) (fresh : walk.state.2 = []) {visits : Nat}
    (ended : (run visitor.recording visits walk).pending = []) (stop : Nat) :
    (run visitor.recording stop walk).state.2.reverse =
      (run visitor.recording visits walk).state.2.reverse.take stop := by
  obtain ⟨entries, seen, bounded, complete⟩ := seen_run visitor sound stop
  rw [fresh, List.append_nil] at seen
  rcases complete with all | stoppedEnded
  · -- The stopped walk has made all its steps; the other one has made at least these.
    obtain ⟨later, seenLater, _, _⟩ :=
      seen_run visitor (sound.run visitor.recording stop) visits
    have longer : run visitor.recording visits (run visitor.recording stop walk) =
        run visitor.recording visits walk := by
      rw [← run_add, Nat.add_comm, run_add, run_of_ended _ _ ended]
    rw [longer, seen] at seenLater
    rw [seenLater, seen, List.reverse_append, List.take_left' (by rw [List.length_reverse, all])]
  · rw [run_eq_of_ended ended stoppedEnded, seen, List.take_of_length_le]
    rw [List.length_reverse]
    exact bounded

end Recording

section Limited

variable (visitor : Visitor σ) {walk : Walk (Nat × σ)}

/-- While visits are left, a step of a limited walk is a step of the visitor and takes one off. -/
theorem step_limited (sound : walk.Sound) (waits : walk.pending ≠ []) {left : Nat}
    (visitsLeft : walk.state.1 = left + 1) :
    (walk.step visitor.limited).mapState Prod.snd = (walk.mapState Prod.snd).step visitor ∧
      (walk.step visitor.limited).state.1 = left := by
  obtain ⟨root, pending, ⟨count, state⟩⟩ := walk
  obtain rfl : count = left + 1 := visitsLeft
  refine ⟨mapState_step fun _ _ => rfl, ?_⟩
  cases pending with
  | nil => exact absurd rfl waits
  | cons entry rest =>
    obtain ⟨tree, there⟩ : ∃ tree, root.at? entry.2 = some tree :=
      sound.found _ List.mem_cons_self
    rw [step_of_found _ there]
    rfl

/-- A limited walk is the walk of the visitor until its visits are used up or it ends. -/
theorem run_limited (sound : walk.Sound) (visits : Nat) (enough : visits ≤ walk.state.1) :
    (run visitor.limited visits walk).mapState Prod.snd =
        run visitor visits (walk.mapState Prod.snd) ∧
      ((run visitor.limited visits walk).state.1 = walk.state.1 - visits ∨
        (run visitor.limited visits walk).pending = []) := by
  induction visits generalizing walk with
  | zero => exact ⟨rfl, .inl rfl⟩
  | succ visits hypothesis =>
    by_cases waits : walk.pending = []
    · rw [run_of_ended _ _ waits, run_of_ended _ _ (by exact waits)]
      exact ⟨rfl, .inr waits⟩
    · obtain ⟨left, visitsLeft⟩ := Nat.exists_eq_succ_of_ne_zero (by omega : walk.state.1 ≠ 0)
      obtain ⟨same, taken⟩ := step_limited visitor sound waits visitsLeft
      obtain ⟨sameRun, used⟩ := hypothesis (sound.step visitor.limited) (by omega)
      rw [run_succ, run_succ, sameRun, same]
      refine ⟨rfl, used.imp_left fun left => ?_⟩
      omega

/-- Once its visits are used up, a limited walk leaves its tree alone. -/
theorem run_limited_of_used (visits : Nat) (used : walk.state.1 = 0) :
    (run visitor.limited visits walk).tree = walk.tree := by
  induction visits generalizing walk with
  | zero => rfl
  | succ visits hypothesis =>
    have still : (walk.step visitor.limited).tree = walk.tree ∧
        (walk.step visitor.limited).state.1 = 0 := by
      obtain ⟨root, pending, ⟨count, state⟩⟩ := walk
      obtain rfl : count = 0 := used
      cases pending with
      | nil => exact ⟨rfl, rfl⟩
      | cons entry rest =>
        cases there : root.at? entry.2 with
        | none => simp [step, there]
        | some tree =>
          rw [step_of_found _ there]
          exact ⟨replaceAt_self there, rfl⟩
    rw [run_succ, hypothesis still.2, still.1]

/-- From its last visit on, a limited walk has the tree that the visitor has made by then. -/
theorem tree_limited (sound : walk.Sound) {visits : Nat} (enough : walk.state.1 ≤ visits) :
    (run visitor.limited visits walk).tree =
      (run visitor walk.state.1 (walk.mapState Prod.snd)).tree := by
  obtain ⟨same, used⟩ := run_limited visitor sound walk.state.1 (le_refl _)
  have sameTree : (run visitor.limited walk.state.1 walk).tree =
      (run visitor walk.state.1 (walk.mapState Prod.snd)).tree := congrArg Walk.tree same
  rw [← Nat.add_sub_cancel' enough, run_add, ← sameTree]
  rcases used with none | ended
  · exact run_limited_of_used visitor _ (by omega)
  · rw [run_of_ended _ _ ended]

/-- A limited visitor edits finitely often. -/
theorem finitelyManyEdits_limited (sound : walk.Sound) :
    FinitelyManyEdits visitor.limited walk :=
  ⟨walk.state.1, fun _ later => by
    rw [tree_limited visitor sound later, tree_limited visitor sound (le_refl _)]⟩

end Limited

end Walk

end Folio.Tree
