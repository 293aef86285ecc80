import Folio.Proofs.Building.Calls
import Folio.Proofs.Tree.Preorder
import Mathlib.Data.List.Induction

/-!
# Documents under construction

What holds after every call of a builder. The document reads as the sections that have been
opened and the nodes that have been added, in the order of the calls, although every section
that is opened may first close any number of others. `Follows` is the invariant behind this:
the pieces so far split into runs, one for each level of the open sections, and a section that
is closed hands its run over to the section around it.
-/

namespace Folio

/-- A node without what is in its slots. -/
def Tree.bare : Tree → Tree
  | .node head metadata _ => .node head metadata []
  | .stray value => .stray value

namespace Building

/-- What a call has put into the document. -/
inductive Piece where
  | opened (title : Slot Tree) (reference : Scalar)
  | added (tree : Tree)

/-- The bare nodes that a visit meets for a piece: a section and its title, or all nodes of what
has been added. -/
def Piece.visited : Piece → List Tree
  | opened title reference =>
    .node (.section reference) [] [] ::
      title.toList.flatMap fun tree => tree.preorder.map Tree.bare
  | added tree => tree.preorder.map Tree.bare

/-- Trees that consist of some pieces, in the order of a visit: the pieces inside a section
follow the section. -/
inductive Reads : List Tree → List Piece → Prop where
  | nil : Reads [] []
  | added {trees pieces} (tree : Tree) (rest : Reads trees pieces) :
      Reads (tree :: trees) (.added tree :: pieces)
  | opened {inner trees first later} (title : Slot Tree) (reference : Scalar)
      (inside : Reads inner first) (rest : Reads trees later) :
      Reads (.node (.section reference) [] [title, .many inner] :: trees)
        (.opened title reference :: (first ++ later))

/-- Trees one after another are read as their pieces one after another. -/
theorem Reads.append {first second : List Tree} {pieces more : List Piece}
    (reads : Reads first pieces) (behind : Reads second more) :
    Reads (first ++ second) (pieces ++ more) := by
  induction reads with
  | nil => exact behind
  | added tree _ hypothesis => exact .added tree hypothesis
  | opened title reference inside _ _ hypothesis =>
    rw [List.cons_append, List.cons_append, List.append_assoc]
    exact .opened title reference inside hypothesis

/-- A visit of trees meets the nodes of their pieces, one piece after another. -/
theorem Reads.preorder {trees : List Tree} {pieces : List Piece} (reads : Reads trees pieces) :
    (trees.flatMap Tree.preorder).map Tree.bare = pieces.flatMap Piece.visited := by
  induction reads with
  | nil => rfl
  | added tree _ hypothesis =>
    rw [List.flatMap_cons, List.map_append, hypothesis, List.flatMap_cons, Piece.visited]
  | @opened inner trees first later title reference _ _ below behind =>
    have children : (Tree.node (.section reference) [] [title, .many inner]).children =
        title.toList ++ inner := by simp [Tree.children, Slot.toList]
    rw [List.flatMap_cons, Tree.preorder_eq, children, List.flatMap_cons, Piece.visited,
      List.flatMap_append, List.flatMap_append, List.map_append, List.map_cons, List.map_append,
      below, behind, List.map_flatMap, List.cons_append, List.cons_append, List.append_assoc]
    rfl

/-- The finished children and the open sections, innermost first, hold some pieces: those before
the first open section, then each open section with those inside it. -/
inductive Follows (children : List Tree) : List OpenSection → List Piece → Prop where
  | finished {pieces} (reads : Reads children pieces) : Follows children [] pieces
  | isOpen {rest outer inner} (entry : OpenSection) (around : Follows children rest outer)
      (inside : Reads entry.children inner) :
      Follows children (entry :: rest) (outer ++ .opened entry.title entry.reference :: inner)

/-- A builder holds some pieces. -/
def DocumentBuilder.Holds (builder : DocumentBuilder) (pieces : List Piece) : Prop :=
  Follows builder.children builder.sections pieces

namespace DocumentBuilder

variable {builder : DocumentBuilder} {pieces : List Piece}

/-- The open sections stand in the document with the pieces inside them. -/
theorem reads_nest {children inner : List Tree} {sections : List OpenSection}
    {later : List Piece} (follows : Follows children sections pieces)
    (innermost : Reads inner later) :
    Reads (children ++ nest sections inner) (pieces ++ later) := by
  induction follows generalizing inner later with
  | finished reads => exact reads.append innermost
  | isOpen entry _ inside hypothesis =>
    have holds := hypothesis (.opened entry.title entry.reference
      (inside.append innermost) .nil)
    rw [List.append_nil] at holds
    rw [List.append_assoc, List.cons_append]
    exact holds

/-- The body of a builder is read as the pieces that it holds. -/
theorem Holds.reads (holds : builder.Holds pieces) : Reads builder.body pieces := by
  have reads := reads_nest holds .nil
  rwa [List.append_nil] at reads

/-- A tree that is added is read behind the pieces that were there. -/
theorem Holds.add (holds : builder.Holds pieces) {tree : Tree} {more : List Piece}
    (reads : Reads [tree] more) : (builder.add tree).Holds (pieces ++ more) := by
  obtain ⟨head, children, sections⟩ := builder
  cases holds with
  | finished before => exact .finished (before.append reads)
  | isOpen entry around inside =>
    rw [List.append_assoc, List.cons_append]
    exact .isOpen { entry with children := entry.children ++ [tree] } around
      (inside.append reads)

/-- Closing a section adds no piece. -/
theorem Holds.closeInnermost (holds : builder.Holds pieces) :
    builder.closeInnermost.Holds pieces := by
  obtain ⟨head, children, sections⟩ := builder
  cases holds with
  | finished before => exact .finished before
  | @isOpen rest outer inner entry around inside =>
    have closed : Reads [entry.tree] (.opened entry.title entry.reference :: (inner ++ [])) :=
      .opened entry.title entry.reference inside .nil
    rw [List.append_nil] at closed
    have outside : Holds { head, children, sections := rest } outer := around
    exact outside.add closed

/-- A section that is opened is one more piece. -/
theorem Holds.push (holds : builder.Holds pieces) (title : Slot Tree) (level : Int)
    (reference : Scalar) :
    (builder.push title level reference).Holds (pieces ++ [.opened title reference]) :=
  .isOpen { level := .int level, title, reference } holds .nil

/-- The levels of the open sections rise from the outermost to the innermost and begin at 1 or
above. -/
def IsRising (builder : DocumentBuilder) : Prop :=
  ∃ levels, builder.HasLevels levels ∧ levels.Pairwise (· > ·) ∧ ∀ level ∈ levels, 1 ≤ level

/-- What closing sections leaves open lies above the level. -/
theorem lt_of_mem_dropWhile {level : Int} {levels : List Int}
    (falling : levels.Pairwise (· > ·)) :
    ∀ outer ∈ levels.dropWhile (level ≤ ·), outer < level := by
  induction levels with
  | nil => simp
  | cons number rest hypothesis =>
    obtain ⟨first, others⟩ := List.pairwise_cons.1 falling
    by_cases le : level ≤ number
    · rw [List.dropWhile_cons_of_pos (by simpa using le)]
      exact hypothesis others
    · rw [List.dropWhile_cons_of_neg (by simpa using le)]
      intro outer member
      rcases List.mem_cons.1 member with rfl | later
      · exact Int.not_le.1 le
      · exact Int.lt_trans (first outer later) (Int.not_le.1 le)

/-- Adding a tree leaves the levels of the open sections as they rise. -/
theorem IsRising.add (rising : builder.IsRising) (tree : Tree) : (builder.add tree).IsRising := by
  obtain ⟨levels, has, falling, positive⟩ := rising
  exact ⟨levels, has.add tree, falling, positive⟩

/-- Levels that rise still do so with the innermost one closed. -/
theorem IsRising.closeInnermost (rising : builder.IsRising) : builder.closeInnermost.IsRising := by
  obtain ⟨levels, has, falling, positive⟩ := rising
  exact ⟨levels.tail, has.closeInnermost, falling.sublist (List.tail_sublist levels),
    fun level member => positive level (List.mem_of_mem_tail member)⟩

/-- Opening a section at 1 or above, where all that is not above it is closed first, keeps the
levels rising. -/
theorem IsRising.opened (rising : builder.IsRising) (title : Slot Tree) {level : Int}
    (atLeast : 1 ≤ level) (reference : Scalar) :
    ((builder.closeTo (.int level)).push title level reference).IsRising := by
  obtain ⟨levels, has, falling, positive⟩ := rising
  have remain := List.dropWhile_sublist (fun outer : Int => decide (level ≤ outer)) (l := levels)
  refine ⟨_, (has.closeTo level).push title level reference, ?_, ?_⟩
  · exact List.pairwise_cons.2 ⟨lt_of_mem_dropWhile falling, falling.sublist remain⟩
  · exact List.forall_mem_cons.2
      ⟨atLeast, fun outer member => positive outer (remain.subset member)⟩

@[simp] theorem head_add (tree : Tree) (builder : DocumentBuilder) :
    (builder.add tree).head = builder.head := by
  rw [add]
  split <;> rfl

@[simp] theorem head_closeInnermost (builder : DocumentBuilder) :
    builder.closeInnermost.head = builder.head := by
  rw [closeInnermost]
  split
  · rfl
  · rw [head_add]

@[simp] theorem head_closeTo (level : Scalar) (builder : DocumentBuilder) :
    (builder.closeTo level).head = builder.head :=
  closeTo_keeps (motive := fun other => other.head = builder.head)
    (fun other same => (head_closeInnermost other).trans same) level builder rfl

end DocumentBuilder

namespace BuildCall

open DocumentBuilder

/-- What a call puts into the document. -/
def pieces : BuildCall → List Piece
  | openSection title _ reference => [.opened title.slot reference]
  | close => []
  | add tree => [.added tree]

/-- What the calls that are not refused put into the document, in their order. -/
def placed (builder : DocumentBuilder) : List BuildCall → List Piece
  | [] => []
  | call :: rest =>
    match call.apply builder with
    | .ok next => call.pieces ++ placed next rest
    | .error _ => placed builder rest

/-- The invariant of a builder that has been given some pieces. -/
structure Sound (head : Head) (builder : DocumentBuilder) (pieces : List Piece) : Prop where
  sameHead : builder.head = head
  rising : builder.IsRising
  holds : builder.Holds pieces

variable {head : Head} {builder : DocumentBuilder} {given : List Piece}

/-- A builder without calls is sound. -/
theorem Sound.start (head : Head) : Sound head { head } [] where
  sameHead := rfl
  rising := ⟨[], rfl, .nil, by simp⟩
  holds := .finished .nil

/-- A call that is not refused keeps the invariant. -/
theorem Sound.effect (sound : Sound head builder given) {call : BuildCall}
    (accepted : call.refusal? builder = none) :
    Sound head (call.effect builder) (given ++ call.pieces) := by
  obtain ⟨sameHead, rising, holds⟩ := sound
  cases call with
  | add tree =>
    exact ⟨(head_add tree builder).trans sameHead, rising.add tree, holds.add (.added tree .nil)⟩
  | close =>
    rw [pieces, List.append_nil]
    exact ⟨(head_closeInnermost builder).trans sameHead, rising.closeInnermost,
      holds.closeInnermost⟩
  | openSection title level reference =>
    have atLeast : 1 ≤ level := by
      by_contra below
      rw [refusal?, if_pos (Int.not_le.1 below)] at accepted
      cases accepted
    have closed : (builder.closeTo (.int level)).Holds given :=
      closeTo_keeps (motive := fun other => other.Holds given)
        (fun _ holds => holds.closeInnermost) (.int level) builder holds
    exact ⟨(head_closeTo (.int level) builder).trans sameHead,
      rising.opened title.slot atLeast reference, closed.push title.slot level reference⟩

/-- Runs keep the invariant. -/
theorem Sound.run (sound : Sound head builder given) (calls : List BuildCall) :
    Sound head (run builder calls) (given ++ placed builder calls) := by
  induction calls generalizing builder given with
  | nil =>
    rw [placed, List.append_nil]
    exact sound
  | cons call rest hypothesis =>
    rw [BuildCall.run, placed, apply_eq]
    cases accepted : call.refusal? builder with
    | some cause => exact hypothesis sound
    | none =>
      rw [← List.append_assoc]
      exact hypothesis (sound.effect accepted)

end BuildCall

end Building

end Folio
