import Folio.Building.DocumentBuilder
import Mathlib.Data.List.Basic

/-!
# Calls of a document builder

What a call of a builder refuses and what it does otherwise, and the document that a builder
stands for. The sections that are open lie one inside the other at the right edge of the
document: `body_eq` says what stands there, and closing a section does not change it, since
closed and open sections look the same in the document. Levels are whole numbers here, so that
any two of them can be compared.
-/

namespace Folio.Building

/-- The node of a section that holds `inner` behind what it holds so far. -/
def OpenSection.holding (entry : OpenSection) (inner : List Tree) : Tree :=
  .node (.section entry.reference) [] [entry.title, .many (entry.children ++ inner)]

/-- An open section with nothing put into it holds what it held. -/
theorem OpenSection.holding_nil (entry : OpenSection) : entry.holding [] = entry.tree := by
  rw [holding, List.append_nil, tree]

namespace DocumentBuilder

/-- Sections, innermost first, as they lie one inside the other, with `inner` behind what the
innermost holds. -/
def nest : List OpenSection → List Tree → List Tree
  | [], inner => inner
  | entry :: rest, inner => nest rest [entry.holding inner]

/-- The children of the document as it is now. -/
def body (builder : DocumentBuilder) : List Tree :=
  builder.children ++ nest builder.sections []

/-- The document has the body of the builder for its only list of children. -/
theorem document_eq (builder : DocumentBuilder) :
    builder.document = .node builder.head [] [.many builder.body] := by
  have inside (sections : List OpenSection) (inner : List Tree) :
      sections.foldl (fun inner entry =>
        [{ entry with children := entry.children ++ inner }.tree]) inner = nest sections inner := by
    induction sections generalizing inner with
    | nil => rfl
    | cons entry rest hypothesis => exact hypothesis _
  rw [document, inside, body]

@[simp] theorem children_document (builder : DocumentBuilder) :
    builder.document.children = builder.body := by
  simp [document_eq, Tree.children, Slot.toList]

/-- A node that is added stands behind all others at the innermost place. -/
theorem body_add (tree : Tree) (builder : DocumentBuilder) :
    (builder.add tree).body = builder.children ++ nest builder.sections [tree] := by
  obtain ⟨head, children, sections⟩ := builder
  cases sections with
  | nil => simp [add, body, nest]
  | cons entry rest => simp [add, body, nest, OpenSection.holding]

/-- Closing a section leaves the document as it is. -/
theorem body_closeInnermost (builder : DocumentBuilder) :
    builder.closeInnermost.body = builder.body := by
  obtain ⟨head, children, sections⟩ := builder
  cases sections with
  | nil => rfl
  | cons entry rest =>
    rw [closeInnermost, body_add, body, nest, OpenSection.holding_nil]

/-- Open a section behind all others at the innermost place. -/
def push (title : Slot Tree) (level : Int) (reference : Scalar) (builder : DocumentBuilder) :
    DocumentBuilder :=
  { builder with
    sections := { level := .int level, title, reference } :: builder.sections }

/-- The levels of the open sections, innermost first, are these whole numbers. -/
def HasLevels (builder : DocumentBuilder) (levels : List Int) : Prop :=
  builder.sections.map (·.level) = levels.map Scalar.int

/-- Adding a tree opens and closes no section. -/
theorem HasLevels.add {builder : DocumentBuilder} {levels : List Int}
    (has : builder.HasLevels levels) (tree : Tree) : (builder.add tree).HasLevels levels := by
  obtain ⟨head, children, sections⟩ := builder
  cases sections with
  | nil => exact has
  | cons entry rest => exact has

/-- Closing takes the level of the innermost section off. -/
theorem HasLevels.closeInnermost {builder : DocumentBuilder} {levels : List Int}
    (has : builder.HasLevels levels) : builder.closeInnermost.HasLevels levels.tail := by
  obtain ⟨head, children, sections⟩ := builder
  cases sections with
  | nil =>
    obtain rfl : levels = [] := List.map_eq_nil_iff.1 has.symm
    exact rfl
  | cons entry rest =>
    have behind : HasLevels { head, children, sections := rest } levels.tail := by
      rw [HasLevels, List.map_tail, ← has]
      rfl
    exact behind.add entry.tree

/-- A section that is opened has the innermost level. -/
theorem HasLevels.push {builder : DocumentBuilder} {levels : List Int}
    (has : builder.HasLevels levels) (title : Slot Tree) (level : Int) (reference : Scalar) :
    (builder.push title level reference).HasLevels (level :: levels) :=
  congrArg (Scalar.int level :: ·) has

/-- A section that is not above a level is closed first when sections are closed to it. -/
theorem closeTo_of_le {builder : DocumentBuilder} {level number : Int} {levels : List Int}
    (has : builder.HasLevels (number :: levels)) (le : level ≤ number) :
    builder.closeTo (.int level) = builder.closeInnermost.closeTo (.int level) := by
  obtain ⟨head, children, sections⟩ := builder
  cases sections with
  | nil => cases has
  | cons entry rest =>
    have isLevel : entry.level = .int number := (List.cons.inj has).1
    have closes : (entry.level.atLeast? (.int level)).getD false = true := by
      rw [isLevel]
      exact decide_eq_true le
    rw [closeTo]
    exact if_pos closes

/-- The innermost open section lies above a level, if there is one. -/
def Settled (level : Int) (levels : List Int) : Prop := ∀ outer ∈ levels.head?, outer < level

/-- Where all open sections are of lower levels, there is nothing to close. -/
theorem closeTo_of_settled {builder : DocumentBuilder} {level : Int} {levels : List Int}
    (has : builder.HasLevels levels) (settled : Settled level levels) :
    builder.closeTo (.int level) = builder := by
  obtain ⟨head, children, sections⟩ := builder
  cases sections with
  | nil => rw [closeTo]
  | cons entry rest =>
    cases levels with
    | nil => cases has
    | cons number levels =>
      have isLevel : entry.level = .int number := (List.cons.inj has).1
      have above : number < level := settled number rfl
      have stays : (entry.level.atLeast? (.int level)).getD false ≠ true := by
        rw [isLevel]
        exact fun closes => absurd (of_decide_eq_true closes) (Int.not_le.2 above)
      rw [closeTo]
      exact if_neg stays

/-- Closing sections to a level leaves those above the level open. -/
theorem HasLevels.closeTo {builder : DocumentBuilder} {levels : List Int}
    (has : builder.HasLevels levels) (level : Int) :
    (builder.closeTo (.int level)).HasLevels (levels.dropWhile (level ≤ ·)) := by
  induction levels generalizing builder with
  | nil =>
    rw [closeTo_of_settled has (by simp [Settled])]
    exact has
  | cons number rest hypothesis =>
    by_cases le : level ≤ number
    · rw [closeTo_of_le has le, List.dropWhile_cons_of_pos (by simpa using le)]
      exact hypothesis has.closeInnermost
    · have settled : Settled level (number :: rest) := by
        simpa [Settled] using le
      rw [closeTo_of_settled has settled, List.dropWhile_cons_of_neg (by simpa using le)]
      exact has

/-- What closing one section keeps is kept when sections are closed to a level. -/
theorem closeTo_keeps {motive : DocumentBuilder → Prop}
    (close : ∀ builder, motive builder → motive builder.closeInnermost) (level : Scalar)
    (builder : DocumentBuilder) (holds : motive builder) : motive (builder.closeTo level) := by
  fun_induction DocumentBuilder.closeTo level builder with
  | case1 builder => exact holds
  | case2 builder entry rest isOpen closes hypothesis => exact hypothesis (close builder holds)
  | case3 builder => exact holds

/-- Closing sections does not change the document. -/
theorem body_closeTo (level : Scalar) (builder : DocumentBuilder) :
    (builder.closeTo level).body = builder.body :=
  closeTo_keeps (motive := fun other => other.body = builder.body)
    (fun other same => (body_closeInnermost other).trans same) level builder rfl

end DocumentBuilder

/-- A call of a builder, with a whole number for the level of a section. -/
inductive BuildCall where
  | openSection (title : Argument) (level : Int) (reference : Scalar := .text "")
  | close
  | add (tree : Tree)

namespace BuildCall

open DocumentBuilder

/-- What the call of a builder gives. -/
def apply (builder : DocumentBuilder) : BuildCall → Except BuildError DocumentBuilder
  | openSection title level reference =>
    builder.openSection [title]
      [("level", .plain (.int level)), ("reference", .plain (.scalar reference))]
  | close => builder.closeSection
  | add tree => .ok (builder.add tree)

/-- Why a call is refused, if it is. -/
def refusal? (builder : DocumentBuilder) : BuildCall → Option BuildError
  | openSection _ level _ => if level < 1 then some (.levelTooSmall (.int level)) else none
  | close => if builder.sections.isEmpty then some .nothingOpen else none
  | add _ => none

/-- What a call that is not refused does. -/
def effect (builder : DocumentBuilder) : BuildCall → DocumentBuilder
  | openSection title level reference =>
    (builder.closeTo (.int level)).push title.slot level reference
  | close => builder.closeInnermost
  | add tree => builder.add tree

/-- The open sections have levels after every call. -/
theorem exists_levels_effect {builder : DocumentBuilder} {levels : List Int}
    (has : builder.HasLevels levels) (call : BuildCall) :
    ∃ after, (call.effect builder).HasLevels after := by
  cases call with
  | openSection title level reference =>
    exact ⟨_, (has.closeTo level).push title.slot level reference⟩
  | close => exact ⟨_, has.closeInnermost⟩
  | add tree => exact ⟨_, has.add tree⟩

/-- A call is refused for its reason, and has its effect if there is none. -/
theorem apply_eq (builder : DocumentBuilder) (call : BuildCall) :
    call.apply builder =
      match call.refusal? builder with
      | some cause => .error cause
      | none => .ok (call.effect builder) := by
  cases call with
  | add tree => rfl
  | close =>
    rw [apply, closeSection, refusal?]
    split <;> rfl
  | openSection title level reference =>
    have below : (Scalar.int level).below? 1 = some (decide (level < 1)) := rfl
    have bound : openSignature.bind [title]
        [("level", .plain (.int level)), ("reference", .plain (.scalar reference))] =
          .ok ⟨[("title", title), ("level", .plain (.int level)),
            ("reference", .plain (.scalar reference))], [], []⟩ := rfl
    have level? : Bound.get? ⟨[("title", title), ("level", .plain (.int level)),
        ("reference", .plain (.scalar reference))], [], []⟩ "level" =
          some (.plain (.int level)) := rfl
    rw [apply, DocumentBuilder.openSection, bound, refusal?]
    simp only [level?, Option.getD_some, below]
    by_cases small : level < 1
    · simp [small]
    · simp only [small, decide_false, if_false]
      rfl

/-- The builder after some calls; one that is refused changes nothing. -/
def run (builder : DocumentBuilder) : List BuildCall → DocumentBuilder
  | [] => builder
  | call :: rest =>
    match call.apply builder with
    | .ok next => run next rest
    | .error _ => run builder rest

theorem run_append (builder : DocumentBuilder) (first second : List BuildCall) :
    run builder (first ++ second) = run (run builder first) second := by
  induction first generalizing builder with
  | nil => rfl
  | cons call rest hypothesis =>
    rw [List.cons_append, run, run]
    cases call.apply builder with
    | ok next => exact hypothesis next
    | error cause => exact hypothesis builder

end BuildCall

end Folio.Building
