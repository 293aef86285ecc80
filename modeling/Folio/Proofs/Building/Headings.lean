import Folio.Proofs.Building.Calls
import Folio.Proofs.Tree.Preorder
import Mathlib.Data.List.TakeWhile

/-!
# Documents from headings

A reader that only knows headings opens a section for each of them and adds everything else,
and never closes a section. The document then holds what `arrange` makes of the headings by
recursion: a section owns everything up to the next heading that is not deeper. The builder
finds this with a stack instead. `closeTo_run` ties the two together: once the sections that the
next shallower heading would close are closed, what has been built is arranged.
-/

namespace Folio.Building

open DocumentBuilder

/-- A heading: a title, a level of at least 1 and perhaps a reference. -/
structure Heading where
  title : String
  level : Int
  reference : Scalar := .text ""
  positive : 1 ≤ level

/-- The section for a heading. -/
def Heading.section (heading : Heading) (body : List Tree) : Tree :=
  Tree.ofSection (Tree.ofText heading.title) body heading.reference

/-- What a reader of headings comes upon: a heading, or a node without any section in it. -/
inductive Entry where
  | heading (heading : Heading)
  | content (tree : Tree) (plain : tree.sections = [])

namespace Entry

/-- The call of a builder for an entry. -/
def call : Entry → BuildCall
  | heading first => .openSection (.plain (.str first.title)) first.level first.reference
  | content tree _ => .add tree

/-- The entry belongs to the section of a heading at a level that it follows. -/
def isWithin (level : Int) : Entry → Bool
  | heading first => level < first.level
  | content _ _ => true

/-- The headings among some entries. -/
def headings : List Entry → List Heading
  | [] => []
  | heading first :: rest => first :: headings rest
  | content _ _ :: rest => headings rest

/-- The nodes that entries make: the section of a heading holds all entries up to the next
heading that is not deeper. -/
def arrange : List Entry → List Tree
  | [] => []
  | content tree _ :: rest => tree :: arrange rest
  | heading first :: rest =>
    first.section (arrange (rest.takeWhile (isWithin first.level))) ::
      arrange (rest.dropWhile (isWithin first.level))
termination_by entries => entries.length
decreasing_by
  all_goals simp only [List.length_cons, Nat.lt_succ_iff, Nat.le_refl]
  · exact (List.takeWhile_sublist _).length_le
  · exact (List.dropWhile_sublist _).length_le

/-- The headings among joined entries are those of one after those of the other. -/
theorem headings_append (first second : List Entry) :
    headings (first ++ second) = headings first ++ headings second := by
  induction first with
  | nil => rfl
  | cons entry rest hypothesis => cases entry <;> simp [headings, hypothesis]

/-- Headings are among entries as entries of their own. -/
theorem mem_headings {heading : Heading} {entries : List Entry} :
    heading ∈ headings entries ↔ Entry.heading heading ∈ entries := by
  induction entries with
  | nil => simp [headings]
  | cons entry rest hypothesis => cases entry <;> simp [headings, hypothesis]

/-- The headings that a heading owns are deeper. -/
theorem lt_of_mem_takeWhile {level : Int} {entries : List Entry} {heading : Heading}
    (member : heading ∈ headings (entries.takeWhile (isWithin level))) :
    level < heading.level :=
  of_decide_eq_true (List.mem_takeWhile_imp (mem_headings.1 member) :
    isWithin level (.heading heading) = true)

/-- What a heading does not own begins with a heading that is not deeper. -/
theorem exists_of_dropWhile_eq_cons {level : Int} {entries rest : List Entry} {entry : Entry}
    (behind : entries.dropWhile (isWithin level) = entry :: rest) :
    ∃ next, entry = .heading next ∧ next.level ≤ level := by
  have outside : isWithin level entry = false := by
    have first := List.head?_dropWhile_not (isWithin level) entries
    rwa [behind] at first
  cases entry with
  | heading next => exact ⟨next, rfl, Int.not_lt.1 (of_decide_eq_false outside)⟩
  | content tree plain => cases outside

end Entry

namespace DocumentBuilder

/-- Add several nodes, one after another. -/
def addAll (trees : List Tree) (builder : DocumentBuilder) : DocumentBuilder :=
  trees.foldl (fun current tree => current.add tree) builder

/-- Adding nodes right after a section has been opened puts them into that section. -/
theorem addAll_push (trees : List Tree) (title : Slot Tree) (level : Int) (reference : Scalar)
    (builder : DocumentBuilder) :
    addAll trees (builder.push title level reference) =
      { builder with
        sections := ⟨.int level, title, reference, trees⟩ :: builder.sections } := by
  suffices general : ∀ before, addAll trees
      { builder with sections := ⟨.int level, title, reference, before⟩ :: builder.sections } =
        { builder with
          sections := ⟨.int level, title, reference, before ++ trees⟩ :: builder.sections } from
    general []
  induction trees with
  | nil => simp [addAll]
  | cons tree rest hypothesis =>
    intro before
    have behind := hypothesis (before ++ [tree])
    rw [List.append_assoc, List.singleton_append] at behind
    exact behind

/-- Trees that are added come behind the children that are there. -/
theorem body_addAll (trees : List Tree) (head : Head) (before : List Tree) :
    (addAll trees { head, children := before }).body = before ++ trees := by
  induction trees generalizing before with
  | nil => rfl
  | cons tree rest hypothesis =>
    have behind := hypothesis (before ++ [tree])
    rwa [List.append_assoc, List.singleton_append] at behind

/-- Sections that are closed to a deeper level are closed to a shallower one anyway. -/
theorem closeTo_closeTo {builder : DocumentBuilder} {levels : List Int}
    (has : builder.HasLevels levels) {outer inner : Int} (le : outer ≤ inner) :
    (builder.closeTo (.int inner)).closeTo (.int outer) = builder.closeTo (.int outer) := by
  induction levels generalizing builder with
  | nil => rw [closeTo_of_settled has (by simp [Settled] : Settled inner [])]
  | cons number rest hypothesis =>
    by_cases closes : inner ≤ number
    · rw [closeTo_of_le has closes, closeTo_of_le has (Int.le_trans le closes),
        hypothesis has.closeInnermost]
    · rw [closeTo_of_settled has (by simpa [Settled] using closes)]

end DocumentBuilder

namespace BuildCall

/-- The call for an entry is never refused. -/
theorem run_call (builder : DocumentBuilder) (entry : Entry) (rest : List BuildCall) :
    run builder (entry.call :: rest) = run (entry.call.effect builder) rest := by
  have accepted : entry.call.refusal? builder = none := by
    cases entry with
    | heading first => exact if_neg (Int.not_lt.2 first.positive)
    | content tree plain => rfl
  rw [run, apply_eq, accepted]

/-- The open sections have levels after every run. -/
theorem exists_levels_run {builder : DocumentBuilder} {levels : List Int}
    (has : builder.HasLevels levels) (entries : List Entry) :
    ∃ after, (run builder (entries.map Entry.call)).HasLevels after := by
  induction entries generalizing builder levels with
  | nil => exact ⟨levels, has⟩
  | cons entry rest hypothesis =>
    obtain ⟨after, next⟩ := exists_levels_effect has entry.call
    rw [List.map_cons, run_call]
    exact hypothesis next

/-- Sections that the next heading closes may as well be closed before it. -/
theorem closeTo_run_dropWhile {builder : DocumentBuilder} {levels : List Int}
    (has : builder.HasLevels levels) {outer inner : Int} (le : outer ≤ inner)
    (entries : List Entry) :
    (run builder ((entries.dropWhile (Entry.isWithin inner)).map Entry.call)).closeTo
        (.int outer) =
      (run (builder.closeTo (.int inner))
        ((entries.dropWhile (Entry.isWithin inner)).map Entry.call)).closeTo (.int outer) := by
  cases behind : entries.dropWhile (Entry.isWithin inner) with
  | nil => exact (closeTo_closeTo has le).symm
  | cons entry rest =>
    obtain ⟨next, rfl, shallower⟩ := Entry.exists_of_dropWhile_eq_cons behind
    rw [List.map_cons, run_call, run_call, Entry.call, effect, effect,
      closeTo_closeTo has shallower]

/-- If no heading among the entries is above a level, then once all sections of that level and
below are closed, the arranged entries have been added. -/
theorem closeTo_run (entries : List Entry) {builder : DocumentBuilder} {levels : List Int}
    {level : Int} (has : builder.HasLevels levels) (settled : Settled level levels)
    (deep : ∀ heading ∈ Entry.headings entries, level ≤ heading.level) :
    (run builder (entries.map Entry.call)).closeTo (.int level) =
      addAll (Entry.arrange entries) builder := by
  fun_induction Entry.arrange entries generalizing builder levels level with
  | case1 => exact closeTo_of_settled has settled
  | case2 tree plain rest hypothesis =>
    rw [List.map_cons, run_call]
    exact hypothesis (has.add tree) settled deep
  | case3 first rest inside behind =>
    let own := rest.takeWhile (Entry.isWithin first.level)
    let others := rest.dropWhile (Entry.isWithin first.level)
    have split : own ++ others = rest := List.takeWhile_append_dropWhile
    have isDeep : level ≤ first.level := deep first (by simp [Entry.headings])
    have othersDeep : ∀ heading ∈ Entry.headings others, level ≤ heading.level := by
      intro heading member
      refine deep heading ?_
      rw [Entry.headings, ← split, Entry.headings_append]
      simp [member]
    -- The section is opened in the builder as it is, since that is settled.
    let opened := builder.push (.one (Tree.ofText first.title)) first.level first.reference
    have hasOpened : opened.HasLevels (first.level :: levels) := has.push _ _ _
    have settledBelow : Settled first.level levels := fun outer head =>
      Int.lt_of_lt_of_le (settled outer head) isDeep
    have opens : (Entry.heading first).call.effect builder = opened := by
      rw [Entry.call, effect, closeTo_of_settled has settledBelow]
      rfl
    -- Its own entries end up in it, and closing it puts it where it was opened.
    have settledOpened : Settled (first.level + 1) (first.level :: levels) := by
      rintro outer isHead
      obtain rfl : first.level = outer := Option.some.inj isHead
      exact Int.lt_succ first.level
    have filled := inside hasOpened settledOpened fun heading member =>
      Entry.lt_of_mem_takeWhile member
    obtain ⟨after, hasAfter⟩ := exists_levels_run hasOpened own
    have closed : (run opened (own.map Entry.call)).closeTo (.int first.level) =
        builder.add (first.section (Entry.arrange own)) := by
      have hasFilled : (addAll (Entry.arrange own) opened).HasLevels (first.level :: levels) := by
        rw [addAll_push]
        exact hasOpened
      rw [← closeTo_closeTo hasAfter (by omega : first.level ≤ first.level + 1), filled,
        closeTo_of_le hasFilled (Int.le_refl _), addAll_push]
      exact closeTo_of_settled (has.add _) settledBelow
    have joined : rest.map Entry.call = own.map Entry.call ++ others.map Entry.call := by
      rw [← List.map_append, split]
    rw [List.map_cons, run_call, opens, joined, run_append,
      closeTo_run_dropWhile hasAfter isDeep, closed]
    exact behind (has.add _) settled othersDeep

/-- The document of a fresh builder holds the arranged entries. -/
theorem body_run (head : Head) (entries : List Entry) :
    (run { head } (entries.map Entry.call)).body = Entry.arrange entries := by
  have fresh : HasLevels { head } [] := rfl
  have settled : Settled 1 [] := by simp [Settled]
  have closed := closeTo_run entries fresh settled fun heading _ => heading.positive
  rw [← body_closeTo (.int 1), closed, body_addAll, List.nil_append]

end BuildCall

end Folio.Building
