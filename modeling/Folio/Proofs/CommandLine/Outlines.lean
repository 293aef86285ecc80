import Folio.Proofs.CommandLine.Spelling

/-!
# What a run prints of an outline

A run that is to show a table of contents without drawings prints one line for each listed section
of the document that it has read. The line can be told from where the section stands in the
document: it is indented by the number of listed sections around it, numbered by its rank among
the listed sections with the same parent, and shows its title with the reference that it has once
references have been given.
-/

namespace Folio.CommandLine

open Folio.Contents Folio.References Folio.Tree

variable {options : ContentsOptions}

/-- Listed are the sections with fewer listed ones around them than the limit, if there is one. -/
theorem mem_listedPlaces_iff (typed : options.WellTyped) {tree : Tree} {place : Position} :
    place ∈ listedPlaces options 0 tree ↔
      ∃ visited, tree.at? place = some visited ∧ visited.kind? = some .section ∧
        ∀ limit : Int, options.maxDepth = .int limit →
          (listedAbove options 0 tree place).length < limit := by
  have within (level : Nat) : options.beyond level = false ↔
      ∀ limit : Int, options.maxDepth = .int limit → level < limit := by
    rw [ContentsOptions.beyond]
    rcases typed.depth with unlimited | ⟨limit, isLimit, -⟩
    · simp [unlimited, Setting.scalar?, Scalar.whole?]
    · simp [isLimit, Setting.scalar?, Scalar.whole?]
  rw [listedPlaces, List.mem_filter, mem_positions_iff, listedAt]
  cases stands : tree.at? place with
  | none => simp
  | some visited =>
    simp only [isListed, isA_section, levelAt_eq stands, Nat.zero_add, Bool.and_eq_true,
      Bool.not_eq_true', within, beq_iff_eq, Option.some.injEq, exists_eq', true_and,
      exists_eq_left']

/-- References have no influence on which sections are listed, nor on their ranks and titles. -/
theorem listing_congr {left right : Tree}
    (same : left.withoutReferences = right.withoutReferences) :
    listedPlaces options 0 left = listedPlaces options 0 right ∧
      listedAbove options 0 left = listedAbove options 0 right ∧
      rankAt options 0 left = rankAt options 0 right ∧ titleAt left = titleAt right := by
  have listed : listedAt options 0 left = listedAt options 0 right := by
    rw [← listedAt_withoutReferences, same, listedAt_withoutReferences]
  have positions : left.positions = right.positions := by
    rw [← positions_withoutReferences, same, positions_withoutReferences]
  have places : listedPlaces options 0 left = listedPlaces options 0 right := by
    rw [listedPlaces, listedPlaces, listed, positions]
  have above : listedAbove options 0 left = listedAbove options 0 right := by
    funext place
    rw [listedAbove, listedAbove, listed]
  refine ⟨places, above, funext fun place => ?_, funext fun place => ?_⟩
  · simp only [rankAt, family, parentAt, places, above]
  · rw [← titleAt_withoutReferences, same, titleAt_withoutReferences]

/-- Sections in groups and outside of them, two of which have the same title. -/
def grouped : Tree :=
  .node (.document { title := "Grouped" }) [] [.many
    [ofList .content [ofSection (ofText "A")
        [ofSection (ofText "B") [], ofList .content [ofSection (ofText "C") []]]],
      ofSection (ofText "A") []]]

/-- The grouped sections are a sound document. -/
theorem sound_grouped : Sound grouped :=
  ⟨rfl, ⟨by decide, by decide⟩, by decide, by decide⟩

end Folio.CommandLine
