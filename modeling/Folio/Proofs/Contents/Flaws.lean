import Folio.Proofs.Contents.Layout

/-!
# Flawed references in tables of contents

A listed section is flawed if it has no reference, or the reference of a listed section before
it. Whether references are required only decides what happens to flaws: if they are not, each is
reported and the table is built all the same; if they are, the first one is the refusal, and
without any the table is the same as ever. What a check compares a reference with are the
references that passed before it; `Tracks` says that these stand for the references of all
sections before it, since a reference that did not pass is empty or was there already.
-/

namespace Folio.Contents

open Folio.Tree

/-- What is reported of a flaw. -/
def ContentsError.warning : ContentsError → LogRecord
  | .missing title => ⟨Level.warning, source, "Section '" ++ title ++ "' has no reference"⟩
  | .duplicate reference =>
    ⟨Level.warning, source, "Duplicate section reference '" ++ reference.plain ++ "'"⟩

/-- What is wrong with the reference of a section that comes after some others. -/
def flawOf (earlier : List Tree) (visited : Tree) : Option ContentsError :=
  if !visited.reference.isSet then some (.missing visited.titleText)
  else if earlier.any fun other => visited.reference.same other.reference then
    some (.duplicate visited.reference)
  else none

/-- The flaws of sections that come after some others, one by one. -/
def flawsAfter (earlier : List Tree) : List Tree → List ContentsError
  | [] => []
  | visited :: rest => (flawOf earlier visited).toList ++ flawsAfter (earlier ++ [visited]) rest

/-- The flaws of some sections, one by one. -/
def flaws (sections : List Tree) : List ContentsError := flawsAfter [] sections

/-- The references of sections are texts. -/
def HaveTexts (sections : List Tree) : Prop :=
  ∀ visited ∈ sections, ∃ reference, visited.reference = .text reference

/-- The references that have passed a check are those of the sections before. -/
def Tracks (seen : List Scalar) (earlier : List Tree) : Prop :=
  ∀ reference : String, reference ≠ "" →
    (Scalar.text reference ∈ seen ↔ ∃ other ∈ earlier, other.reference = .text reference)

/-- Comparing a reference with those that have passed is comparing it with those before. -/
theorem Tracks.any_eq {seen : List Scalar} {earlier : List Tree} (tracks : Tracks seen earlier)
    {reference : String} (isSet : reference ≠ "") :
    seen.any (Scalar.text reference).same =
      earlier.any fun other => (Scalar.text reference).same other.reference := by
  rw [Bool.eq_iff_iff, List.any_eq_true, List.any_eq_true]
  simp only [Scalar.text_same_iff, exists_eq_right]
  exact tracks reference isSet

/-- A check of a reference lets it pass, or else refuses or reports its flaw. -/
theorem checkReference_eq {options : ContentsOptions} {visited : Tree} {state : State}
    {earlier : List Tree} (tracks : Tracks state.seen earlier) {reference : String}
    (isText : visited.reference = .text reference) :
    checkReference options visited state =
      match flawOf earlier visited with
      | none => .ok { state with seen := visited.reference :: state.seen }
      | some flaw =>
        if options.requireReferences.isSet then .error flaw
        else .ok { state with records := state.records ++ [flaw.warning] } := by
  rw [checkReference, flawOf, isText]
  by_cases missing : (!(Scalar.text reference).isSet) = true
  · rw [if_pos missing, if_pos missing]
    rfl
  · have isSet : reference ≠ "" := by simpa using missing
    rw [if_neg missing, if_neg missing, tracks.any_eq isSet]
    by_cases repeated : (earlier.any fun other =>
        (Scalar.text reference).same other.reference) = true
    · rw [if_pos repeated, if_pos repeated]
      rfl
    · rw [if_neg repeated, if_neg repeated]

/-- A reference that passes is then one of those that have passed. -/
theorem Tracks.passed {seen : List Scalar} {earlier : List Tree} (tracks : Tracks seen earlier)
    (visited : Tree) : Tracks (visited.reference :: seen) (earlier ++ [visited]) := by
  intro reference isSet
  rw [List.mem_cons, tracks reference isSet]
  simp only [List.mem_append, List.mem_singleton, or_and_right, exists_or, exists_eq_left]
  rw [or_comm, eq_comm]

/-- A flawed reference adds none to those before it. -/
theorem Tracks.flawed {seen : List Scalar} {earlier : List Tree} (tracks : Tracks seen earlier)
    {visited : Tree} {flaw : ContentsError} (flawed : flawOf earlier visited = some flaw) :
    Tracks seen (earlier ++ [visited]) := by
  intro reference isSet
  rw [tracks reference isSet]
  constructor
  · rintro ⟨other, member, same⟩
    exact ⟨other, List.mem_append_left _ member, same⟩
  · rintro ⟨other, member, same⟩
    rcases List.mem_append.1 member with before | here
    · exact ⟨other, before, same⟩
    · obtain rfl := List.mem_singleton.1 here
      -- It is set, so its flaw is that a section before has it.
      rw [flawOf, same, if_neg (by simpa using isSet)] at flawed
      split at flawed
      · rename_i repeated
        obtain ⟨earlierOne, before, sameText⟩ := List.any_eq_true.1 repeated
        exact ⟨earlierOne, before, Scalar.text_same_iff.1 sameText⟩
      · cases flawed

variable {options : ContentsOptions}

/-- If references are not required, the checks of sections report their flaws in turn. -/
theorem checkAll_lenient (lenient : options.requireReferences.isSet = false) (state : State)
    {earlier sections : List Tree} (tracks : Tracks state.seen earlier)
    (texts : HaveTexts sections) :
    ∃ checked, checkAll options state sections = .ok checked ∧
      checked.records =
        state.records ++ (flawsAfter earlier sections).map ContentsError.warning := by
  induction sections generalizing state earlier with
  | nil => exact ⟨state, rfl, (List.append_nil _).symm⟩
  | cons visited rest hypothesis =>
    obtain ⟨⟨reference, isText⟩, textsLater⟩ := List.forall_mem_cons.1 texts
    rw [checkAll, checkReference_eq tracks isText, flawsAfter]
    cases flawed : flawOf earlier visited with
    | none =>
      exact hypothesis { state with seen := visited.reference :: state.seen }
        (tracks.passed visited) textsLater
    | some flaw =>
      simp only [lenient, Bool.false_eq_true, if_false]
      obtain ⟨checked, passes, records⟩ :=
        hypothesis { state with records := state.records ++ [flaw.warning] }
          (tracks.flawed flawed) textsLater
      refine ⟨checked, passes, ?_⟩
      rw [records, Option.toList_some, List.map_append, List.map_singleton, List.append_assoc]

/-- If references are required, the checks of sections refuse the first flaw, and report
nothing. -/
theorem checkAll_required (required : options.requireReferences.isSet = true) (state : State)
    {earlier sections : List Tree} (tracks : Tracks state.seen earlier)
    (texts : HaveTexts sections) :
    match flawsAfter earlier sections with
    | [] => ∃ checked, checkAll options state sections = .ok checked ∧
        checked.records = state.records
    | first :: _ => checkAll options state sections = .error (first, state.records) := by
  induction sections generalizing state earlier with
  | nil => exact ⟨state, rfl, rfl⟩
  | cons visited rest hypothesis =>
    obtain ⟨⟨reference, isText⟩, textsLater⟩ := List.forall_mem_cons.1 texts
    rw [checkAll, checkReference_eq tracks isText, flawsAfter]
    cases flawed : flawOf earlier visited with
    | none =>
      exact hypothesis { state with seen := visited.reference :: state.seen }
        (tracks.passed visited) textsLater
    | some flaw => simp only [required, if_true, Option.toList_some, List.singleton_append]

/-- The listed sections of a well-shaped tree have texts as references. -/
theorem haveTexts_listed (level : Nat) {tree : Tree} (shaped : tree.Shaped) :
    HaveTexts (listed options level tree) := by
  induction tree using childInduction generalizing level with
  | step tree below =>
    obtain ⟨here, inside⟩ := everywhere_iff.1 shaped
    have textsBelow (level : Nat) :
        HaveTexts (tree.children.flatMap (listed options level)) := by
      intro visited member
      obtain ⟨child, isChild, inChild⟩ := List.mem_flatMap.1 member
      exact below child isChild level (inside child isChild) visited inChild
    by_cases isListed : isListed options level tree = true
    · obtain ⟨reference, metadata, title, body, rfl⟩ :=
        here.of_section (isSection_of_isListed isListed)
      rw [listed_of_listed isListed]
      exact List.forall_mem_cons.2 ⟨⟨reference, rfl⟩, textsBelow (level + 1)⟩
    · rw [listed_of_not_listed (by simpa using isListed)]
      exact textsBelow level

/-- What is listed, and under what, depends on no option but the limit. -/
theorem listed_eq_of_maxDepth (options other : ContentsOptions)
    (same : options.maxDepth = other.maxDepth) (level : Nat) (tree : Tree) :
    listed options level tree = listed other level tree ∧
      forestWithin options level tree = forestWithin other level tree := by
  induction tree using childInduction generalizing level with
  | step tree below =>
    have sameListed : isListed options level tree = isListed other level tree := by
      rw [isListed, isListed, ContentsOptions.beyond, ContentsOptions.beyond, same]
    have sections (level : Nat) : tree.children.flatMap (listed options level) =
        tree.children.flatMap (listed other level) :=
      List.flatMap_congr fun child member => (below child member level).1
    have items (level : Nat) : tree.children.flatMap (forestWithin options level) =
        tree.children.flatMap (forestWithin other level) :=
      List.flatMap_congr fun child member => (below child member level).2
    by_cases isListed : isListed options level tree = true
    · have otherListed := sameListed ▸ isListed
      rw [listed_of_listed isListed, listed_of_listed otherListed,
        forestWithin_of_listed isListed, forestWithin_of_listed otherListed, sections, items]
      exact ⟨rfl, rfl⟩
    · have notListed : Contents.isListed options level tree = false := by simpa using isListed
      have otherNotListed := sameListed ▸ notListed
      rw [listed_of_not_listed notListed, listed_of_not_listed otherNotListed,
        forestWithin_of_not_listed notListed, forestWithin_of_not_listed otherNotListed,
        sections, items]
      exact ⟨rfl, rfl⟩

/-- What the checks start from. -/
def start : State := { stack := [OpenSection.bottom] }

/-- Nothing has been seen at the beginning. -/
theorem tracks_start : Tracks start.seen [] := by simp [Tracks, start]

/-- If references are not required, the table is built and its flaws are reported. -/
theorem build_of_lenient_reported (lenient : options.requireReferences.isSet = false) {tree : Tree}
    (shaped : tree.Shaped) :
    build options tree =
      ⟨.ok (orderedList (forestWithin options 0 tree)),
        (flaws (listed options 0 tree)).map ContentsError.warning ++
          [builtRecord (forestWithin options 0 tree)]⟩ := by
  obtain ⟨checked, passes, records⟩ :=
    checkAll_lenient lenient start tracks_start (haveTexts_listed 0 shaped)
  rw [start] at passes
  rw [build_reported, passes]
  simp only [records, start, List.nil_append, flaws]

/-- If references are required, the first flaw is the refusal. -/
theorem build_of_required_reported (required : options.requireReferences.isSet = true) {tree : Tree}
    (shaped : tree.Shaped) :
    build options tree =
      match flaws (listed options 0 tree) with
      | [] => ⟨.ok (orderedList (forestWithin options 0 tree)),
          [builtRecord (forestWithin options 0 tree)]⟩
      | first :: _ => ⟨.error first, []⟩ := by
  have texts : HaveTexts (listed options 0 tree) := haveTexts_listed 0 shaped
  have checks := checkAll_required required start tracks_start texts
  rw [build_reported, flaws]
  cases found : flawsAfter [] (listed options 0 tree) with
  | nil =>
    rw [found] at checks
    obtain ⟨checked, passes, records⟩ := checks
    rw [start] at passes
    rw [passes]
    simp only [records, start, List.nil_append]
  | cons first rest =>
    rw [found] at checks
    simp only [start] at checks
    rw [checks]

/-- Whether references are required or not, a table of contents sees the same flaws among its
listed sections. If they are not, the table is built, with one warning for each flaw in turn. If
they are, nothing is warned of: the first flaw is the refusal, and without flaws the table is the
same one. -/
theorem build_flaws (limit : Setting) {tree : Tree} (shaped : tree.Shaped) :
    let sections := listed { maxDepth := limit } 0 tree
    let items := forestWithin { maxDepth := limit } 0 tree
    build { requireReferences := .bool false, maxDepth := limit } tree =
        ⟨.ok (orderedList items),
          (flaws sections).map ContentsError.warning ++ [builtRecord items]⟩ ∧
      build { requireReferences := .bool true, maxDepth := limit } tree =
        match flaws sections with
        | [] => ⟨.ok (orderedList items), [builtRecord items]⟩
        | first :: _ => ⟨.error first, []⟩ := by
  intro sections items
  constructor
  · exact build_of_lenient_reported rfl shaped
  · obtain ⟨sameListed, sameItems⟩ := listed_eq_of_maxDepth
      { requireReferences := .bool true, maxDepth := limit } { maxDepth := limit } rfl 0 tree
    rw [build_of_required_reported rfl shaped, sameListed, sameItems]

/-- Two sections with the same reference, two without one, and a third one with it further in. -/
def flawedSections : Tree :=
  .node (.document {}) [] [.many [
    ofSection (ofText "a") [ofSection (ofText "b") [] (.text "x")] (.text "x"),
    ofSection (ofText "c") [ofSection (ofText "d") [ofSection (ofText "e") [] (.text "x")]]]]

/-- Two levels of them have three flaws: what lies further in does not count. -/
theorem build_flaws_flawedSections :
    flawedSections.Shaped ∧
      flaws (listed { maxDepth := .int 2 } 0 flawedSections) =
        [.duplicate (.text "x"), .missing "c", .missing "d"] ∧
      (build { maxDepth := .int 2 } flawedSections).records =
        [ContentsError.warning (.duplicate (.text "x")), ContentsError.warning (.missing "c"),
          ContentsError.warning (.missing "d"),
          builtRecord (forestWithin { maxDepth := .int 2 } 0 flawedSections)] ∧
      build { requireReferences := .bool true, maxDepth := .int 2 } flawedSections =
        ⟨.error (.duplicate (.text "x")), []⟩ := by
  have shaped : flawedSections.Shaped := by decide
  have found : flaws (listed { maxDepth := .int 2 } 0 flawedSections) =
      [.duplicate (.text "x"), .missing "c", .missing "d"] := by with_unfolding_all rfl
  obtain ⟨lenient, required⟩ := build_flaws (.int 2) shaped
  refine ⟨shaped, found, ?_, ?_⟩
  · rw [lenient, found]
    rfl
  · rw [required, found]

end Folio.Contents
