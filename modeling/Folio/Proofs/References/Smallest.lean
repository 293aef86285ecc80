import Folio.Proofs.References.Replaced
import Folio.Proofs.References.Uniqueness

/-!
# Smallest suffixes

The references that a run gives can be read off the tree that it leaves behind. Each is a
form of the slug of its title, and all smaller forms stand in the tree afterwards: as
references that were pinned, or as those of earlier sections. `Smallest` says this about the
references afterwards alone, without a run. It leaves no choice, since the forms in use at a
section are fixed by the pinned references and by the sections before it, so by induction on
the place of a section two such assignments agree. Slugs that look like numbered forms of
others need no care: a form is passed over because it is in use, whatever slug it came from.
-/

namespace Folio.References

open Folio.Tree

/-- A form of a slug behind used ones only: the slug itself, or the slug with a number if the
slug and its forms with smaller numbers are in use. -/
inductive FirstForm (used : String → Prop) (slug : String) (start : Int) : String → Prop where
  | bare : FirstForm used slug start slug
  | numbered {number : Int} (least : start ≤ number) (bareUsed : used slug)
      (smallerUsed : ∀ smaller : Int, start ≤ smaller → smaller < number →
        used (slug ++ "-" ++ smaller.repr)) :
      FirstForm used slug start (slug ++ "-" ++ number.repr)

namespace FirstForm

variable {used : String → Prop} {slug first second : String} {start : Int}

/-- More references in use do no harm to a form behind used ones. -/
theorem mono {others : String → Prop} (form : FirstForm used slug start first)
    (more : ∀ reference, used reference → others reference) :
    FirstForm others slug start first := by
  cases form with
  | bare => exact .bare
  | numbered least bareUsed smallerUsed =>
    exact .numbered least (more _ bareUsed) fun smaller fromStart below =>
      more _ (smallerUsed smaller fromStart below)

/-- Only one form behind used ones is free. -/
theorem eq_of_free (form : FirstForm used slug start first) (free : ¬used first)
    (other : FirstForm used slug start second) (otherFree : ¬used second) : first = second := by
  cases form with
  | bare =>
    cases other with
    | bare => rfl
    | numbered _ bareUsed _ => exact absurd bareUsed free
  | @numbered number least bareUsed smallerUsed =>
    cases other with
    | bare => exact absurd bareUsed otherFree
    | @numbered otherNumber otherLeast _ otherSmaller =>
      rcases lt_trichotomy number otherNumber with below | rfl | above
      · exact absurd (otherSmaller number least below) free
      · rfl
      · exact absurd (smallerUsed otherNumber otherLeast above) otherFree

end FirstForm

/-- The chosen reference is the first form of the slug that is not in use. -/
theorem choose_firstForm (fallback : String) (start : Int) (taken : List Scalar)
    (title : String) :
    ∃ reference : String,
      choose ⟨.text fallback, .int start⟩ taken title = .text reference ∧
      FirstForm (fun used => Scalar.text used ∈ taken) (Slug.ofText title fallback) start
        reference ∧
      Scalar.text reference ∉ taken := by
  set slug := Slug.ofText title fallback with slugEq
  have chooseEq : choose ⟨.text fallback, .int start⟩ taken title =
      unique taken (.int start) (.text slug) := rfl
  rw [chooseEq, unique]
  by_cases used : isTaken taken (.text slug) = true
  · obtain ⟨increments, _, found, passed, free⟩ := firstFree_int taken (.text slug) start
    rw [numbered_int] at found free
    rw [if_pos used, attempts_int, found]
    refine ⟨_, rfl, ?_, isTaken_text_eq_false.1 free⟩
    refine .numbered (by omega) (isTaken_text.1 used) fun smaller fromStart below => ?_
    -- The search has passed over every number from the first one on.
    obtain ⟨index, rfl⟩ := Int.le.dest fromStart
    have isUsed := passed index (by omega)
    rw [numbered_int] at isUsed
    exact isTaken_text.1 isUsed
  · rw [if_neg used]
    exact ⟨slug, rfl, .bare, isTaken_text_eq_false.1 (by simpa using used)⟩

/-- Afterwards a text is the reference of a section that had one pinned, or of one that stands
before an index. -/
def InUse (table : List (String × Scalar)) (after : List Scalar) (index : Nat)
    (reference : String) : Prop :=
  ∃ (other : Nat) (title : String) (before : Scalar), table[other]? = some (title, before) ∧
    after[other]? = some (.text reference) ∧ (before.isSet = true ∨ other < index)

/-- References after a run, against the titles and references before it: set ones are kept,
every other section has a form of its slug whose smaller forms are all in use, and this form is
itself neither pinned nor the reference of an earlier section. -/
structure Smallest (fallback : String) (start : Int) (table : List (String × Scalar))
    (after : List Scalar) : Prop where
  length_eq : after.length = table.length
  kept : ∀ {index : Nat} {title : String} {reference : Scalar},
    table[index]? = some (title, reference) → reference.isSet = true →
      after[index]? = some reference
  justified : ∀ {index : Nat} {title : String} {reference : Scalar},
    table[index]? = some (title, reference) → reference.isSet = false →
      ∃ given, after[index]? = some (.text given) ∧
        FirstForm (InUse table after index) (Slug.ofText title fallback) start given
  apart : ∀ {index : Nat} {title given : String} {reference : Scalar},
    table[index]? = some (title, reference) → reference.isSet = false →
      after[index]? = some (.text given) → ¬InUse table after index given

variable {fallback : String} {start : Int} {table : List (String × Scalar)}
  {first second : List Scalar}

/-- What is in use at an index depends on the references before it only, once pinned ones are
kept. -/
theorem InUse.of_agree {index : Nat} {reference : String}
    (kept : ∀ {other : Nat} {title : String} {before : Scalar},
      table[other]? = some (title, before) → before.isSet = true →
        first[other]? = second[other]?)
    (agree : ∀ other < index, first[other]? = second[other]?)
    (inUse : InUse table first index reference) : InUse table second index reference := by
  obtain ⟨other, title, before, atTable, atFirst, reason⟩ := inUse
  refine ⟨other, title, before, atTable, ?_, reason⟩
  rcases reason with isSet | below
  · rw [← kept atTable isSet, atFirst]
  · rw [← agree other below, atFirst]

/-- There is one assignment of smallest suffixes at most. -/
theorem Smallest.unique (left : Smallest fallback start table first)
    (right : Smallest fallback start table second) : first = second := by
  refine List.ext_getElem? fun index => ?_
  induction index using Nat.strong_induction_on with
  | _ index earlier =>
    have kept {other : Nat} {title : String} {before : Scalar}
        (atTable : table[other]? = some (title, before)) (isSet : before.isSet = true) :
        first[other]? = second[other]? := by
      rw [left.kept atTable isSet, right.kept atTable isSet]
    obtain atTable | ⟨⟨title, before⟩, atTable⟩ := Option.eq_none_or_eq_some table[index]?
    · have beyond : table.length ≤ index := List.getElem?_eq_none_iff.1 atTable
      rw [List.getElem?_eq_none (left.length_eq ▸ beyond),
        List.getElem?_eq_none (right.length_eq ▸ beyond)]
    by_cases isSet : before.isSet = true
    · exact kept atTable isSet
    have notSet : before.isSet = false := by simpa using isSet
    obtain ⟨given, atFirst, form⟩ := left.justified atTable notSet
    obtain ⟨other, atSecond, otherForm⟩ := right.justified atTable notSet
    have free : ¬InUse table second index given := fun inUse =>
      left.apart atTable notSet atFirst
        (inUse.of_agree (fun at' set => (kept at' set).symm) fun index below =>
          (earlier index below).symm)
    have sameUse : FirstForm (InUse table second index) (Slug.ofText title fallback) start
        given := form.mono fun _ inUse => inUse.of_agree kept earlier
    rw [atFirst, atSecond,
      sameUse.eq_of_free free otherForm (right.apart atTable notSet atSecond)]

variable {options : ReferenceOptions} {taken : List Scalar}

/-- A run along a table has one reference for each entry. -/
theorem length_give (options : ReferenceOptions) (taken : List Scalar)
    (table : List (String × Scalar)) :
    (give options taken table).1.length = table.length := by
  induction table generalizing taken with
  | nil => rfl
  | cons entry rest hypothesis =>
    obtain ⟨title, reference⟩ := entry
    by_cases isSet : reference.isSet = true
    · rw [give_cons_of_isSet isSet, List.length_cons, List.length_cons, hypothesis]
    · rw [give_cons_of_not_isSet (by simpa using isSet), List.length_cons, List.length_cons,
        hypothesis]

/-- A run gives to the first sections what it gives to them alone. -/
theorem getElem?_give_take {index other : Nat} (below : other < index) :
    (give options taken (table.take index)).1[other]? = (give options taken table).1[other]? := by
  conv_rhs => rw [← List.take_append_drop index table, give_append]
  by_cases inTable : other < table.length
  · rw [List.getElem?_append_left]
    rw [length_give, List.length_take]
    omega
  · have short : table.take index = table := List.take_of_length_le (by omega)
    have done : table.drop index = [] := List.drop_eq_nil_of_le (by omega)
    rw [short, done, give, List.append_nil]

/-- A run keeps the references that are set, and gives to every other section the one that is
chosen after the sections before it. -/
theorem getElem?_give {index : Nat} {title : String} {reference : Scalar}
    (atTable : table[index]? = some (title, reference)) :
    (give options taken table).1[index]? =
      some (if reference.isSet then reference
        else choose options (give options taken (table.take index)).2 title) := by
  obtain ⟨inTable, atIndex⟩ := List.getElem?_eq_some_iff.1 atTable
  have split : table = table.take index ++ (title, reference) :: table.drop (index + 1) := by
    rw [← atIndex, List.cons_getElem_drop_succ, List.take_append_drop]
  have sameLength : (give options taken (table.take index)).1.length = index := by
    rw [length_give, List.length_take]
    omega
  conv_lhs => rw [split, give_append]
  rw [List.getElem?_append_right (le_of_eq sameLength), sameLength, Nat.sub_self]
  by_cases isSet : reference.isSet = true
  · rw [give_cons_of_isSet isSet, if_pos isSet, List.getElem?_cons_zero]
  · rw [give_cons_of_not_isSet (by simpa using isSet), if_neg isSet, List.getElem?_cons_zero]

/-- In use after a run are the references that were so before it, and those it has given. -/
theorem mem_give {reference : Scalar} :
    reference ∈ (give options taken table).2 ↔ reference ∈ taken ∨
      ∃ entry, (entry, reference) ∈ table.zip (give options taken table).1 ∧
        entry.2.isSet = false := by
  induction table generalizing taken with
  | nil => simp [give]
  | cons entry rest hypothesis =>
    obtain ⟨title, before⟩ := entry
    by_cases isSet : before.isSet = true
    · rw [give_cons_of_isSet isSet, hypothesis]
      simp only [List.zip_cons_cons, List.mem_cons, Prod.mk.injEq]
      refine or_congr_right (exists_congr fun entry => ?_)
      constructor
      · rintro ⟨later, notSet⟩
        exact ⟨.inr later, notSet⟩
      · rintro ⟨⟨rfl, -⟩ | later, notSet⟩
        · simp [isSet] at notSet
        · exact ⟨later, notSet⟩
    · have notSet : before.isSet = false := by simpa using isSet
      rw [give_cons_of_not_isSet notSet, hypothesis]
      simp only [List.zip_cons_cons, List.mem_cons, Prod.mk.injEq]
      constructor
      · rintro ((rfl | inTaken) | ⟨entry, later, entryNotSet⟩)
        · exact .inr ⟨(title, before), .inl ⟨rfl, rfl⟩, notSet⟩
        · exact .inl inTaken
        · exact .inr ⟨entry, .inr later, entryNotSet⟩
      · rintro (inTaken | ⟨entry, ⟨-, rfl⟩ | later, entryNotSet⟩)
        · exact .inl (.inr inTaken)
        · exact .inl (.inl rfl)
        · exact .inr ⟨entry, later, entryNotSet⟩

/-- The references in use before the section at an index are those that the references
afterwards show to be so, if those in use when the run begins are the pinned ones. -/
theorem text_mem_give_take {index : Nat} {reference : String}
    (pinned : ∀ used : String, Scalar.text used ∈ taken ↔
      Scalar.text used ∈ table.map (·.2) ∧ used ≠ "") :
    Scalar.text reference ∈ (give options taken (table.take index)).2 ↔
      InUse table (give options taken table).1 index reference := by
  rw [mem_give, pinned]
  constructor
  · rintro (⟨inTable, notEmpty⟩ | ⟨⟨title, before⟩, given, notSet⟩)
    · obtain ⟨⟨title, before⟩, member, rfl⟩ := List.mem_map.1 inTable
      obtain ⟨other, atTable⟩ := List.mem_iff_getElem?.1 member
      have isSet : (Scalar.text reference).isSet = true := by simpa using notEmpty
      refine ⟨other, title, .text reference, atTable, ?_, .inl isSet⟩
      rw [getElem?_give atTable, if_pos isSet]
    · obtain ⟨other, atOther⟩ := List.mem_iff_getElem?.1 given
      rw [List.getElem?_zip_eq_some] at atOther
      obtain ⟨atTable, atGiven⟩ := atOther
      have below : other < index := by
        by_contra beyond
        rw [List.getElem?_take_eq_none (by omega)] at atTable
        simp at atTable
      rw [List.getElem?_take_of_lt below] at atTable
      rw [getElem?_give_take below] at atGiven
      exact ⟨other, title, before, atTable, atGiven, .inr below⟩
  · rintro ⟨other, title, before, atTable, atGiven, reason⟩
    by_cases isSet : before.isSet = true
    · rw [getElem?_give atTable, if_pos isSet, Option.some.injEq] at atGiven
      subst atGiven
      refine .inl ⟨List.mem_map.2 ⟨_, List.mem_of_getElem? atTable, rfl⟩, ?_⟩
      simpa using isSet
    · have notSet : before.isSet = false := by simpa using isSet
      have below : other < index := reason.resolve_left isSet
      refine .inr ⟨(title, before), List.mem_iff_getElem?.2 ⟨other, ?_⟩, notSet⟩
      rw [List.getElem?_zip_eq_some, List.getElem?_take_of_lt below, getElem?_give_take below]
      exact ⟨atTable, atGiven⟩

/-- A run along a table gives smallest suffixes, if the references in use when it begins are
those that the table pins. -/
theorem give_smallest (fallback : String) (start : Int)
    (pinned : ∀ used : String, Scalar.text used ∈ taken ↔
      Scalar.text used ∈ table.map (·.2) ∧ used ≠ "") :
    Smallest fallback start table
      (give ⟨.text fallback, .int start⟩ taken table).1 := by
  have chosen {index : Nat} {title : String} {reference : Scalar}
      (atTable : table[index]? = some (title, reference)) (notSet : reference.isSet = false) :
      ∃ given : String,
        (give ⟨.text fallback, .int start⟩ taken table).1[index]? = some (.text given) ∧
        FirstForm (InUse table (give ⟨.text fallback, .int start⟩ taken table).1 index)
          (Slug.ofText title fallback) start given ∧
        ¬InUse table (give ⟨.text fallback, .int start⟩ taken table).1 index given := by
    obtain ⟨given, givenEq, form, free⟩ := choose_firstForm fallback start
      (give ⟨.text fallback, .int start⟩ taken (table.take index)).2 title
    refine ⟨given, ?_, form.mono fun used => (text_mem_give_take pinned).1, fun inUse =>
      free ((text_mem_give_take pinned).2 inUse)⟩
    rw [getElem?_give atTable, if_neg (by simp [notSet]), givenEq]
  constructor
  · exact length_give _ _ _
  · intro index title reference atTable isSet
    rw [getElem?_give atTable, if_pos isSet]
  · intro index title reference atTable notSet
    obtain ⟨given, atGiven, form, _⟩ := chosen atTable notSet
    exact ⟨given, atGiven, form⟩
  · intro index title given reference atTable notSet atGiven
    obtain ⟨other, atOther, _, free⟩ := chosen atTable notSet
    rw [atGiven, Option.some.injEq, Scalar.text.injEq] at atOther
    exact atOther ▸ free

/-- Distinct scalars are among those they are picked from. -/
theorem distinct_subset (scalars : List Scalar) : distinct scalars ⊆ scalars := by
  induction scalars with
  | nil => simp [distinct]
  | cons value rest hypothesis =>
    rw [distinct]
    split
    · exact fun _ member => List.mem_cons_of_mem _ (hypothesis member)
    · exact List.cons_subset_cons _ hypothesis

/-- The pinned texts are the references of the tree that are not empty. -/
theorem text_mem_pinned_iff {tree : Tree} {reference : String} :
    Scalar.text reference ∈ pinned tree ↔
      Scalar.text reference ∈ tree.references ∧ reference ≠ "" := by
  constructor
  · intro member
    obtain ⟨inTree, isSet⟩ := List.mem_filter.1 (distinct_subset _ member)
    exact ⟨inTree, by simpa using isSet⟩
  · rintro ⟨inTree, notEmpty⟩
    exact text_mem_pinned inTree notEmpty

/-- A run ends without a fault, and what it makes of a tree is characterised by the references
afterwards: it is the one tree that differs in references only and has smallest suffixes. -/
theorem assign_iff_smallest {fallback : String} {start : Int} (notEmpty : fallback ≠ "")
    (least : 2 ≤ start) (tree other : Tree) :
    (assign ⟨.text fallback, .int start⟩ tree).fault = none ∧
    (other = (assign ⟨.text fallback, .int start⟩ tree).tree ↔
      other.withoutReferences = tree.withoutReferences ∧
        Smallest fallback start tree.referenceTable other.references) := by
  have typed : ReferenceOptions.WellTyped ⟨.text fallback, .int start⟩ :=
    ⟨⟨fallback, rfl, notEmpty⟩, ⟨start, rfl, least⟩⟩
  obtain ⟨references, noFault⟩ := assign_give typed tree
  have frame := withoutReferences_assign ⟨.text fallback, .int start⟩ tree
  have smallest : Smallest fallback start tree.referenceTable
      (assign ⟨.text fallback, .int start⟩ tree).tree.references := by
    rw [references]
    refine give_smallest fallback start fun used => ?_
    rw [← references_eq_table]
    exact text_mem_pinned_iff
  refine ⟨noFault, ?_⟩
  constructor
  · rintro rfl
    exact ⟨frame, smallest⟩
  · rintro ⟨agree, others⟩
    exact eq_of_references (agree.trans frame.symm) (others.unique smallest)

/-- Sections whose slugs look like numbered forms of one another, before a pinned reference
that is such a form, too. -/
def lookalikes : Tree :=
  .node (.document {}) [] [.many
    [ofSection (ofText "A") [ofSection (ofText "A") [], ofSection (ofText "A 2") []],
      ofSection (ofText "A") [], ofSection (ofText "?") [] (.text "a-3")]]

/-- Smallest suffixes pass over forms that other slugs have used or that are pinned behind. -/
theorem assign_lookalikes :
    "section" ≠ "" ∧ (2 : Int) ≤ 2 ∧
    ∀ other : Tree, other.withoutReferences = lookalikes.withoutReferences →
      Smallest "section" 2 lookalikes.referenceTable other.references →
      other.references =
        [.text "a", .text "a-2", .text "a-2-2", .text "a-4", .text "a-3"] := by
  refine ⟨by decide, le_refl 2, fun other agree smallest => ?_⟩
  rw [(assign_iff_smallest (by decide) (le_refl 2) lookalikes other).2.2 ⟨agree, smallest⟩]
  rfl

end Folio.References
