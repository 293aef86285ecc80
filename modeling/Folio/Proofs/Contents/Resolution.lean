import Folio.Proofs.Contents.Required
import Folio.Proofs.References.Replaced
import Folio.Proofs.References.Uniqueness

/-!
# Tables after references have been given

A table of contents that requires references is built from a tree whose sections have just been
given theirs. It is never refused for a missing reference, and as duplicates it refuses only
what was pinned twice before: a generated reference differs from those of all other sections,
wherever these lie, so in particular from those of the listed ones. The two runs are joined
place by place: what is listed before and after are the same sections, and their references
before and after are picked from the same places of the whole document.
-/

namespace Folio

/-- Neither of two scalars has the value of the other. -/
def Scalar.Differ (first second : Scalar) : Prop :=
  first.same second = false ∧ second.same first = false

/-- Scalars that differ do so in both directions. -/
theorem Scalar.Differ.symm {first second : Scalar} (differ : first.Differ second) :
    second.Differ first :=
  ⟨differ.2, differ.1⟩

/-- A scalar that is not a text differs from it. -/
theorem Scalar.differ_text {value : String} {other : Scalar} (ne : other ≠ .text value) :
    other.Differ (.text value) := by
  constructor
  · rw [← Bool.not_eq_true, Scalar.same_text_iff]
    exact ne
  · rw [← Bool.not_eq_true, Scalar.text_same_iff]
    exact ne

namespace Contents

open References

variable {options : ContentsOptions}

/-- Trees that agree without references are listed alike. -/
theorem isListed_eq {tree other : Tree}
    (agree : tree.withoutReferences = other.withoutReferences) (level : Nat) :
    isListed options level tree = isListed options level other := by
  rw [isListed, isListed, Tree.isA_section_eq agree]

/-- References picked from two trees stand at the same places among all references. -/
def PickedAlike (picked : Tree → List Scalar) (tree other : Tree) : Prop :=
  (picked tree).length = (picked other).length ∧
    ((picked tree).zip (picked other)).Sublist (tree.references.zip other.references)

/-- References picked from each of several trees stand at the same places among those of all. -/
theorem PickedAlike.flatMap {picked : Tree → List Scalar} {trees others : List Tree}
    (each : ∀ tree ∈ trees, ∀ other : Tree,
      tree.withoutReferences = other.withoutReferences → PickedAlike picked tree other)
    (agree : trees.map Tree.withoutReferences = others.map Tree.withoutReferences) :
    (trees.flatMap picked).length = (others.flatMap picked).length ∧
      ((trees.flatMap picked).zip (others.flatMap picked)).Sublist
        ((trees.flatMap Tree.references).zip (others.flatMap Tree.references)) := by
  induction trees generalizing others with
  | nil =>
    obtain rfl : others = [] := List.map_eq_nil_iff.1 agree.symm
    exact ⟨rfl, List.Sublist.refl _⟩
  | cons tree rest hypothesis =>
    obtain _ | ⟨other, others⟩ := others
    · simp at agree
    rw [List.map_cons, List.map_cons, List.cons.injEq] at agree
    obtain ⟨sameLength, here⟩ := each tree List.mem_cons_self other agree.1
    obtain ⟨laterLength, later⟩ :=
      hypothesis (fun tree member => each tree (List.mem_cons_of_mem _ member)) agree.2
    simp only [List.flatMap_cons]
    constructor
    · rw [List.length_append, List.length_append, sameLength, laterLength]
    · rw [List.zip_append sameLength, List.zip_append (Tree.length_references_eq agree.1)]
      exact here.append later

/-- The references of the listed sections stand at the same places in trees that agree without
references. -/
theorem listed_pickedAlike (level : Nat) {tree other : Tree}
    (agree : tree.withoutReferences = other.withoutReferences) :
    PickedAlike (fun tree => (listed options level tree).map Tree.reference) tree other := by
  induction tree using Tree.childInduction generalizing other level with
  | step tree below =>
    have inside (level : Nat) := PickedAlike.flatMap
      (fun child member _ agree => below child member level agree) (Tree.children_agree agree)
    have sameListed : isListed options level tree = isListed options level other :=
      isListed_eq agree level
    rw [PickedAlike, Tree.references_eq, Tree.references_eq other,
      ← Tree.isA_section_eq agree]
    by_cases isListed : isListed options level tree = true
    · obtain ⟨sameLength, places⟩ := inside (level + 1)
      have isSection := isSection_of_isListed isListed
      rw [listed_of_listed isListed, listed_of_listed (sameListed ▸ isListed), if_pos isSection]
      simp only [List.map_cons, List.map_flatMap, List.length_cons, List.zip_cons_cons,
        List.singleton_append, if_pos isSection]
      exact ⟨congrArg Nat.succ sameLength, places.cons_cons _⟩
    · have notListed : Contents.isListed options level tree = false := by simpa using isListed
      obtain ⟨sameLength, places⟩ := inside level
      rw [listed_of_not_listed notListed, listed_of_not_listed (sameListed ▸ notListed)]
      simp only [List.map_flatMap]
      refine ⟨sameLength, places.trans ?_⟩
      rw [List.zip_append (by split <;> rfl)]
      exact List.sublist_append_right _ _

/-- Two references are set, and the later one has the value of the earlier one. -/
def PinnedTwice (references : List Scalar) : Prop :=
  ∃ first second, [first, second].Sublist references ∧ first.isSet = true ∧
    second.isSet = true ∧ second.same first = true

/-- No reference is pinned twice if those that are set differ pairwise. -/
theorem not_pinnedTwice_iff {references : List Scalar} :
    ¬PinnedTwice references ↔ references.Pairwise fun first second =>
      first.isSet = true → second.isSet = true → second.same first = false := by
  rw [List.pairwise_iff_forall_sublist]
  constructor
  · intro once first second places firstSet secondSet
    rw [← Bool.not_eq_true]
    intro same
    exact once ⟨first, second, places, firstSet, secondSet, same⟩
  · rintro apart ⟨first, second, places, firstSet, secondSet, same⟩
    rw [apart places firstSet secondSet] at same
    exact Bool.false_ne_true same

/-- References before and after, place by place: set ones stay, and two differ in the end unless
both were set. -/
structure Settles (pairs : List (Scalar × Scalar)) : Prop where
  kept : ∀ pair ∈ pairs, pair.1.isSet = true → pair.2 = pair.1
  differ : pairs.Pairwise fun first second =>
    ¬(first.1.isSet = true ∧ second.1.isSet = true) → first.2.Differ second.2

namespace Settles

variable {pairs : List (Scalar × Scalar)}

/-- What holds at all places holds at some of them. -/
theorem sublist {fewer : List (Scalar × Scalar)} (settles : Settles pairs)
    (places : fewer.Sublist pairs) : Settles fewer where
  kept pair member := settles.kept pair (places.subset member)
  differ := settles.differ.sublist places

/-- References are distinct in the end unless some were pinned twice. -/
theorem distinct_iff (settles : Settles pairs) :
    Distinct (pairs.map (·.2)) ↔ ¬PinnedTwice (pairs.map (·.1)) := by
  rw [not_pinnedTwice_iff, Distinct, List.pairwise_map, List.pairwise_map]
  constructor
  · intro distinct
    refine distinct.imp_of_mem fun {first second} inFirst inSecond apart firstSet secondSet => ?_
    rw [← settles.kept first inFirst firstSet, ← settles.kept second inSecond secondSet]
    exact apart
  · intro once
    refine (once.and settles.differ).imp_of_mem
      fun {first second} inFirst inSecond held => ?_
    obtain ⟨apart, differ⟩ := held
    by_cases both : first.1.isSet = true ∧ second.1.isSet = true
    · rw [settles.kept first inFirst both.1, settles.kept second inSecond both.2]
      exact apart both.1 both.2
    · exact (differ both).2

/-- If the references that were set differ, all do in the end. -/
theorem pairwise_differ (settles : Settles pairs)
    (pinned : ((pairs.map (·.1)).filter Scalar.isSet).Pairwise Scalar.Differ) :
    (pairs.map (·.2)).Pairwise Scalar.Differ := by
  rw [List.pairwise_filter, List.pairwise_map] at pinned
  rw [List.pairwise_map]
  refine (pinned.and settles.differ).imp_of_mem
    fun {first second} inFirst inSecond held => ?_
  obtain ⟨apart, differ⟩ := held
  by_cases both : first.1.isSet = true ∧ second.1.isSet = true
  · rw [settles.kept first inFirst both.1, settles.kept second inSecond both.2]
    exact apart both.1 both.2
  · exact differ both

end Settles

/-- A target is one of some references, and no other of them has its value. -/
def Designates (references : List Scalar) (target : Scalar) : Prop :=
  ∃ index : Nat, references[index]? = some target ∧ ∀ (other : Nat) (reference : Scalar),
    references[other]? = some reference → reference.same target = true → other = index

/-- Each of some references that differ is designated by itself. -/
theorem designates_of_differ {references : List Scalar} {target : Scalar}
    (differ : references.Pairwise Scalar.Differ) (member : target ∈ references) :
    Designates references target := by
  obtain ⟨index, inReferences, rfl⟩ := List.getElem_of_mem member
  refine ⟨index, List.getElem?_eq_getElem inReferences, fun other reference atOther same => ?_⟩
  obtain ⟨otherIn, rfl⟩ := List.getElem?_eq_some_iff.1 atOther
  rw [List.pairwise_iff_getElem] at differ
  rcases lt_trichotomy other index with before | equal | behind
  · rw [(differ other index otherIn inReferences before).1] at same
    exact absurd same Bool.false_ne_true
  · exact equal
  · rw [(differ index other inReferences otherIn behind).2] at same
    exact absurd same Bool.false_ne_true

variable {references : ReferenceOptions} {contents : ContentsOptions}

/-- A run settles the references of a tree. -/
theorem assign_settles (typed : references.WellTyped) (tree : Tree) :
    Settles (tree.references.zip (assign references tree).tree.references) := by
  have completes := assign_completes typed tree
  have generated : ∀ pair ∈ tree.references.zip (assign references tree).tree.references,
      pair.1.isSet = false → ∃ reference : String, pair.2 = .text reference := by
    intro pair member notSet
    rw [(assign_give typed tree).1, Tree.references_eq_table] at member
    obtain ⟨reference, isText, _⟩ := give_fresh typed _ _ pair member notSet
    exact ⟨reference, isText⟩
  refine ⟨completes.kept, completes.apart.imp_of_mem
    fun {first second} inFirst inSecond apart notBoth => ?_⟩
  -- One of the two was generated, and it is a text that the other one is not.
  by_cases firstSet : first.1.isSet = true
  · have notSet : second.1.isSet = false := by simpa [firstSet] using notBoth
    obtain ⟨reference, isText⟩ := generated second inSecond notSet
    have ne : first.2 ≠ .text reference := isText ▸ apart notBoth
    exact isText ▸ Scalar.differ_text ne
  · obtain ⟨reference, isText⟩ := generated first inFirst (by simpa using firstSet)
    have ne : second.2 ≠ .text reference := isText ▸ (apart notBoth).symm
    exact isText ▸ (Scalar.differ_text ne).symm

/-- The listed references after a run are among those of the whole tree, and distinct unless two
listed sections had one pinned. -/
theorem listed_assign (typed : references.WellTyped) (contents : ContentsOptions) (tree : Tree) :
    let done := (assign references tree).tree
    let before := (listed contents 0 tree).map Tree.reference
    let after := (listed contents 0 done).map Tree.reference
    after.Sublist done.references ∧ (Distinct after ↔ ¬PinnedTwice before) := by
  intro done before after
  obtain ⟨sameLength, places⟩ : PickedAlike
      (fun tree => (listed contents 0 tree).map Tree.reference) tree done :=
    listed_pickedAlike 0 (withoutReferences_assign references tree).symm
  have allAfter : (tree.references.zip done.references).map (·.2) = done.references :=
    List.map_snd_zip (le_of_eq (assign_completes typed tree).length_eq)
  have listedBefore : (before.zip after).map (·.1) = before :=
    List.map_fst_zip (le_of_eq sameLength)
  have listedAfter : (before.zip after).map (·.2) = after :=
    List.map_snd_zip (le_of_eq sameLength.symm)
  constructor
  · rw [← allAfter, ← listedAfter]
    exact places.map _
  · have distinct := ((assign_settles typed tree).sublist places).distinct_iff
    rwa [listedAfter, listedBefore] at distinct

/-- If all references that were set differ, all references differ after a run. -/
theorem assign_differ (typed : references.WellTyped) {tree : Tree}
    (pinned : (tree.references.filter Scalar.isSet).Pairwise Scalar.Differ) :
    (assign references tree).tree.references.Pairwise Scalar.Differ := by
  have sameLength := (assign_completes typed tree).length_eq
  have differ := (assign_settles typed tree).pairwise_differ
  rw [List.map_fst_zip (le_of_eq sameLength.symm), List.map_snd_zip (le_of_eq sameLength)]
    at differ
  exact differ pinned

/-- After a run that ends without a fault, a table of contents that requires references is never
refused for a missing one, and it is refused for a duplicate if and only if two listed sections
had one reference before the run. Otherwise its links, without those inside of labels, lead to
the listed sections in the order of a visit, and are distinct; if all references that were set
before differed, every link designates one section of the whole tree. -/
theorem build_assign (typed : references.WellTyped)
    (required : contents.requireReferences.isSet = true) (tree : Tree) :
    let done := (assign references tree).tree
    let before := (listed contents 0 tree).map Tree.reference
    let after := (listed contents 0 done).map Tree.reference
    (assign references tree).fault = none ∧ after.Sublist done.references ∧
    (∀ title, (build contents done).value ≠ .error (.missing title)) ∧
    ((∃ reference, (build contents done).value = .error (.duplicate reference)) ↔
      PinnedTwice before) ∧
    (¬PinnedTwice before → ∃ table, (build contents done).value = .ok table ∧
      Outline.referencesAll (Outline.ofContents table) = after ∧ Distinct after ∧
      ((tree.references.filter Scalar.isSet).Pairwise Scalar.Differ →
        ∀ target ∈ after, Designates done.references target)) := by
  intro done before after
  obtain ⟨inAll, distinct⟩ := listed_assign typed contents tree
  have set : ∀ visited ∈ listed contents 0 done, visited.reference.isSet = true :=
    fun visited member =>
      (assign_completes typed tree).given _ (inAll.subset (List.mem_map_of_mem member))
  obtain ⟨shown, refused⟩ := build_of_isSet required set
  refine ⟨(assign_give typed tree).2, inAll, ?missing, ?duplicate, ?links⟩
  case missing =>
    intro title missing
    by_cases apart : Distinct after
    · rw [shown apart] at missing
      cases missing
    · obtain ⟨reference, duplicate⟩ := refused apart
      rw [duplicate] at missing
      cases missing
  case duplicate =>
    constructor
    · rintro ⟨reference, duplicate⟩
      by_contra once
      rw [shown (distinct.2 once)] at duplicate
      cases duplicate
    · intro twice
      exact refused fun apart => distinct.1 apart twice
  case links =>
    intro once
    refine ⟨_, shown (distinct.2 once), referencesAll_forestWithin contents 0 done,
      distinct.2 once, ?_⟩
    intro pinned target member
    exact designates_of_differ (assign_differ typed pinned) (inAll.subset member)

/-- A section with a section in its title and one in its body, which holds, deeper than two
levels, a section that has pinned the slug of all of them. -/
def pinnedBelow : Tree :=
  .node (.document {}) [] [.many
    [Tree.ofSection (Tree.ofList .bold [Tree.ofSection (Tree.ofText "A") []])
      [Tree.ofSection (Tree.ofText "A") [Tree.ofSection (Tree.ofText "deep") [] (.text "a")]]]]

/-- A table of two levels links to the three listed sections, whose references avoid the one
that is not listed. -/
theorem build_pinnedBelow :
    let contents : ContentsOptions := { requireReferences := .bool true, maxDepth := .int 2 }
    let done := (assign {} pinnedBelow).tree
    ReferenceOptions.WellTyped {} ∧ contents.requireReferences.isSet = true ∧
    ∃ table, (build contents done).value = .ok table ∧
      Outline.referencesAll (Outline.ofContents table) =
        [.text "a-2", .text "a-3", .text "a-4"] ∧
      ∀ target ∈ [Scalar.text "a-2", .text "a-3", .text "a-4"],
        Designates done.references target := by
  intro contents done
  have typed := ReferenceOptions.wellTyped_default
  have before : (listed contents 0 pinnedBelow).map Tree.reference =
      [.text "", .text "", .text ""] := by cbv
  have result : done = .node (.document {}) [] [.many
      [Tree.ofSection (Tree.ofList .bold [Tree.ofSection (Tree.ofText "A") [] (.text "a-3")])
        [Tree.ofSection (Tree.ofText "A")
          [Tree.ofSection (Tree.ofText "deep") [] (.text "a")] (.text "a-4")]
        (.text "a-2")]] := rfl
  have after : (listed contents 0 done).map Tree.reference =
      [.text "a-2", .text "a-3", .text "a-4"] := by
    rw [result]
    cbv
  have pinned : pinnedBelow.references.filter Scalar.isSet = [.text "a"] := rfl
  have required : contents.requireReferences.isSet = true := rfl
  obtain ⟨_, _, _, _, shows⟩ := build_assign typed required pinnedBelow
  rw [before, after, pinned] at shows
  have once : ¬PinnedTwice [Scalar.text "", .text "", .text ""] :=
    not_pinnedTwice_iff.2 (by simp)
  obtain ⟨table, built, links, _, designated⟩ := shows once
  exact ⟨typed, required, table, built, links, designated (List.pairwise_singleton _ _)⟩

end Contents

end Folio
