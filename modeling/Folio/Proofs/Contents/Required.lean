import Folio.Outline
import Folio.Proofs.Contents.Nesting

/-!
# Tables with required references

If references are required and the listed sections have them, a table of contents is refused
for one reason only: a reference with the value of an earlier one. What the table shows is then
read off its outline, where the link of an item comes first and the label of a link is not
looked into; in this order the links lead to the listed sections.
-/

namespace Folio

namespace Outline

mutual

/-- The references of an entry and of the entries below it, in the order they are shown. -/
def references : Outline → List Scalar
  | .entry _ reference below => reference :: referencesAll below

/-- The references of neighbours and of the entries below them. -/
def referencesAll : List Outline → List Scalar
  | [] => []
  | first :: rest => references first ++ referencesAll rest

end

/-- Joined outlines have their references one after the other. -/
theorem referencesAll_append (first second : List Outline) :
    referencesAll (first ++ second) = referencesAll first ++ referencesAll second := by
  induction first with
  | nil => rfl
  | cons entry rest hypothesis =>
    rw [List.cons_append, referencesAll, referencesAll, hypothesis, List.append_assoc]

/-- Joined items have their entries one after the other. -/
theorem ofItems_append (first second : List Tree) :
    ofItems (first ++ second) = ofItems first ++ ofItems second := by
  induction first with
  | nil => rfl
  | cons item rest hypothesis =>
    rw [List.cons_append, ofItems, ofItems, hypothesis, List.cons_append]

/-- The entries for the items of several trees show the references of each tree in turn. -/
theorem referencesAll_flatMap {trees : List Tree} {items : Tree → List Tree}
    {shown : Tree → List Scalar}
    (each : ∀ tree ∈ trees, referencesAll (ofItems (items tree)) = shown tree) :
    referencesAll (ofItems (trees.flatMap items)) = trees.flatMap shown := by
  induction trees with
  | nil => rfl
  | cons tree rest hypothesis =>
    rw [List.flatMap_cons, List.flatMap_cons, ofItems_append, referencesAll_append,
      each tree List.mem_cons_self,
      hypothesis fun other member => each other (List.mem_cons_of_mem _ member)]

/-- The entries of the nested list of an item, which is there only if it has items. -/
theorem ofLists_nested (below : List Tree) :
    ofLists (if below.isEmpty then [] else [Tree.orderedList below]) = ofItems below := by
  cases below with
  | nil => rfl
  | cons first rest => exact List.append_nil _

/-- The entry of an item is labelled with its link, and below it are the entries of the items in
it. -/
theorem ofItem_itemOf (visited : Tree) (below : List Tree) :
    ofItem (Contents.itemOf visited below) =
      .entry (Contents.linkTo visited).text visited.reference (ofItems below) :=
  congrArg (Outline.entry _ _) (ofLists_nested below)

/-- The entry of an item shows the reference of its section and then those below. -/
theorem references_itemOf (visited : Tree) (below : List Tree) :
    references (ofItem (Contents.itemOf visited below)) =
      visited.reference :: referencesAll (ofItems below) := by
  rw [ofItem_itemOf, references]

end Outline

namespace Contents

variable {options : ContentsOptions}

/-- The links of a table, without those inside of labels, lead to the listed sections in the
order of a visit. -/
theorem referencesAll_forestWithin (options : ContentsOptions) (level : Nat) (tree : Tree) :
    Outline.referencesAll (Outline.ofItems (forestWithin options level tree)) =
      (listed options level tree).map Tree.reference := by
  induction tree using Tree.childInduction generalizing level with
  | step tree below =>
    have inside (level : Nat) : Outline.referencesAll (Outline.ofItems
        (tree.children.flatMap (forestWithin options level))) =
        (tree.children.flatMap (listed options level)).map Tree.reference := by
      rw [List.map_flatMap]
      exact Outline.referencesAll_flatMap fun child member => below child member level
    by_cases isListed : isListed options level tree = true
    · rw [forestWithin_of_listed isListed, listed_of_listed isListed, List.map_cons, ← inside,
        Outline.ofItems, Outline.ofItems, Outline.referencesAll, Outline.references_itemOf]
      exact List.append_nil _
    · have notListed : Contents.isListed options level tree = false := by simpa using isListed
      rw [forestWithin_of_not_listed notListed, listed_of_not_listed notListed, inside]

/-- No reference has the value of one that was seen before it. -/
def Fresh : List Scalar → List Scalar → Prop
  | _, [] => True
  | seen, reference :: rest => seen.any reference.same = false ∧ Fresh (reference :: seen) rest

/-- No reference has the value of an earlier one. -/
def Distinct (references : List Scalar) : Prop :=
  references.Pairwise fun first second => second.same first = false

/-- References are fresh if they differ from the seen ones and each from those before it. -/
theorem fresh_iff {seen references : List Scalar} :
    Fresh seen references ↔
      (∀ reference ∈ references, seen.any reference.same = false) ∧ Distinct references := by
  induction references generalizing seen with
  | nil => simp [Fresh, Distinct]
  | cons reference rest hypothesis =>
    rw [Fresh, hypothesis, Distinct, Distinct, List.pairwise_cons, List.forall_mem_cons]
    simp only [List.any_cons, Bool.or_eq_false_iff]
    constructor
    · rintro ⟨here, later, apart⟩
      exact ⟨⟨here, fun other member => (later other member).2⟩,
        fun other member => (later other member).1, apart⟩
    · rintro ⟨⟨here, later⟩, first, apart⟩
      exact ⟨here, fun other member => ⟨first other member, later other member⟩, apart⟩

/-- A required reference that is set is refused only if it was seen. -/
theorem checkReference_of_isSet (required : options.requireReferences.isSet = true)
    {visited : Tree} (isSet : visited.reference.isSet = true) (state : State) :
    checkReference options visited state =
      if state.seen.any visited.reference.same then .error (.duplicate visited.reference)
      else .ok { state with seen := visited.reference :: state.seen } := by
  simp only [checkReference, isSet, required, Bool.not_true, Bool.false_eq_true, if_false,
    if_true]

/-- Required references that are set pass if they are fresh, and otherwise one of them is
refused as a duplicate. -/
theorem checkAll_of_isSet (required : options.requireReferences.isSet = true) (state : State)
    {sections : List Tree} (set : ∀ visited ∈ sections, visited.reference.isSet = true) :
    match checkAll options state sections with
    | .ok _ => Fresh state.seen (sections.map Tree.reference)
    | .error refusal => (∃ reference, refusal.1 = .duplicate reference) ∧
        ¬Fresh state.seen (sections.map Tree.reference) := by
  induction sections generalizing state with
  | nil => trivial
  | cons visited rest hypothesis =>
    obtain ⟨isSet, setLater⟩ := List.forall_mem_cons.1 set
    rw [checkAll, checkReference_of_isSet required isSet, List.map_cons, Fresh]
    by_cases repeated : state.seen.any visited.reference.same = true
    · rw [if_pos repeated]
      refine ⟨⟨_, rfl⟩, ?_⟩
      rintro ⟨fresh, -⟩
      simp [fresh] at repeated
    · have fresh : state.seen.any visited.reference.same = false := by simpa using repeated
      have later := hypothesis { state with seen := visited.reference :: state.seen } setLater
      rw [if_neg repeated]
      simp only [fresh, true_and]
      exact later

/-- A table with required references, which all listed sections have, holds the items of the
tree if these references are distinct, and is otherwise refused as showing one twice. -/
theorem build_of_isSet (required : options.requireReferences.isSet = true) {tree : Tree}
    (set : ∀ visited ∈ listed options 0 tree, visited.reference.isSet = true) :
    (Distinct ((listed options 0 tree).map Tree.reference) →
      (build options tree).value = .ok (Tree.orderedList (forestWithin options 0 tree))) ∧
    (¬Distinct ((listed options 0 tree).map Tree.reference) →
      ∃ reference, (build options tree).value = .error (.duplicate reference)) := by
  have checks := checkAll_of_isSet required { stack := [OpenSection.bottom] } set
  have fresh : Fresh [] ((listed options 0 tree).map Tree.reference) ↔
      Distinct ((listed options 0 tree).map Tree.reference) := by
    rw [fresh_iff, Distinct]
    simp
  rw [build_eq]
  cases checked : checkAll options { stack := [OpenSection.bottom] } (listed options 0 tree) with
  | ok last =>
    rw [checked] at checks
    exact ⟨fun _ => rfl, fun repeated => absurd (fresh.1 checks) repeated⟩
  | error refusal =>
    rw [checked] at checks
    obtain ⟨⟨reference, cause⟩, repeated⟩ := checks
    exact ⟨fun distinct => absurd (fresh.2 distinct) repeated,
      fun _ => ⟨reference, congrArg Except.error cause⟩⟩

end Contents

end Folio
