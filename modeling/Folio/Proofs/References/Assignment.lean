import Folio.Proofs.Options
import Folio.Proofs.References.Search
import Folio.Proofs.Tree.Relabelling

/-!
# Runs that give references

A run is told by what it does along the sections of a tree, in the order of a visit. `Along`
holds the visits of the sections in a table, and `assignTree_along` says that a run on a tree is
such visits. With well-typed options they are what `give` does, which goes through titles and
references with the list of references in use, and end without a fault; and a run changes
nothing but references. What a run guarantees is then a law about lists.
-/

namespace Folio

/-- A slug is not empty unless its fallback is. -/
theorem Slug.ofText_ne_empty (title : String) {fallback : String} (notEmpty : fallback ≠ "") :
    Slug.ofText title fallback ≠ "" := by
  rw [Slug.ofText, Slug.ofText?]
  split
  · simpa using notEmpty
  · rename_i slug isNotNil
    intro empty
    exact isNotNil (by simpa using congrArg String.toList empty)

namespace Tree

/-- The title text and reference that a node itself has in the table of sections. -/
def ownEntry (slots : List (Slot Tree)) : Head → List (String × Scalar)
  | .section reference => [((titleIn slots).text, reference)]
  | _ => []

/-- The table of sections begins with the node itself and goes on with its children. -/
theorem referenceTable_node (head : Head) (metadata : Json.Members)
    (slots : List (Slot Tree)) :
    (Tree.node head metadata slots).referenceTable =
      ownEntry slots head ++ (slots.flatMap Slot.toList).flatMap referenceTable := by
  rw [referenceTable, sections_eq, List.map_append, List.map_flatMap, children]
  congr 1
  rw [isA_section]
  cases head <;> rfl

/-- References are the second column of the table of sections. -/
theorem references_eq_table (tree : Tree) : tree.references = tree.referenceTable.map (·.2) := by
  rw [references, referenceTable, List.map_map]
  rfl

/-- The references of several trees are those in their tables. -/
theorem references_eq_tables (trees : List Tree) :
    trees.flatMap references = (trees.flatMap referenceTable).map (·.2) := by
  rw [List.map_flatMap]
  exact List.flatMap_congr fun tree _ => references_eq_table tree

/-- The references begin with that of the node itself and go on with those of its children. -/
theorem references_node (head : Head) (metadata : Json.Members) (slots : List (Slot Tree)) :
    (Tree.node head metadata slots).references =
      (ownEntry slots head).map (·.2) ++ (slots.flatMap Slot.toList).flatMap references := by
  rw [references_eq_table, referenceTable_node, List.map_append, references_eq_tables]

end Tree

namespace References

open Folio.Tree

/-- The reference that is chosen for a title while some references are in use. -/
def choose (options : ReferenceOptions) (taken : List Scalar) (title : String) : Scalar :=
  unique taken ((options.suffixStart.scalar?).getD (.int 2))
    (.text (Slug.ofText title options.fallbackSlug.plain))

/-- What a run does along a table of sections: the references afterwards, and those in use. -/
def give (options : ReferenceOptions) :
    List Scalar → List (String × Scalar) → List Scalar × List Scalar
  | taken, [] => ([], taken)
  | taken, (title, reference) :: rest =>
    if reference.isSet then
      let (others, last) := give options taken rest
      (reference :: others, last)
    else
      let chosen := choose options taken title
      let (others, last) := give options (chosen :: taken) rest
      (chosen :: others, last)

/-- A reference that is set is left as it is. -/
theorem give_cons_of_isSet {options : ReferenceOptions} {taken : List Scalar} {title : String}
    {reference : Scalar} {rest : List (String × Scalar)} (isSet : reference.isSet = true) :
    give options taken ((title, reference) :: rest) =
      (reference :: (give options taken rest).1, (give options taken rest).2) := by
  rw [give, if_pos isSet]

/-- A section without a reference is given one, which is then in use. -/
theorem give_cons_of_not_isSet {options : ReferenceOptions} {taken : List Scalar}
    {title : String} {reference : Scalar} {rest : List (String × Scalar)}
    (notSet : reference.isSet = false) :
    give options taken ((title, reference) :: rest) =
      (choose options taken title :: (give options (choose options taken title :: taken) rest).1,
        (give options (choose options taken title :: taken) rest).2) := by
  rw [give, if_neg (by simp [notSet])]

/-- A run along joined tables is one run after the other. -/
theorem give_append (options : ReferenceOptions) (taken : List Scalar)
    (first second : List (String × Scalar)) :
    give options taken (first ++ second) =
      ((give options taken first).1 ++ (give options (give options taken first).2 second).1,
        (give options (give options taken first).2 second).2) := by
  induction first generalizing taken with
  | nil => rfl
  | cons entry rest hypothesis =>
    obtain ⟨title, reference⟩ := entry
    by_cases isSet : reference.isSet = true
    · rw [List.cons_append, give_cons_of_isSet isSet, give_cons_of_isSet isSet, hypothesis,
        List.cons_append]
    · have notSet : reference.isSet = false := by simpa using isSet
      rw [List.cons_append, give_cons_of_not_isSet notSet, give_cons_of_not_isSet notSet,
        hypothesis, List.cons_append]

/-- A run on joined lists is one run after the other. -/
theorem assignAll_append (options : ReferenceOptions) (depth : Int) (state : State)
    (first second : List Tree) :
    assignAll options depth state (first ++ second) =
      let here := assignAll options depth state first
      let later := assignAll options depth here.2 second
      (here.1 ++ later.1, later.2) := by
  induction first generalizing state with
  | nil => rfl
  | cons tree rest hypothesis => simp only [List.cons_append, assignAll, hypothesis]

variable {options : ReferenceOptions}

/-- The sections of a table are visited one after another, each at some depth: the references
that they have afterwards, and the state in which this ends. -/
inductive Along (options : ReferenceOptions) :
    State → List (String × Scalar) → List Scalar → State → Prop where
  | nil {state} : Along options state [] [] state
  | cons {state title reference rest others last} (depth : Int)
      (later : Along options (visitSection options depth title reference state).2 rest others
        last) :
      Along options state ((title, reference) :: rest)
        ((visitSection options depth title reference state).1 :: others) last

/-- Visits along joined tables are visits along one table after the other. -/
theorem Along.append {state between last : State} {first second : List (String × Scalar)}
    {before after : List Scalar} (left : Along options state first before between)
    (right : Along options between second after last) :
    Along options state (first ++ second) (before ++ after) last := by
  induction left with
  | nil => exact right
  | cons depth _ hypothesis => exact .cons depth (hypothesis right)

/-- A visit of a node is one of its entry in the table. -/
theorem visitHead_along (options : ReferenceOptions) (depth : Int) (slots : List (Slot Tree))
    (state : State) (head : Head) :
    Along options state (ownEntry slots head)
      ((ownEntry slots (visitHead options depth slots state head).1).map (·.2))
      (visitHead options depth slots state head).2 := by
  cases head with
  | «section» reference => exact .cons depth .nil
  | _ => exact .nil

mutual

/-- A run on a tree visits the sections of its table. -/
theorem assignTree_along (depth : Int) (state : State) : ∀ tree : Tree,
    Along options state tree.referenceTable (assignTree options depth state tree).1.references
      (assignTree options depth state tree).2
  | .stray value => .nil
  | .node head metadata slots => by
    have here := visitHead_along options depth slots state head
    have below := assignSlots_along (depth + 1) (visitHead options depth slots state head).2 slots
    rw [referenceTable_node, assignTree, references_node]
    -- The title among the slots afterwards is not the one before, but only the second column
    -- of the entry is read.
    have sameEntry (after : List (Slot Tree)) (changed : Head) :
        (ownEntry after changed).map (·.2) = (ownEntry slots changed).map (·.2) := by
      cases changed <;> rfl
    rw [sameEntry]
    exact here.append below

/-- A run on some slots visits the sections in them. -/
theorem assignSlots_along (depth : Int) (state : State) : ∀ slots : List (Slot Tree),
    Along options state ((slots.flatMap Slot.toList).flatMap referenceTable)
      (((assignSlots options depth state slots).1.flatMap Slot.toList).flatMap references)
      (assignSlots options depth state slots).2
  | [] => .nil
  | .one tree :: rest => by
    have here := assignTree_along depth state tree
    have later := assignSlots_along depth (assignTree options depth state tree).2 rest
    simpa [assignSlots, Slot.toList] using here.append later
  | .many trees :: rest => by
    have here := assignAll_along depth state trees
    have later := assignSlots_along depth (assignAll options depth state trees).2 rest
    simpa [assignSlots, Slot.toList] using here.append later

/-- A run on several trees visits the sections in them. -/
theorem assignAll_along (depth : Int) (state : State) : ∀ trees : List Tree,
    Along options state (trees.flatMap referenceTable)
      ((assignAll options depth state trees).1.flatMap references)
      (assignAll options depth state trees).2
  | [] => .nil
  | tree :: rest => by
    have here := assignTree_along depth state tree
    have later := assignAll_along depth (assignTree options depth state tree).2 rest
    simpa [assignAll] using here.append later

end

/-- Well-typed options give every title a slug. -/
theorem slugOf_eq (typed : options.WellTyped) (title : String) :
    slugOf options title = .ok (.text (Slug.ofText title options.fallbackSlug.plain)) := by
  obtain ⟨fallback, fallbackEq, _⟩ := typed.fallback
  rw [slugOf, Slug.ofText, fallbackEq]
  cases Slug.ofText? title with
  | none => rfl
  | some slug => rfl

/-- The chosen reference is a text that is not empty and not in use. -/
theorem choose_text (typed : options.WellTyped) (taken : List Scalar) (title : String) :
    ∃ reference : String, choose options taken title = .text reference ∧
      reference ≠ "" ∧ Scalar.text reference ∉ taken := by
  obtain ⟨fallback, fallbackEq, fallbackNotEmpty⟩ := typed.fallback
  obtain ⟨start, startEq, _⟩ := typed.start
  have notEmpty : Slug.ofText title options.fallbackSlug.plain ≠ "" := by
    rw [fallbackEq]
    exact Slug.ofText_ne_empty title fallbackNotEmpty
  rw [choose, startEq]
  exact unique_text taken start notEmpty

/-- What a visit does: it is `give` on the entry, and there is no fault. -/
theorem visitSection_give (typed : options.WellTyped) (depth : Int) (title : String)
    (reference : Scalar) {state : State} (noFault : state.fault = none) :
    ([(visitSection options depth title reference state).1],
        (visitSection options depth title reference state).2.taken) =
      give options state.taken [(title, reference)] ∧
    (visitSection options depth title reference state).2.fault = none := by
  by_cases isSet : reference.isSet = true
  · simp [visitSection, isSet, noFault, give]
  · have notSet : reference.isSet = false := by simpa using isSet
    obtain ⟨chosen, chosenEq, _, notTaken⟩ := choose_text typed state.taken title
    have free := isTaken_text_eq_false.2 notTaken
    rw [← chosenEq, choose] at free
    simp [visitSection, notSet, noFault, give, slugOf_eq typed, choose, free]

/-- Visits along a table are `give` on it, and end without a fault. -/
theorem Along.give (typed : options.WellTyped) {state last : State}
    {table : List (String × Scalar)} {after : List Scalar}
    (along : Along options state table after last) (noFault : state.fault = none) :
    (after, last.taken) = References.give options state.taken table ∧ last.fault = none := by
  induction along with
  | nil => exact ⟨rfl, noFault⟩
  | @cons state title reference rest others last depth _ hypothesis =>
    obtain ⟨here, stillNone⟩ := visitSection_give typed depth title reference noFault
    obtain ⟨later, finallyNone⟩ := hypothesis stillNone
    refine ⟨?_, finallyNone⟩
    have split : (title, reference) :: rest = [(title, reference)] ++ rest := rfl
    rw [split, give_append, ← here, ← later]
    rfl

/-- A visit changes nothing of a head but the reference of a section. -/
theorem withoutReference_visitHead (options : ReferenceOptions) (depth : Int)
    (slots : List (Slot Tree)) (state : State) (head : Head) :
    (visitHead options depth slots state head).1.withoutReference = head.withoutReference := by
  cases head <;> rfl

mutual

/-- A run changes nothing of a tree but references of sections. -/
theorem withoutReferences_assignTree (options : ReferenceOptions) (depth : Int)
    (state : State) : ∀ tree : Tree,
    (assignTree options depth state tree).1.withoutReferences = tree.withoutReferences
  | .stray value => rfl
  | .node head metadata slots => by
    have here := withoutReference_visitHead options depth slots state head
    have below := withoutReferences_assignSlots options (depth + 1)
      (visitHead options depth slots state head).2 slots
    rw [assignTree, withoutReferences, withoutReferences, mapHeads, mapHeads, here, below]

/-- A run changes nothing in some slots but references of sections. -/
theorem withoutReferences_assignSlots (options : ReferenceOptions) (depth : Int)
    (state : State) : ∀ slots : List (Slot Tree),
    mapHeadsSlots Head.withoutReference (assignSlots options depth state slots).1 =
      mapHeadsSlots Head.withoutReference slots
  | [] => rfl
  | .one tree :: rest => by
    have here := withoutReferences_assignTree options depth state tree
    have later := withoutReferences_assignSlots options depth
      (assignTree options depth state tree).2 rest
    rw [withoutReferences, withoutReferences] at here
    rw [assignSlots, mapHeadsSlots, mapHeadsSlots, here, later]
  | .many trees :: rest => by
    have here := withoutReferences_assignAll options depth state trees
    have later := withoutReferences_assignSlots options depth
      (assignAll options depth state trees).2 rest
    rw [assignSlots, mapHeadsSlots, mapHeadsSlots, here, later]

/-- A run changes nothing in several trees but references of sections. -/
theorem withoutReferences_assignAll (options : ReferenceOptions) (depth : Int)
    (state : State) : ∀ trees : List Tree,
    mapHeadsAll Head.withoutReference (assignAll options depth state trees).1 =
      mapHeadsAll Head.withoutReference trees
  | [] => rfl
  | tree :: rest => by
    have here := withoutReferences_assignTree options depth state tree
    have later := withoutReferences_assignAll options depth
      (assignTree options depth state tree).2 rest
    rw [withoutReferences, withoutReferences] at here
    rw [assignAll, mapHeadsAll, mapHeadsAll, here, later]

end

/-- The references after a run are those that `give` gives, the pinned ones being in use, and
the run ends without a fault. -/
theorem assign_give (typed : options.WellTyped) (tree : Tree) :
    (assign options tree).tree.references = (give options (pinned tree) tree.referenceTable).1 ∧
      (assign options tree).fault = none := by
  obtain ⟨given, noFault⟩ :=
    (assignTree_along 0 { taken := pinned tree } tree).give typed rfl
  exact ⟨congrArg Prod.fst given, noFault⟩

/-- A run changes nothing of a tree but references of sections. -/
theorem withoutReferences_assign (options : ReferenceOptions) (tree : Tree) :
    (assign options tree).tree.withoutReferences = tree.withoutReferences :=
  withoutReferences_assignTree options 0 _ tree

end References

end Folio
