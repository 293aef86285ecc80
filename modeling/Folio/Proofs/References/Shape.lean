import Folio.Proofs.References.Congruence

/-!
# Runs keep the shape of a tree

A run changes the head of a node and goes on in its slots; what lies in these afterwards is
what runs have made of what lay there before. A reference that is given is a text whenever the
fallback for titles without words is one, be the options well typed otherwise or not. So a
well-shaped tree stays well-shaped.
-/

namespace Folio.References

open Folio.Tree

variable {options : ReferenceOptions}

/-- A form with a number is a text. -/
theorem firstFree_isText (taken : List Scalar) (slug : Scalar) (attempts : Nat)
    (number : Scalar) : (firstFree taken slug attempts number).isText = true := by
  induction attempts generalizing number with
  | zero => rfl
  | succ attempts hypothesis =>
    rw [firstFree]
    split
    · exact hypothesis (next number)
    · rfl

/-- What is chosen for a text is one. -/
theorem unique_isText (taken : List Scalar) (start : Scalar) {slug : Scalar}
    (isText : slug.isText = true) : (unique taken start slug).isText = true := by
  rw [unique]
  split
  · exact firstFree_isText taken slug _ start
  · exact isText

/-- If the fallback is a text, so is every slug. -/
theorem slugOf_isText (texts : ∃ fallback : String, options.fallbackSlug = .text fallback)
    (title : String) : ∃ slug : Scalar, slugOf options title = .ok slug ∧ slug.isText = true := by
  obtain ⟨fallback, isFallback⟩ := texts
  rw [slugOf, isFallback]
  cases Slug.ofText? title with
  | some slug => exact ⟨.text slug, rfl, rfl⟩
  | none => exact ⟨.text fallback, rfl, rfl⟩

/-- A visit leaves a head that has texts as references with texts as references. -/
theorem visitHead_isTyped (texts : ∃ fallback : String, options.fallbackSlug = .text fallback)
    (depth : Int) (slots : List (Slot Tree)) (state : State) {head : Head}
    (typed : head.isTyped = true) :
    (visitHead options depth slots state head).1.isTyped = true := by
  cases head with
  | «section» reference =>
    obtain ⟨slug, slugEq, isText⟩ := slugOf_isText texts (titleIn slots).text
    simp only [visitHead, visitSection, Head.isTyped, slugEq]
    split
    · exact typed
    · split
      · exact typed
      · exact unique_isText _ _ isText
  | _ => exact typed

/-- A visit leaves the kind of a node. -/
theorem kind_visitHead (depth : Int) (slots : List (Slot Tree)) (state : State) (head : Head) :
    (visitHead options depth slots state head).1.kind = head.kind := by
  cases head <;> rfl

/-- What a run, begun somewhere in some state, makes of a tree. -/
def Becomes (options : ReferenceOptions) (before after : Tree) : Prop :=
  ∃ (depth : Int) (state : State), after = (assignTree options depth state before).1

/-- Trees become what a run makes of them, one by one. -/
theorem assignAll_becomes (options : ReferenceOptions) (depth : Int) (state : State)
    (trees : List Tree) :
    List.Forall₂ (Becomes options) trees (assignAll options depth state trees).1 := by
  induction trees generalizing state with
  | nil => exact .nil
  | cons tree rest hypothesis => exact .cons ⟨depth, state, rfl⟩ (hypothesis _)

/-- So do the contents of slots. -/
theorem assignSlots_becomes (options : ReferenceOptions) (depth : Int) (state : State)
    (slots : List (Slot Tree)) :
    List.Forall₂ (Slot.Related (Becomes options)) slots
      (assignSlots options depth state slots).1 := by
  induction slots generalizing state with
  | nil => exact .nil
  | cons slot rest hypothesis =>
    cases slot with
    | one tree => exact .cons (.one ⟨depth, state, rfl⟩) (hypothesis _)
    | many trees => exact .cons (.many (assignAll_becomes options depth state trees)) (hypothesis _)

/-- Related slots are lists at the same places. -/
theorem isList_eq_of_related {related : Tree → Tree → Prop} {left right : List (Slot Tree)}
    (slots : List.Forall₂ (Slot.Related related) left right) :
    left.map Slot.isList = right.map Slot.isList := by
  refine map_eq_of_forall₂ (fun _ _ same => ?_) slots
  cases same <;> rfl

/-- A run leaves a well-shaped tree well-shaped. -/
theorem shaped_assignTree (texts : ∃ fallback : String, options.fallbackSlug = .text fallback)
    {tree : Tree} (shaped : tree.Shaped) (depth : Int) (state : State) :
    (assignTree options depth state tree).1.Shaped := by
  induction tree using Tree.childInduction generalizing depth state with
  | step tree below =>
    obtain ⟨here, inside⟩ := everywhere_iff.1 shaped
    cases tree with
    | stray value => exact here.elim
    | node head metadata slots =>
      rw [assignTree_node]
      have become := assignSlots_becomes options (depth + 1)
        (visitHead options depth slots state head).2 slots
      refine everywhere_iff.2 ⟨⟨visitHead_isTyped texts depth slots state here.references, ?_⟩,
        fun after member => ?_⟩
      · rw [kind_visitHead, ← isList_eq_of_related become]
        exact here.layout
      · obtain ⟨before, wasThere, later, state, rfl⟩ :=
          exists_left_of_mem (Slot.forall₂_contents become) member
        exact below before wasThere (inside before wasThere) later state

/-- A run leaves a well-shaped tree well-shaped, if the fallback is a text. -/
theorem shaped_assign (texts : ∃ fallback : String, options.fallbackSlug = .text fallback)
    {tree : Tree} (shaped : tree.Shaped) : (assign options tree).tree.Shaped :=
  shaped_assignTree texts shaped 0 _

end Folio.References
