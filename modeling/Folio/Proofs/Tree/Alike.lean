import Folio.Proofs.Tree.Typed
import Folio.Tree.Position

/-!
# Trees alike

Two trees are alike if they are recursively the same apart from metadata: the same kind, the
same values in all fields without nodes, and field by field equally many children that are
alike in order. Only timestamps have a comparison of their own. The relation knows nothing of
visits.

On well-shaped trees it is an equivalence. Of the three laws only reflexivity needs the shape;
the other two follow from it and from `of_common`: what is alike to one tree is alike.
`Alike.childCounts_at?` says that the relation tells apart any two ways to hand nodes out to
parents and to their fields.
-/

namespace Folio

namespace Timestamp

/-- Both timestamps are missing, or both are there and compare equal. -/
inductive Agree : Option Timestamp → Option Timestamp → Prop where
  | missing : Agree none none
  | given {left right : Timestamp} (same : left.same right = true) :
      Agree (some left) (some right)

/-- A timestamp is the same as itself. -/
theorem same_refl (time : Timestamp) : time.same time = true := by
  rw [same]
  cases time.offset <;> simp

/-- Timestamps that are the same as a third are the same. -/
theorem same_of_common {first second third : Timestamp} (left : first.same second = true)
    (right : first.same third = true) : second.same third = true := by
  rw [same] at left right ⊢
  cases firstOffset : first.offset <;> cases secondOffset : second.offset <;>
    cases thirdOffset : third.offset <;> simp_all

/-- A timestamp agrees with itself, and so does none. -/
theorem Agree.refl (time : Option Timestamp) : Agree time time := by
  cases time with
  | none => exact .missing
  | some time => exact .given (same_refl time)

/-- What agrees with a third agrees. -/
theorem Agree.of_common {first second third : Option Timestamp} (left : Agree first second)
    (right : Agree first third) : Agree second third := by
  cases left with
  | missing => exact right
  | given leftSame =>
    cases right with
    | given rightSame => exact .given (same_of_common leftSame rightSame)

end Timestamp

/-- Documents are described in the same words, and their timestamps compare equal. -/
structure Details.Agree (left right : Details) : Prop where
  words : { left with createdOn := none } = { right with createdOn := none }
  times : Timestamp.Agree left.createdOn right.createdOn

/-- The same kind with the same values in all fields that hold no nodes. -/
inductive Head.Agree : Head → Head → Prop where
  | same (head : Head) : Agree head head
  | documents {left right : Details} (details : left.Agree right) :
      Agree (.document left) (.document right)

/-- Heads that agree are of one kind. -/
theorem Head.Agree.kind_eq {left right : Head} (agree : left.Agree right) :
    left.kind = right.kind := by
  cases agree with
  | same => rfl
  | documents => rfl

/-- Heads that agree with a third agree. -/
theorem Head.Agree.of_common {first second third : Head} (left : first.Agree second)
    (right : first.Agree third) : second.Agree third := by
  cases left with
  | same => exact right
  | documents leftDetails =>
    cases right with
    | same =>
      exact .documents
        ⟨leftDetails.words.symm, leftDetails.times.of_common (Timestamp.Agree.refl _)⟩
    | documents rightDetails =>
      exact .documents ⟨leftDetails.words.symm.trans rightDetails.words,
        leftDetails.times.of_common rightDetails.times⟩

/-- Two slots are laid out alike, and what they hold is related in order. -/
inductive Slot.Related {α : Type} (related : α → α → Prop) : Slot α → Slot α → Prop where
  | one {left right : α} (content : related left right) : Related related (.one left) (.one right)
  | many {left right : List α} (contents : List.Forall₂ related left right) :
      Related related (.many left) (.many right)

section Related

variable {α : Type} {related : α → α → Prop}

/-- Lists related to one list are related, if that holds of each item of the one list. -/
theorem forall₂_of_common {first second third : List α}
    (each : ∀ item ∈ first, ∀ left right, related item left → related item right →
      related left right)
    (left : List.Forall₂ related first second) (right : List.Forall₂ related first third) :
    List.Forall₂ related second third := by
  induction left generalizing third with
  | nil =>
    cases right
    exact .nil
  | cons leftItem _ hypothesis =>
    cases right with
    | cons rightItem rightRest =>
      have here := each _ List.mem_cons_self _ _ leftItem rightItem
      have later := hypothesis (fun item member => each item (List.mem_cons_of_mem _ member))
        rightRest
      exact .cons here later

namespace Slot

/-- A slot is related to itself if its contents are. -/
theorem Related.refl {slot : Slot α} (each : ∀ item ∈ slot.toList, related item item) :
    Related related slot slot := by
  cases slot with
  | one content => exact .one (each content (List.mem_singleton_self content))
  | many contents => exact .many (List.forall₂_same.2 each)

/-- Slots related to a third are related if their contents are. -/
theorem Related.of_common {first second third : Slot α}
    (each : ∀ item ∈ first.toList, ∀ left right, related item left → related item right →
      related left right)
    (left : Related related first second) (right : Related related first third) :
    Related related second third := by
  cases left with
  | one leftContent =>
    cases right with
    | one rightContent =>
      exact .one (each _ (List.mem_singleton_self _) _ _ leftContent rightContent)
  | many leftContents =>
    cases right with
    | many rightContents => exact .many (forall₂_of_common each leftContents rightContents)

/-- Related slots have related contents, one by one. -/
theorem Related.forall₂_toList {left right : Slot α} (slots : Related related left right) :
    List.Forall₂ related left.toList right.toList := by
  cases slots with
  | one content => exact .cons content .nil
  | many contents => exact contents

/-- Slot by slot related is content by content related, laid out alike. -/
theorem forall₂_contents {left right : List (Slot α)}
    (slots : List.Forall₂ (Related related) left right) :
    List.Forall₂ related (left.flatMap Slot.toList) (right.flatMap Slot.toList) := by
  induction slots with
  | nil => exact .nil
  | cons here _ hypothesis =>
    rw [List.flatMap_cons, List.flatMap_cons]
    exact List.rel_append here.forall₂_toList hypothesis

end Slot

end Related

namespace Tree

/-- What a node holds is laid out as its kind declares, and references are texts. -/
structure NodeShaped (head : Head) (slots : List (Slot Tree)) : Prop where
  references : head.isTyped = true
  layout : slots.map Slot.isList = head.kind.slots.map (·.type.isSequence)

instance (head : Head) (slots : List (Slot Tree)) : Decidable (NodeShaped head slots) :=
  decidable_of_iff
    (head.isTyped = true ∧ slots.map Slot.isList = head.kind.slots.map (·.type.isSequence))
    ⟨fun ⟨references, layout⟩ => ⟨references, layout⟩,
      fun shaped => ⟨shaped.references, shaped.layout⟩⟩

/-- The tree is a node, laid out as its kind declares. -/
def IsShaped : Tree → Prop
  | .node head _ slots => NodeShaped head slots
  | .stray _ => False

instance : DecidablePred IsShaped
  | .node head _ slots => inferInstanceAs (Decidable (NodeShaped head slots))
  | .stray _ => inferInstanceAs (Decidable False)

/-- All of the tree is laid out as declared. Metadata can be anything. -/
def Shaped : Tree → Prop := Everywhere IsShaped

instance : DecidablePred Shaped :=
  fun tree => inferInstanceAs (Decidable (tree.Everywhere IsShaped))

/-- Typed trees are well-shaped. -/
theorem Typed.shaped {tree : Tree} (typed : tree.Typed) : tree.Shaped := by
  intro visited met
  cases visited with
  | stray value => exact typed _ met
  | node head metadata slots => exact ⟨(typed _ met).references, (typed _ met).layout⟩

/-- The trees are recursively the same, metadata aside. -/
inductive Alike : Tree → Tree → Prop where
  | node {left right : Head} {leftMetadata rightMetadata : Json.Members}
      {leftSlots rightSlots : List (Slot Tree)} (head : left.Agree right)
      (slots : List.Forall₂ (Slot.Related Alike) leftSlots rightSlots) :
      Alike (.node left leftMetadata leftSlots) (.node right rightMetadata rightSlots)

/-- A well-shaped tree is like itself. -/
theorem Alike.refl {tree : Tree} (shaped : tree.Shaped) : Alike tree tree := by
  induction tree using Tree.induction with
  | stray value => exact (everywhere_iff.1 shaped).1.elim
  | node head metadata slots below =>
    have inside := (everywhere_iff.1 shaped).2
    refine .node (.same head) (List.forall₂_same.2 fun slot inSlots => .refl fun tree inSlot => ?_)
    exact below slot inSlots tree inSlot (inside tree (List.mem_flatMap.2 ⟨slot, inSlots, inSlot⟩))

/-- Trees alike to one tree are alike. -/
theorem Alike.of_common {first second third : Tree} (left : Alike first second)
    (right : Alike first third) : Alike second third := by
  induction first using Tree.induction generalizing second third with
  | stray value => cases left
  | node head metadata slots below =>
    cases left with
    | node leftHead leftSlots =>
      cases right with
      | node rightHead rightSlots =>
        refine .node (leftHead.of_common rightHead) (forall₂_of_common ?_ leftSlots rightSlots)
        intro slot inSlots leftSlot rightSlot
        exact .of_common fun tree inSlot _ _ => below slot inSlots tree inSlot

/-- Trees that are alike have children that are, one by one. -/
theorem Alike.children {left right : Tree} (alike : Alike left right) :
    List.Forall₂ Alike left.children right.children := by
  cases alike with
  | node _ slots => exact Slot.forall₂_contents slots

/-- The number of children in each field. -/
def childCounts : Tree → List Nat
  | .node _ _ slots => slots.map fun slot => slot.toList.length
  | .stray _ => []

/-- Trees that are alike have as many children in each slot. -/
theorem Alike.childCounts_eq {left right : Tree} (alike : Alike left right) :
    left.childCounts = right.childCounts := by
  cases alike with
  | node _ slots =>
    rw [childCounts, childCounts]
    induction slots with
    | nil => rfl
    | cons here _ hypothesis =>
      rw [List.map_cons, List.map_cons, hypothesis, here.forall₂_toList.length_eq]

/-- Trees that are alike have nodes at the same positions, and there equally many children in
every field. -/
theorem Alike.childCounts_at? {left right : Tree} (alike : Alike left right)
    (position : Position) :
    (left.at? position).map childCounts = (right.at? position).map childCounts := by
  induction position generalizing left right with
  | nil => exact congrArg some alike.childCounts_eq
  | cons index rest hypothesis =>
    have below := alike.children
    rw [at?, at?]
    by_cases inside : index < left.children.length
    · have alsoInside : index < right.children.length := below.length_eq ▸ inside
      have childAlike := below.get inside alsoInside
      rw [List.getElem?_eq_getElem inside, List.getElem?_eq_getElem alsoInside]
      exact hypothesis childAlike
    · have alsoOutside : ¬ index < right.children.length := below.length_eq ▸ inside
      rw [List.getElem?_eq_none (Nat.not_lt.1 inside),
        List.getElem?_eq_none (Nat.not_lt.1 alsoOutside)]

end Tree

end Folio
