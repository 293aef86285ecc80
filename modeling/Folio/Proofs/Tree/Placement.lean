import Folio.Proofs.Tree.Congruence

/-!
# Everything in its place

A structural field declares a category, and what lies in it is in its place if it belongs to that.
No field has a place for a document: where everything is in its place, all below the root is
nodes, and lists, tables and figures hold the variants that belong there.
-/

namespace Folio

/-- The category that a structural field declares for what it holds. -/
def FieldType.element? : FieldType → Option Category
  | many element | one element => some element
  | _ => none

/-- The field has a place for something, and not for documents. -/
def Field.holdsNodes (field : Field) : Bool :=
  field.type.element?.any fun category => !category.includes .document

/-- No structural field has a place for documents. -/
theorem Kind.slots_holdNodes (kind : Kind) : kind.slots.all Field.holdsNodes = true := by
  cases kind <;> decide

namespace Tree

/-- Whatever belongs to a category without documents is a node. -/
theorem isA_node_of_isA {category : Category} (others : category.includes .document = false)
    {tree : Tree} (member : tree.isA category = true) : tree.isA .node = true := by
  cases tree with
  | stray value => cases member
  | node head metadata slots =>
    rw [isA, Category.node_includes, bne_iff_ne]
    intro isDocument
    rw [isA, isDocument, others] at member
    cases member

/-- Everything in the fields of a node is of the category that its field declares. -/
def IsPlaced : Tree → Prop
  | .node head _ slots =>
    ∀ entry ∈ head.kind.slots.zip slots, ∀ child ∈ entry.2.toList,
      ∀ category ∈ entry.1.type.element?, child.isA category = true
  | .stray _ => True

/-- A well-shaped node has a slot for every structural field. -/
theorem NodeShaped.length_slots {head : Head} {slots : List (Slot Tree)}
    (shaped : NodeShaped head slots) : slots.length = head.kind.slots.length := by
  simpa using congrArg List.length shaped.layout

/-- Every child lies in a slot that belongs to a field. -/
theorem exists_entry {fields : List Field} {slots : List (Slot Tree)}
    (sameLength : slots.length = fields.length) {child : Tree}
    (member : child ∈ slots.flatMap Slot.toList) :
    ∃ entry ∈ fields.zip slots, child ∈ entry.2.toList := by
  obtain ⟨slot, inSlots, held⟩ := List.mem_flatMap.1 member
  have second : slot ∈ (fields.zip slots).map (·.2) := by
    rwa [List.map_snd_zip (Nat.le_of_eq sameLength)]
  obtain ⟨entry, inZip, rfl⟩ := List.mem_map.1 second
  exact ⟨entry, inZip, held⟩

/-- Where a node and everything in its fields are in their places, its children are nodes. -/
theorem isA_node_of_placed {tree child : Tree} (shaped : tree.IsShaped) (placed : tree.IsPlaced)
    (member : child ∈ tree.children) : child.isA .node = true := by
  cases tree with
  | stray value => exact shaped.elim
  | node head metadata slots =>
    obtain ⟨entry, inZip, held⟩ := exists_entry shaped.length_slots member
    have nodes := List.all_eq_true.1 head.kind.slots_holdNodes entry.1 (List.of_mem_zip inZip).1
    rw [Field.holdsNodes] at nodes
    cases declared : entry.1.type.element? with
    | none =>
      rw [declared] at nodes
      cases nodes
    | some category =>
      have others : category.includes .document = false := by simpa [declared] using nodes
      exact isA_node_of_isA others (placed entry inZip child held category declared)

/-- A node is no document. -/
theorem kind?_ne_document {tree : Tree} (isNode : tree.isA .node = true) :
    tree.kind? ≠ some .document := by
  cases tree with
  | stray value => simp [kind?]
  | node head metadata slots =>
    rw [isA, Category.node_includes, bne_iff_ne] at isNode
    simpa [kind?] using isNode

/-- Below the root of a tree with everything in its place there are nodes only. -/
theorem isA_node_of_mem_tail {tree visited : Tree} (shaped : tree.Shaped)
    (placed : tree.Everywhere IsPlaced) (met : visited ∈ tree.preorder.tail) :
    visited.isA .node = true := by
  rw [preorder_eq, List.tail_cons] at met
  induction tree using childInduction with
  | step tree below =>
    obtain ⟨hereShaped, insideShaped⟩ := everywhere_iff.1 shaped
    obtain ⟨herePlaced, insidePlaced⟩ := everywhere_iff.1 placed
    obtain ⟨child, member, inChild⟩ := List.mem_flatMap.1 met
    rw [preorder_eq] at inChild
    rcases List.mem_cons.1 inChild with rfl | deeper
    · exact isA_node_of_placed hereShaped herePlaced member
    · exact below child member (insideShaped child member) (insidePlaced child member) deeper

/-- The slots are a single list of nodes of one kind. -/
def ListsOnly (kind : Kind) (slots : List (Slot Tree)) : Prop :=
  ∃ items, slots = [.many items] ∧ ∀ item ∈ items, item.isA (.of kind) = true

/-- Lists, tables and figures hold the variants of nodes that belong into them. -/
def HasVariants : Tree → Prop
  | .node .unorderedList _ slots | .node .orderedList _ slots => ListsOnly .listItem slots
  | .node .definitionList _ slots => ListsOnly .definition slots
  | .node .table _ slots => ListsOnly .row slots
  | .node .figure _ slots =>
    ∃ image caption, slots = [.one image, .many caption] ∧ image.isA (.of .image) = true
  | _ => True

/-- A list of nodes of one kind that is the only field of its node holds such nodes only. -/
theorem listsOnly_of_placed {head : Head} {metadata : Json.Members} {slots : List (Slot Tree)}
    {name : String} {kind : Kind} (declared : head.kind.slots = [.many name (.of kind)])
    (shaped : NodeShaped head slots) (placed : (Tree.node head metadata slots).IsPlaced) :
    ListsOnly kind slots := by
  have layout := shaped.layout
  rw [declared] at layout
  match slots, layout with
  | [.many items], _ =>
    have entry : (Field.many name (.of kind), Slot.many items) ∈
        head.kind.slots.zip [Slot.many items] := by simp [declared]
    exact ⟨items, rfl, fun item member => placed _ entry item member _ rfl⟩

/-- A node with everything in its place holds the variants that belong there. -/
theorem hasVariants_of_placed {tree : Tree} (shaped : tree.IsShaped) (placed : tree.IsPlaced) :
    tree.HasVariants := by
  cases tree with
  | stray value => trivial
  | node head metadata slots =>
    cases head with
    | unorderedList | orderedList | definitionList | table =>
      exact listsOnly_of_placed rfl shaped placed
    | figure =>
      match slots, shaped.layout with
      | [.one image, .many caption], _ =>
        have entry : (Field.one "image" (.of .image), Slot.one image) ∈
            Head.figure.kind.slots.zip [.one image, .many caption] := .head _
        exact ⟨image, caption, rfl, placed _ entry image (.head _) _ rfl⟩
    | _ => trivial

/-- In a well-shaped tree with everything in its place, all variants are as they should be. -/
theorem everywhere_hasVariants {tree : Tree} (shaped : tree.Shaped)
    (placed : tree.Everywhere IsPlaced) : tree.Everywhere HasVariants := fun visited met =>
  hasVariants_of_placed (shaped visited met) (placed visited met)

end Tree

end Folio
