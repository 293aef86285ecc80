import Folio.Proofs.Json.Exact
import Folio.Proofs.Tree.Preorder
import Folio.Timestamp.Parser

/-!
# Typed trees

A typed tree consists of nodes, and every node holds what its kind declares. The types of
trees already say most of this; what they leave open is the layout of slots, references that
are no texts, metadata on a kind that has none and metadata that repeat a name.

Two further conditions matter where a tree becomes a text: metadata without doubles, and
timestamps that are read back from what is written for them.
-/

namespace Folio

/-- The scalar is a text. -/
def Scalar.isText : Scalar → Bool
  | .text _ => true
  | _ => false

/-- The slot holds a list. -/
def Slot.isList {α : Type} : Slot α → Bool
  | .one _ => false
  | .many _ => true

namespace Head

/-- The references of sections, and the targets of links to them, are texts. No other
attribute can be anything else than its field declares. -/
def isTyped : Head → Bool
  | .section reference => reference.isText
  | .internalLink reference => reference.isText
  | _ => true

/-- The timestamp of a document, if it has one. -/
def createdOn? : Head → Option Timestamp
  | .document details => details.createdOn
  | _ => none

end Head

/-- The timestamp is read back from its text. -/
def Timestamp.Readable (time : Timestamp) : Prop := Timestamp.parse? time.text = some time

instance (time : Timestamp) : Decidable time.Readable := inferInstanceAs (Decidable (_ = _))

namespace Tree

/-- Everything that a visit of the tree meets satisfies the condition. -/
def Everywhere (condition : Tree → Prop) (tree : Tree) : Prop :=
  ∀ visited ∈ tree.preorder, condition visited

instance (condition : Tree → Prop) [DecidablePred condition] (tree : Tree) :
    Decidable (tree.Everywhere condition) :=
  inferInstanceAs (Decidable (∀ visited ∈ tree.preorder, condition visited))

/-- A condition holds everywhere in a tree if it holds of the tree and everywhere in its
children. -/
theorem everywhere_iff {condition : Tree → Prop} {tree : Tree} :
    tree.Everywhere condition ↔
      condition tree ∧ ∀ child ∈ tree.children, child.Everywhere condition := by
  rw [Everywhere, preorder_eq, List.forall_mem_cons]
  simp only [List.mem_flatMap, Everywhere]
  constructor
  · rintro ⟨here, below⟩
    exact ⟨here, fun child member visited inside => below visited ⟨child, member, inside⟩⟩
  · rintro ⟨here, below⟩
    exact ⟨here, fun visited ⟨child, member, inside⟩ => below child member visited inside⟩

/-- What a node holds is what its kind declares. -/
structure NodeTyped (head : Head) (metadata : Json.Members) (slots : List (Slot Tree)) : Prop where
  references : head.isTyped = true
  layout : slots.map Slot.isList = head.kind.slots.map (·.type.isSequence)
  declared : metadata.isEmpty = true ∨ Field.metadata ∈ head.kind.fields
  names : (Json.obj metadata).Distinct

instance (head : Head) (metadata : Json.Members) (slots : List (Slot Tree)) :
    Decidable (NodeTyped head metadata slots) :=
  decidable_of_iff
    (head.isTyped = true ∧ slots.map Slot.isList = head.kind.slots.map (·.type.isSequence) ∧
      (metadata.isEmpty = true ∨ Field.metadata ∈ head.kind.fields) ∧
      (Json.obj metadata).Distinct)
    ⟨fun ⟨references, layout, declared, names⟩ => ⟨references, layout, declared, names⟩,
      fun typed => ⟨typed.references, typed.layout, typed.declared, typed.names⟩⟩

/-- The tree is a node, and what it holds is what its kind declares. -/
def IsTyped : Tree → Prop
  | .node head metadata slots => NodeTyped head metadata slots
  | .stray _ => False

/-- The metadata of a node hold no doubles. -/
def HasExactMetadata : Tree → Prop
  | .node _ metadata _ => (Json.obj metadata).Exact
  | .stray _ => True

/-- The timestamp of a node, if there is one, is read back from its text. -/
def HasReadableTime : Tree → Prop
  | .node head _ _ => ∀ time ∈ head.createdOn?, time.Readable
  | .stray _ => True

instance : DecidablePred IsTyped
  | .node head metadata slots => inferInstanceAs (Decidable (NodeTyped head metadata slots))
  | .stray _ => inferInstanceAs (Decidable False)

instance : DecidablePred HasExactMetadata
  | .node _ metadata _ => inferInstanceAs (Decidable (Json.obj metadata).Exact)
  | .stray _ => inferInstanceAs (Decidable True)

instance : DecidablePred HasReadableTime
  | .node head _ _ => inferInstanceAs (Decidable (∀ time ∈ head.createdOn?, time.Readable))
  | .stray _ => inferInstanceAs (Decidable True)

/-- All of the tree is typed. -/
def Typed : Tree → Prop := Everywhere IsTyped

instance : DecidablePred Typed :=
  fun tree => inferInstanceAs (Decidable (tree.Everywhere IsTyped))

end Tree

end Folio
