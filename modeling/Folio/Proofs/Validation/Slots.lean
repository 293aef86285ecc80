import Folio.Proofs.Tree.Congruence
import Folio.Proofs.Validation.Exact

/-!
# Filled slots

Whether a node is well-formed, and which text it has, is read off its slots. `Fill` goes through
the fields of a kind and says what lies in each of them and which texts these are; a node whose
slots are filled as its kind declares is well-formed and has the text of what was filled in.
-/

namespace Folio

namespace Tree

/-- A well-formed node of a category, with the given text. -/
structure Stands (category : Category) (words : String) (tree : Tree) : Prop where
  isA : tree.isA category = true
  wellFormed : tree.WellFormed
  text_eq : tree.text = words

/-- Slots that hold what fields are declared to hold, and the texts of all that they hold. -/
inductive Fill : List Field → List String → List (Slot Tree) → Prop where
  | nil : Fill [] [] []
  | one {name words : String} {category : Category} {tree : Tree} {fields : List Field}
      {others : List String} {slots : List (Slot Tree)} (stands : Stands category words tree)
      (rest : Fill fields others slots) :
      Fill (.one name category :: fields) (words :: others) (.one tree :: slots)
  | many {name : String} {category : Category} {words : List String} {trees : List Tree}
      {fields : List Field} {others : List String} {slots : List (Slot Tree)}
      (stand : List.Forall₂ (Stands category) words trees) (rest : Fill fields others slots) :
      Fill (.many name category :: fields) (words ++ others) (.many trees :: slots)

variable {fields : List Field} {words : List String} {slots : List (Slot Tree)}

/-- What fills the slots has the words for its texts. -/
theorem Fill.texts (fill : Fill fields words slots) :
    (slots.flatMap Slot.toList).map text = words := by
  induction fill with
  | nil => rfl
  | one stands _ hypothesis =>
    rw [List.flatMap_cons, List.map_append, hypothesis, ← stands.text_eq]
    rfl
  | @many name category words trees fields others slots stand _ hypothesis =>
    have texts : words.map id = trees.map text :=
      map_eq_of_forall₂ (fun _ _ stands => stands.text_eq.symm) stand
    rw [List.flatMap_cons, List.map_append, hypothesis, Slot.toList, ← texts, List.map_id]

/-- What a filled slot holds is laid out as declared, and well-formed nodes of the category that
is declared. -/
theorem Fill.held (fill : Fill fields words slots) {field : Field} {slot : Slot Tree}
    (entry : (field, slot) ∈ fields.zip slots) :
    slot.isList = field.type.isSequence ∧ ∃ category, field.type.element? = some category ∧
      ∀ content ∈ slot.toList, content.isA category = true ∧ content.WellFormed := by
  induction fill with
  | nil => cases entry
  | @one name words category tree fields others slots stands _ hypothesis =>
    rcases List.mem_cons.1 entry with here | later
    · obtain ⟨rfl, rfl⟩ := Prod.mk.inj here
      refine ⟨rfl, category, rfl, ?_⟩
      exact List.forall_mem_singleton.2 ⟨stands.isA, stands.wellFormed⟩
    · exact hypothesis later
  | @many name category words trees fields others slots stand _ hypothesis =>
    rcases List.mem_cons.1 entry with here | later
    · obtain ⟨rfl, rfl⟩ := Prod.mk.inj here
      refine ⟨rfl, category, rfl, fun content member => ?_⟩
      obtain ⟨word, -, stands⟩ := exists_left_of_mem stand member
      exact ⟨stands.isA, stands.wellFormed⟩
    · exact hypothesis later

/-- A node whose slots are filled as its kind declares is well-formed, and its text is its own and
then what was filled in. -/
theorem Fill.stands {kind : Kind} {head : Head} {metadata : Json.Members} {told : String}
    (fill : Fill kind.slots words slots) (isKind : head.kind = kind)
    (isTold : (Tree.node head metadata slots).ownText ++ String.join words = told) :
    Stands (.of kind) told (.node head metadata slots) := by
  subst isKind
  refine ⟨Category.includes_self head.kind, ?wellFormed, ?text⟩
  case wellFormed =>
    refine .intro rfl (fun field slot entry => (fill.held entry).1)
      (fun field slot entry content member => ?_) fun field slot entry content member => ?_
    all_goals obtain ⟨-, category, declared, fine⟩ := fill.held entry
    · have asked := head.kind.element_slots field (List.of_mem_zip entry).1
      rw [declared, Option.some.injEq] at asked
      exact asked ▸ (fine content member).1
    · exact (fine content member).2
  case text =>
    rw [text_eq, children, fill.texts, isTold]

/-- A node with a single field, for a list, has the texts of what it lists. -/
theorem stands_ofList {kind : Kind} {head : Head} {name : String} {category : Category}
    {trees : List Tree} (isKind : head.kind = kind) (single : kind.slots = [.many name category])
    (silent : (ofList head trees).ownText = "")
    (stand : List.Forall₂ (Stands category) words trees) :
    Stands (.of kind) (String.join words) (ofList head trees) := by
  have fill : Fill kind.slots (words ++ []) [.many trees] := single ▸ .many stand .nil
  rw [List.append_nil] at fill
  exact fill.stands isKind (silent ▸ String.empty_append)

/-- A text stands where any node may. -/
theorem stands_ofText (value : String) (metadata : Json.Members := []) :
    Stands (.of .text) value (ofText value metadata) := by
  have fill : Fill Kind.text.slots [] [] := .nil
  exact fill.stands rfl String.append_empty

/-- A node of a kind is of its category. -/
theorem isA_of_kind? {kind : Kind} {tree : Tree} (isKind : tree.kind? = some kind) :
    tree.isA (.of kind) = true := by
  cases tree with
  | stray value => cases isKind
  | node head metadata slots =>
    obtain rfl := Option.some.inj isKind
    exact Category.includes_self head.kind

/-- Nodes of all kinds but documents stand for nodes. -/
theorem Stands.node {category : Category} {words : String} {tree : Tree}
    (stands : Stands category words tree) (others : category.includes .document = false) :
    Stands .node words tree :=
  ⟨isA_node_of_isA others stands.isA, stands.wellFormed, stands.text_eq⟩

end Tree

end Folio
