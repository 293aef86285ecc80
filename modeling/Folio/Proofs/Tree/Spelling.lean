import Folio.Proofs.Json.Characters
import Folio.Proofs.Tree.Congruence
import Folio.Proofs.Tree.Invariance
import Folio.Proofs.Tree.RoundTrip

/-!
# The characters of documents

A document is spelled in some characters if the attributes and the metadata of its nodes are. What
is read off it then consists of these characters: its text, its titles and its references, if they
include ASCII, and the text that it is encoded to, if they include what is plain. References enter
by themselves only, so giving references to sections adds no characters but those of what is given.
-/

namespace Folio.Tree

open Text (Consists isAscii isPlain)

/-- The attributes and the metadata of a node are spelled in characters that are allowed. -/
def IsSpelled (allowed : Char → Bool) : Tree → Prop
  | .node head metadata _ =>
    (∀ entry ∈ head.attributes, entry.2.encode.Spelled allowed) ∧
      (Json.obj metadata).Spelled allowed
  | .stray value => value.Spelled allowed

instance (allowed : Char → Bool) : DecidablePred (IsSpelled allowed)
  | .node head metadata _ =>
    inferInstanceAs (Decidable ((∀ entry ∈ head.attributes, entry.2.encode.Spelled allowed) ∧
      (Json.obj metadata).Spelled allowed))
  | .stray value => inferInstanceAs (Decidable (value.Spelled allowed))

variable {allowed : Char → Bool}

/-- A section is spelled if it is so without its reference, and its reference is. -/
theorem isSpelled_iff (tree : Tree) :
    tree.IsSpelled allowed ↔ tree.withoutReferences.IsSpelled allowed ∧
      (tree.isA (.of .section) = true → (Json.scalar tree.reference).Spelled allowed) := by
  cases tree with
  | stray value => simp [withoutReferences, mapHeads, isA]
  | node head metadata slots =>
    rw [isA_section]
    cases head with
    | «section» reference =>
      have empty : (Json.scalar (.text "")).Spelled allowed := rfl
      simp [IsSpelled, withoutReferences, mapHeads, Head.withoutReference, Head.attributes,
        Attribute.encode, Tree.reference, kind?, Head.kind, empty, and_comm]
    | _ =>
      simp [IsSpelled, withoutReferences, mapHeads, Head.withoutReference, kind?, Head.kind]

/-- A tree is spelled if it is so without references, and these are. -/
theorem spelled_iff (tree : Tree) :
    tree.Everywhere (IsSpelled allowed) ↔ tree.withoutReferences.Everywhere (IsSpelled allowed) ∧
      ∀ reference ∈ tree.references, (Json.scalar reference).Spelled allowed :=
  everywhere_iff_references isSpelled_iff tree

section Plain

variable (plain : ∀ character, isPlain character = true → allowed character = true)

include plain

/-- What a node adds to its encoded form is spelled as the node is: tags and the names of fields are
plain. -/
theorem IsSpelled.encodesWith {tree : Tree} (spelled : tree.IsSpelled allowed) :
    tree.EncodesWith (Json.isSpelled allowed) := by
  cases tree with
  | stray value => exact spelled
  | node head metadata slots =>
    obtain ⟨attributes, members⟩ := spelled
    have tag : Consists isPlain head.kind.tag := by
      generalize head.kind = kind
      cases kind <;> decide
    have names : ∀ field ∈ head.kind.fields, Consists isPlain field.name := by
      generalize head.kind = kind
      cases kind <;> decide
    have tagName : Consists isPlain tagField := by decide
    refine ⟨?_, Json.isSpelled_str (tag.mono plain), attributes, members⟩
    rw [encode_node]
    refine Json.isSpelled_obj (List.forall_mem_cons.2
      ⟨tagName.mono plain, List.forall_mem_map.2 fun entry member => ?_⟩)
    obtain ⟨field, inFields, name, _⟩ := mem_fieldContents _ _ _ member
    exact name ▸ (names field inFields).mono plain

/-- A tree is encoded in the characters that it is spelled in. -/
theorem spelled_encode {tree : Tree} (spelled : tree.Everywhere (IsSpelled allowed)) :
    tree.encode.Spelled allowed :=
  all_encode (fun _ => rfl) fun visited met => (spelled visited met).encodesWith plain

end Plain

section Ascii

variable (ascii : ∀ character, isAscii character = true → allowed character = true)

include ascii

/-- Where ASCII is allowed, what is plain is. -/
theorem plain_of_ascii : ∀ character, isPlain character = true → allowed character = true :=
  fun character plain => ascii character (Text.isAscii_of_isPlain plain)

/-- A spelled scalar is shown in allowed characters. -/
theorem consists_plain {value : Scalar} (spelled : (Json.scalar value).Spelled allowed) :
    Consists allowed value.plain := by
  have literal {text : String} (isPlain : Consists isPlain text) : Consists allowed text :=
    isPlain.mono (plain_of_ascii ascii)
  cases value with
  | null => exact literal (by decide)
  | bool value => cases value <;> exact literal (by decide)
  | int value => exact literal (Json.consists_int value)
  | float value => exact literal (Json.consists_float value (by decide) (by decide))
  | text value => exact (Json.spelled_str_iff ascii).1 spelled

/-- The text of a node consists of allowed characters. -/
theorem IsSpelled.consists_ownText {tree : Tree} (spelled : tree.IsSpelled allowed) :
    Consists allowed tree.ownText := by
  cases tree with
  | stray value => exact Text.consists_empty
  | node head metadata slots =>
    cases head with
    | text value =>
      have own : (Json.scalar (.text value)).Spelled allowed :=
        spelled.1 ("text", .text value) (List.mem_singleton_self _)
      exact consists_plain ascii own
    | _ => exact Text.consists_empty

/-- So does the reference of a node. -/
theorem IsSpelled.consists_reference {tree : Tree} (spelled : tree.IsSpelled allowed) :
    Consists allowed tree.reference.plain := by
  cases tree with
  | stray value => exact Text.consists_empty
  | node head metadata slots =>
    cases head with
    | «section» reference =>
      have own : (Json.scalar reference).Spelled allowed :=
        spelled.1 ("reference", .scalar reference) (List.mem_singleton_self _)
      exact consists_plain ascii own
    | _ => exact Text.consists_empty

/-- The text of a tree consists of the characters that it is spelled in. -/
theorem consists_text {tree : Tree} (spelled : tree.Everywhere (IsSpelled allowed)) :
    Consists allowed tree.text := by
  refine Text.consists_join fun text member => ?_
  obtain ⟨visited, met, rfl⟩ := List.mem_map.1 member
  exact (spelled visited met).consists_ownText ascii

/-- So does the text of the title. -/
theorem consists_titleText {tree : Tree} (spelled : tree.Everywhere (IsSpelled allowed)) :
    Consists allowed tree.titleText := by
  have untitled : Consists allowed (ofText "").text := Text.consists_empty
  cases tree with
  | stray value => exact untitled
  | node head metadata slots =>
    match slots with
    | [] | .many _ :: _ => exact untitled
    | .one title :: rest =>
      have below : title ∈ (node head metadata (.one title :: rest)).children := by
        simp [children, Slot.toList]
      exact consists_text ascii ((everywhere_iff.1 spelled).2 title below)

end Ascii

end Folio.Tree
