import Folio.Kind

/-!
# Fields of the kinds

One table says which fields a node of each kind has: what a field holds, in which order
fields are declared (the order of encoded trees) and in which order structural fields are
visited. Traversal, the codec, comparison and validation all read this table.
-/

namespace Folio

/-- What a field holds. Structural fields name the category their nodes must belong to. -/
inductive FieldType where
  | text
  | words
  | moment
  | metadata
  | many (element : Category)
  | one (element : Category)
  deriving DecidableEq, Repr

namespace FieldType

/-- The field holds nodes. -/
def isStructural : FieldType → Bool
  | many _ | one _ => true
  | _ => false

/-- The field is declared as a list. -/
def isSequence : FieldType → Bool
  | many _ | words => true
  | _ => false

end FieldType

/-- A named field. -/
structure Field where
  name : String
  type : FieldType
  deriving DecidableEq, Repr

namespace Field

/-- The field of opaque data that every node has. -/
def metadata : Field := ⟨"metadata", .metadata⟩

/-- A field for a text. -/
def text (name : String) : Field := ⟨name, .text⟩

/-- A field for any number of nodes. -/
def many (name : String) (element : Category := .node) : Field := ⟨name, .many element⟩

/-- A field for exactly one node. -/
def one (name : String) (element : Category := .node) : Field := ⟨name, .one element⟩

end Field

namespace Kind

/-- The fields of content nodes without anything of their own. -/
def contentFields : List Field := [.many "children", .metadata]

/-- The fields of a kind in the order of their declaration. -/
def fields : Kind → List Field
  | text => [.text "text", .metadata]
  | image => [.text "source", .text "description", .metadata]
  | codeBlock => contentFields ++ [.text "language"]
  | .section => contentFields ++ [.one "title", .text "reference"]
  | internalLink => contentFields ++ [.text "section_reference"]
  | externalLink => contentFields ++ [.text "document_reference", .text "section_reference"]
  | webLink => contentFields ++ [.text "uri"]
  | unorderedList | orderedList => [.many "items" (.of .listItem), .metadata]
  | definitionList => [.many "items" (.of .definition), .metadata]
  | definition => [.one "term", .one "definition", .metadata]
  | figure => [.one "image" (.of .image), .many "description", .metadata]
  | row => [.many "header", .many "cells", .many "footer", .metadata]
  | table => [.many "rows" (.of .row), .metadata]
  | document =>
    [.many "children", .text "title", .text "creator", .text "publisher", .text "subject",
      .text "description", ⟨"keywords", .words⟩, .text "reference", .text "language",
      .text "rights", .text "version", ⟨"created_on", .moment⟩]
  | _ => contentFields

/-- The structural fields of a kind in the order of a visit: a section's title comes before
its body, all others come as declared. -/
def slots : Kind → List Field
  | .section => [.one "title", .many "children"]
  | kind => kind.fields.filter fun field => field.type.isStructural

/-- The field of a kind with a name. -/
def field? (kind : Kind) (name : String) : Option Field :=
  kind.fields.find? fun field => field.name == name

/-- Field names of a kind are distinct. -/
theorem fields_nodup (kind : Kind) : (kind.fields.map (·.name)).Nodup := by
  cases kind <;> decide

/-- The slots of a kind are its structural fields, in an order of their own. -/
theorem slots_perm (kind : Kind) :
    kind.slots.Perm (kind.fields.filter fun field => field.type.isStructural) := by
  cases kind <;> decide

end Kind

namespace Category

/-- The fields that all nodes of a category have, where the category declares any. -/
def fields? : Category → Option (List Field)
  | node => none
  | markup | quote | link => some Kind.contentFields
  | list => some [.many "items", .metadata]
  | of kind => some kind.fields

/-- The structural fields of a category in the order of a visit. -/
def slots : Category → List Field
  | of kind => kind.slots
  | category => (category.fields?.getD []).filter fun field => field.type.isStructural

end Category

end Folio
