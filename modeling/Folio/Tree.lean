import Folio.Json
import Folio.Kind.Fields
import Folio.Timestamp

/-!
# Document trees

A tree is a node with a head, metadata and slots. The head fixes the kind of the node and
holds its attributes; the slots hold the structural children, one slot for each structural
field of the kind and in the order of `Kind.slots`. A place for a node can also hold a value
that is no node; trees that come from a decoder never do.
-/

namespace Folio

/-- The content of a structural field: exactly one thing or a list of them. -/
inductive Slot (α : Type) where
  | one (content : α)
  | many (contents : List α)
  deriving Inhabited, Repr

/-- Everything in a slot, in order. -/
def Slot.toList {α : Type} : Slot α → List α
  | one content => [content]
  | many contents => contents

/-- The descriptive fields of a document. -/
structure Details where
  title : String := ""
  creator : String := ""
  publisher : String := ""
  subject : String := ""
  description : String := ""
  keywords : List String := []
  reference : String := ""
  language : String := ""
  rights : String := ""
  version : String := ""
  createdOn : Option Timestamp := none
  deriving Inhabited, Repr, DecidableEq

/-- The value of a field that holds no nodes. -/
inductive Attribute where
  | scalar (value : Scalar)
  | words (values : List String)
  | moment (value : Option Timestamp)
  deriving Inhabited, Repr

namespace Attribute

/-- An attribute that is a text. -/
def text (value : String) : Attribute := scalar (.text value)

/-- Two attributes have the same value. -/
def same : Attribute → Attribute → Bool
  | scalar left, scalar right => left.same right
  | words left, words right => left == right
  | moment none, moment none => true
  | moment (some left), moment (some right) => left.same right
  | _, _ => false

/-- The single value of an attribute, if it is one. -/
def scalar? : Attribute → Option Scalar
  | scalar value => some value
  | _ => none

/-- The text of an attribute, empty if it is none. -/
def plainText : Attribute → String
  | scalar (.text value) => value
  | _ => ""

end Attribute

/-- A node without its children: its kind with the attributes of that kind. References of
sections, and the links to them, are any scalar: settings may ask for one that is no text. -/
inductive Head where
  | text (text : String)
  | image (source description : String)
  | content
  | paragraph
  | bold
  | italic
  | underline
  | strikethrough
  | code
  | superscript
  | subscript
  | codeBlock (language : String)
  | inlineQuote
  | blockQuote
  | listItem
  | cell
  | section (reference : Scalar)
  | internalLink (sectionReference : Scalar)
  | externalLink (documentReference sectionReference : String)
  | webLink (uri : String)
  | unorderedList
  | orderedList
  | definitionList
  | definition
  | figure
  | row
  | table
  | document (details : Details)
  deriving Inhabited, Repr

namespace Head

/-- The kind of a node. -/
def kind : Head → Kind
  | text _ => .text
  | image _ _ => .image
  | content => .content
  | paragraph => .paragraph
  | bold => .bold
  | italic => .italic
  | underline => .underline
  | strikethrough => .strikethrough
  | code => .code
  | superscript => .superscript
  | subscript => .subscript
  | codeBlock _ => .codeBlock
  | inlineQuote => .inlineQuote
  | blockQuote => .blockQuote
  | listItem => .listItem
  | cell => .cell
  | .section _ => .section
  | internalLink _ => .internalLink
  | externalLink _ _ => .externalLink
  | webLink _ => .webLink
  | unorderedList => .unorderedList
  | orderedList => .orderedList
  | definitionList => .definitionList
  | definition => .definition
  | figure => .figure
  | row => .row
  | table => .table
  | document _ => .document

/-- The attributes of a node under their field names, in the order of declaration. -/
def attributes : Head → List (String × Attribute)
  | text value => [("text", .text value)]
  | image source description =>
    [("source", .text source), ("description", .text description)]
  | codeBlock language => [("language", .text language)]
  | .section reference => [("reference", .scalar reference)]
  | internalLink reference => [("section_reference", .scalar reference)]
  | externalLink documentReference sectionReference =>
    [("document_reference", .text documentReference),
      ("section_reference", .text sectionReference)]
  | webLink uri => [("uri", .text uri)]
  | document details =>
    [("title", .text details.title), ("creator", .text details.creator),
      ("publisher", .text details.publisher), ("subject", .text details.subject),
      ("description", .text details.description), ("keywords", .words details.keywords),
      ("reference", .text details.reference), ("language", .text details.language),
      ("rights", .text details.rights), ("version", .text details.version),
      ("created_on", .moment details.createdOn)]
  | _ => []

/-- The attribute under a field name. -/
def attribute? (head : Head) (name : String) : Option Attribute :=
  (head.attributes.find? fun entry => entry.1 == name).map (·.2)

/-- The head of a kind whose attributes are looked up by field name; those without a value
are empty. -/
def build (kind : Kind) (value? : String → Option Attribute) : Head :=
  let textOf (name : String) : String := ((value? name).map Attribute.plainText).getD ""
  let scalarOf (name : String) : Scalar :=
    ((value? name).bind Attribute.scalar?).getD (.text "")
  match kind with
  | .text => text (textOf "text")
  | .image => image (textOf "source") (textOf "description")
  | .content => content
  | .paragraph => paragraph
  | .bold => bold
  | .italic => italic
  | .underline => underline
  | .strikethrough => strikethrough
  | .code => code
  | .superscript => superscript
  | .subscript => subscript
  | .codeBlock => codeBlock (textOf "language")
  | .inlineQuote => inlineQuote
  | .blockQuote => blockQuote
  | .listItem => listItem
  | .cell => cell
  | .section => .section (scalarOf "reference")
  | .internalLink => internalLink (scalarOf "section_reference")
  | .externalLink => externalLink (textOf "document_reference") (textOf "section_reference")
  | .webLink => webLink (textOf "uri")
  | .unorderedList => unorderedList
  | .orderedList => orderedList
  | .definitionList => definitionList
  | .definition => definition
  | .figure => figure
  | .row => row
  | .table => table
  | .document =>
    document
      { title := textOf "title"
        creator := textOf "creator"
        publisher := textOf "publisher"
        subject := textOf "subject"
        description := textOf "description"
        keywords := match value? "keywords" with
          | some (.words values) => values
          | _ => []
        reference := textOf "reference"
        language := textOf "language"
        rights := textOf "rights"
        version := textOf "version"
        createdOn := match value? "created_on" with
          | some (.moment time) => time
          | _ => none }

/-- The head with one attribute changed; a name that is no attribute changes nothing. -/
def withAttribute (head : Head) (name : String) (value : Attribute) : Head :=
  build head.kind fun other => if other == name then some value else head.attribute? other

/-- A head built from the attributes of another is that other. -/
theorem build_attribute? (head : Head) : build head.kind head.attribute? = head := by
  cases head <;> rfl

/-- A head is built of the kind that was asked for. -/
theorem kind_build (kind : Kind) (value? : String → Option Attribute) :
    (build kind value?).kind = kind := by
  cases kind <;> rfl

end Head

/-- A document tree. -/
inductive Tree where
  | node (head : Head) (metadata : Json.Members) (slots : List (Slot Tree))
  | stray (value : Json)
  deriving Inhabited, Repr

namespace Tree

/-- A property of all trees holds if it passes from everything in the slots of a node to the
node, and holds of stray values. -/
theorem induction {motive : Tree → Prop}
    (node : ∀ head metadata slots,
      (∀ slot ∈ slots, ∀ tree ∈ Slot.toList slot, motive tree) →
        motive (.node head metadata slots))
    (stray : ∀ value, motive (.stray value)) (tree : Tree) : motive tree := by
  refine Tree.rec (motive_1 := motive)
    (motive_2 := fun slots => ∀ slot ∈ slots, ∀ tree ∈ Slot.toList slot, motive tree)
    (motive_3 := fun slot => ∀ tree ∈ Slot.toList slot, motive tree)
    (motive_4 := fun trees => ∀ tree ∈ trees, motive tree) ?_ ?_ ?_ ?_ ?_ ?_ ?_ ?_ tree
  · exact fun head metadata slots below => node head metadata slots below
  · exact stray
  · simp
  · intro slot slots first others member contained
    rcases List.mem_cons.1 contained with rfl | later
    · exact first
    · exact others member later
  · intro content holds
    simpa [Slot.toList] using holds
  · intro contents holds
    simpa [Slot.toList] using holds
  · simp
  · intro tree trees first others member contained
    rcases List.mem_cons.1 contained with rfl | later
    · exact first
    · exact others member later

/-- The kind of a node. -/
def kind? : Tree → Option Kind
  | node head _ _ => some head.kind
  | stray _ => none

/-- The tree is a node of the category. -/
def isA (category : Category) : Tree → Bool
  | node head _ _ => category.includes head.kind
  | stray _ => false

/-- The word for a tree in messages. -/
def typeName : Tree → String
  | node head _ _ => head.kind.name
  | stray value => value.typeName

/-- The structural children of a tree, in the order of a visit. -/
def children : Tree → List Tree
  | node _ _ slots => slots.flatMap Slot.toList
  | stray _ => []

/-- A list of as many trees as a slot holds, put into its place, and the trees left over. -/
def refillSlot : Slot Tree → List Tree → Slot Tree × List Tree
  | .one content, [] => (.one content, [])
  | .one _, tree :: rest => (.one tree, rest)
  | .many contents, trees => (.many (trees.take contents.length), trees.drop contents.length)

/-- Put trees into the places of the children, slot by slot. -/
def refill : List (Slot Tree) → List Tree → List (Slot Tree)
  | [], _ => []
  | slot :: rest, trees =>
    let (filled, left) := refillSlot slot trees
    filled :: refill rest left

/-- The node with its children replaced one for one. -/
def withChildren : Tree → List Tree → Tree
  | node head metadata slots, trees => node head metadata (refill slots trees)
  | stray value, _ => stray value

/-- The contents of a structural field. -/
def slot? : Tree → String → Option (Slot Tree)
  | node head _ slots, name =>
    ((head.kind.slots.zip slots).find? fun entry => entry.1.name == name).map (·.2)
  | stray _, _ => none

/-- The node with the contents of a structural field changed; a name that is no structural
field of the node changes nothing. -/
def withSlot (name : String) (change : Slot Tree → Slot Tree) : Tree → Tree
  | node head metadata slots =>
    node head metadata <|
      (head.kind.slots.zip slots).map fun entry =>
        if entry.1.name == name then change entry.2 else entry.2
  | stray value => stray value

/-- The node with one attribute changed. -/
def withAttribute (name : String) (value : Attribute) : Tree → Tree
  | node head metadata slots => node (head.withAttribute name value) metadata slots
  | stray value => stray value

/-- A text. -/
def ofText (value : String) (metadata : Json.Members := []) : Tree :=
  node (.text value) metadata []

/-- A node with a single list of children and no metadata. -/
def ofList (head : Head) (children : List Tree) : Tree := node head [] [.many children]

/-- A link inside the document. -/
def internalLink (reference : Scalar) (label : List Tree) : Tree :=
  ofList (.internalLink reference) label

/-- An item of a list. -/
def listItem (children : List Tree) : Tree := ofList .listItem children

/-- A numbered list. -/
def orderedList (items : List Tree) : Tree := ofList .orderedList items

/-- A section. -/
def ofSection (title : Tree) (children : List Tree) (reference : Scalar := .text "") : Tree :=
  node (.section reference) [] [.one title, .many children]

end Tree

end Folio
