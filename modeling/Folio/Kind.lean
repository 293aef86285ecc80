/-!
# Kinds of node

A document tree is built from a closed set of node kinds under a document root. Some kinds
form families: the markup spans, the quotations, the links and the lists; the content nodes
are a family named after their plainest member. Messages use the name of a kind, encoded
trees its tag.
-/

namespace Folio

/-- The kinds of node, and the document root. -/
inductive Kind where
  | text
  | image
  | content
  | paragraph
  | bold
  | italic
  | underline
  | strikethrough
  | code
  | superscript
  | subscript
  | codeBlock
  | inlineQuote
  | blockQuote
  | listItem
  | cell
  | section
  | internalLink
  | externalLink
  | webLink
  | unorderedList
  | orderedList
  | definitionList
  | definition
  | figure
  | row
  | table
  | document
  deriving DecidableEq, Repr, Inhabited

namespace Kind

/-- The kinds that may stand below the root, in their standing order. -/
def nodes : List Kind :=
  [text, image, content, paragraph, bold, italic, underline, strikethrough, code, superscript,
    subscript, codeBlock, inlineQuote, blockQuote, listItem, cell, .section, internalLink,
    externalLink, webLink, unorderedList, orderedList, definitionList, definition, figure, row,
    table]

/-- Every kind. -/
def all : List Kind := nodes ++ [document]

/-- The word for a kind in encoded trees. -/
def tag : Kind → String
  | text => "text"
  | image => "image"
  | content => "content"
  | paragraph => "paragraph"
  | bold => "bold"
  | italic => "italic"
  | underline => "underline"
  | strikethrough => "strikethrough"
  | code => "code"
  | superscript => "superscript"
  | subscript => "subscript"
  | codeBlock => "code_block"
  | inlineQuote => "inline_quote"
  | blockQuote => "block_quote"
  | listItem => "list_item"
  | cell => "cell"
  | .section => "section"
  | internalLink => "internal_link"
  | externalLink => "external_link"
  | webLink => "web_link"
  | unorderedList => "unordered_list"
  | orderedList => "ordered_list"
  | definitionList => "definition_list"
  | definition => "definition"
  | figure => "figure"
  | row => "row"
  | table => "table"
  | document => "document"

/-- The word for a kind in messages. -/
def name : Kind → String
  | text => "TextNode"
  | image => "Image"
  | content => "ContentNode"
  | paragraph => "Paragraph"
  | bold => "Bold"
  | italic => "Italic"
  | underline => "Underline"
  | strikethrough => "Strikethrough"
  | code => "Code"
  | superscript => "Superscript"
  | subscript => "Subscript"
  | codeBlock => "CodeBlock"
  | inlineQuote => "InlineQuote"
  | blockQuote => "BlockQuote"
  | listItem => "ListItem"
  | cell => "Cell"
  | .section => "Section"
  | internalLink => "InternalLink"
  | externalLink => "ExternalLink"
  | webLink => "WebLink"
  | unorderedList => "UnorderedList"
  | orderedList => "OrderedList"
  | definitionList => "DefinitionList"
  | definition => "Definition"
  | figure => "Figure"
  | row => "Row"
  | table => "Table"
  | document => "Document"

/-- The kind with a tag. -/
def ofTag? (tag : String) : Option Kind := all.find? fun kind => kind.tag == tag

/-- No two kinds share a tag. -/
theorem ofTag?_tag (kind : Kind) : ofTag? kind.tag = some kind := by
  cases kind <;> rfl

end Kind

/-- How a kind lays out its structural children: none, one sequence, or several fields. -/
inductive Shape where
  | leaf
  | sequence
  | fields
  deriving DecidableEq, Repr

/-- The word for a shape. -/
def Shape.text : Shape → String
  | leaf => "leaf"
  | sequence => "sequence"
  | fields => "fields"

/-- The shape of a kind. -/
def Kind.shape : Kind → Shape
  | text | image => .leaf
  | .section | definition | figure | row => .fields
  | _ => .sequence

/-- What nodes can be asked for: a kind, taken with the kinds that extend it, or a family
that no node belongs to directly. -/
inductive Category where
  | node
  | markup
  | quote
  | link
  | list
  | of (kind : Kind)
  deriving DecidableEq, Repr, Inhabited

namespace Category

/-- The word for a category in messages. -/
def name : Category → String
  | node => "Node"
  | markup => "Markup"
  | quote => "Quote"
  | link => "Link"
  | list => "ListNode"
  | of kind => kind.name

/-- The word for a category in encoded trees. -/
def tag : Category → String
  | node => "node"
  | markup => "markup"
  | quote => "quote"
  | link => "link"
  | list => "list"
  | of kind => kind.tag

/-- The next wider category. -/
def parent? : Category → Option Category
  | node => none
  | markup | quote | link => some (.of .content)
  | list => some .node
  | of .document => none
  | of .text | of .image | of .content | of .definition | of .figure | of .row
  | of .table => some .node
  | of .paragraph | of .codeBlock | of .listItem | of .cell | of .section =>
    some (.of .content)
  | of .bold | of .italic | of .underline | of .strikethrough | of .code
  | of .superscript | of .subscript => some .markup
  | of .inlineQuote | of .blockQuote => some .quote
  | of .internalLink | of .externalLink | of .webLink => some .link
  | of .unorderedList | of .orderedList | of .definitionList => some .list

/-- A category and the wider ones that hold it; none is more than four steps wide. -/
def ancestors (category : Category) : List Category := go 4 category
where
  /-- Follow `parent?` for at most `steps` steps. -/
  go : Nat → Category → List Category
    | 0, category => [category]
    | steps + 1, category =>
      category :: match category.parent? with
        | some parent => go steps parent
        | none => []

/-- Nodes of the kind belong to the category. -/
def includes (category : Category) (kind : Kind) : Bool :=
  (ancestors (.of kind)).contains category

/-- All categories in their standing order: each before those it holds. -/
def all : List Category :=
  [node, of .text, of .image, of .content, of .paragraph, markup, of .bold,
    of .italic, of .underline, of .strikethrough, of .code, of .superscript,
    of .subscript, of .codeBlock, quote, of .inlineQuote, of .blockQuote,
    of .listItem, of .cell, of .section, link, of .internalLink, of .externalLink,
    of .webLink, list, of .unorderedList, of .orderedList, of .definitionList,
    of .definition, of .figure, of .row, of .table, of .document]

/-- The category with a name. -/
def ofName? (name : String) : Option Category := all.find? fun category => category.name == name

/-- The shape shared by the nodes of a category; a bare node has no children. -/
def shape : Category → Shape
  | node => .leaf
  | markup | quote | link | list => .sequence
  | of kind => kind.shape

/-- The categories in their standing order that hold a category. -/
def families (category : Category) : List Category :=
  all.filter fun other => category.ancestors.contains other

/-- The root is not a node, every other kind is. -/
theorem node_includes (kind : Kind) : node.includes kind = (kind != .document) := by
  cases kind <;> rfl

/-- A kind includes itself. -/
theorem includes_self (kind : Kind) : (Category.of kind).includes kind = true := by
  cases kind <;> rfl

end Category

end Folio
