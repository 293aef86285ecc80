import Folio.Building.Argument

/-!
# Factories

A factory builds a node of one kind from arguments by position and by name. Items of lists
and cells of rows are wrapped, unless they already are what is wanted.
-/

namespace Folio.Building

/-- The factories. -/
inductive Factory where
  | text
  | paragraph
  | bold
  | italic
  | codeBlock
  | group
  | section
  | webLink
  | figure
  | listItem
  | orderedList
  | unorderedList
  | definitionList
  | row
  | table
  deriving DecidableEq, Repr, Inhabited

namespace Factory

/-- The name of a factory. -/
def name : Factory → String
  | text => "text"
  | paragraph => "paragraph"
  | bold => "bold"
  | italic => "italic"
  | codeBlock => "code_block"
  | group => "group"
  | .section => "section"
  | webLink => "web_link"
  | figure => "figure"
  | listItem => "list_item"
  | orderedList => "ordered_list"
  | unorderedList => "unordered_list"
  | definitionList => "definition_list"
  | row => "row"
  | table => "table"

/-- Every factory. -/
def all : List Factory :=
  [text, paragraph, bold, italic, codeBlock, group, .section, webLink, figure, listItem,
    orderedList, unorderedList, definitionList, row, table]

/-- The factory with a name. -/
def ofName? (name : String) : Option Factory := all.find? fun factory => factory.name == name

/-- The parameters of a factory. -/
def signature (factory : Factory) : Signature :=
  let base : Signature := { name := factory.name ++ "()" }
  match factory with
  | text => { base with required := ["value"], others := true }
  | codeBlock => { base with required := ["source"], optional := ["language"] }
  | .section => { base with required := ["title"], namedOnly := ["reference"], rest := true }
  | webLink => { base with required := ["uri"], rest := true }
  | figure => { base with required := ["source"], namedOnly := ["alt"], rest := true }
  | row => { base with namedOnly := ["header", "footer"], rest := true }
  | _ => { base with rest := true }

/-- An entry where nodes of one kind are wanted: these are kept, all else is wrapped in one. -/
def asEntry (head : Head) (argument : Argument) : Tree :=
  match argument with
  | .tree tree => if tree.isA (.of head.kind) then tree else Tree.ofList head [tree]
  | other => Tree.ofList head [other.node]

/-- The cells that one argument holds; without the argument there are none. -/
def cellsOf (argument : Option Argument) : Except BuildError (List Tree) :=
  match argument with
  | none => .ok []
  | some argument =>
    if argument.isSet then (argument.elements).map (·.map (asEntry .cell)) else .ok []

/-- A definition from a term and a body. -/
def asDefinition (argument : Argument) : Except BuildError Tree := do
  let (term, body) ← argument.pair
  pure (.node .definition [] [term.slot, body.slot])

/-- Build a node from arguments that have been sorted to the parameters. -/
def build (factory : Factory) (bound : Bound Argument) : Except BuildError Tree :=
  let given (name : String) : Argument := (bound.get? name).getD (.plain (.str ""))
  let content := bound.rest.map Argument.node
  match factory with
  | text =>
    let metadata := bound.others.map fun entry => (entry.1, entry.2.json)
    .ok (Tree.ofText (given "value").text metadata)
  | paragraph => .ok (Tree.ofList .paragraph content)
  | bold => .ok (Tree.ofList .bold content)
  | italic => .ok (Tree.ofList .italic content)
  | codeBlock =>
    .ok (Tree.ofList (.codeBlock (given "language").text) [Tree.ofText (given "source").text])
  | group => .ok (Tree.ofList .content content)
  | .section =>
    .ok (.node (.section (given "reference").scalar) []
      [(given "title").slot, .many (bound.rest.map Argument.bare)])
  | webLink =>
    let uri := given "uri"
    let label := if bound.rest.isEmpty then [uri.node] else content
    .ok (Tree.ofList (.webLink uri.text) label)
  | figure =>
    let image := Tree.node (.image (given "source").text (given "alt").text) [] []
    .ok (.node .figure [] [.one image, .many content])
  | listItem => .ok (Tree.listItem content)
  | orderedList => .ok (Tree.orderedList (bound.rest.map (asEntry .listItem)))
  | unorderedList => .ok (Tree.ofList .unorderedList (bound.rest.map (asEntry .listItem)))
  | definitionList => do
    let items ← bound.rest.mapM asDefinition
    pure (Tree.ofList .definitionList items)
  | row => do
    let header ← cellsOf (bound.get? "header")
    let footer ← cellsOf (bound.get? "footer")
    pure (.node .row [] [.many header, .many (bound.rest.map (asEntry .cell)), .many footer])
  | table => .ok (Tree.ofList .table (bound.rest.map Argument.bare))

/-- Apply a factory to arguments by position and by name. -/
def apply (factory : Factory) (arguments : List Argument) (named : List (String × Argument)) :
    Except BuildError Tree :=
  match factory.signature.bind arguments named with
  | .error cause => .error (.unfit cause)
  | .ok bound => factory.build bound

end Factory

end Folio.Building
