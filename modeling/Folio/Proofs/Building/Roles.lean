import Folio.Building.Expression
import Folio.Tree.Text
import Folio.Tree.Validation

/-!
# Roles and words of expressions

What an expression stands for is found without building anything. Its role says whether that is
a text, a node of some kind or a list, and it has one only if every factory in it is given what
it takes. Its words are those of its arguments, one after another, sorted to the parameters as
for the factory itself. Neither looks at the trees that factories build.
-/

namespace Folio.Building

/-- What an expression stands for. -/
inductive Role where
  | text
  | null
  | value
  | node (kind : Kind)
  | list (items : List Role)
  deriving Inhabited, Repr

namespace Role

def isText : Role → Bool
  | text => true
  | _ => false

/-- Plain values, which texts are as well. -/
def isPlain : Role → Bool
  | text | null | value => true
  | _ => false

def isNode : Role → Bool
  | node _ => true
  | _ => false

def isNodeOf (kind : Kind) : Role → Bool
  | node other => other == kind
  | _ => false

/-- A text stands for a text node where nodes are wanted. -/
def isInline (role : Role) : Bool := role.isText || role.isNode

def isPair : Role → Bool
  | list [term, body] => term.isInline && body.isInline
  | _ => false

/-- A list of entries, or nothing in its place. -/
def isEntries : Role → Bool
  | null => true
  | list items => items.all isInline
  | _ => false

/-- The role of a plain value. -/
def ofPlain : Json → Role
  | .str _ => text
  | .null => null
  | _ => value

/-- The role of a tree: documents have none, and neither have nodes in which something is
wrong. -/
def ofTree? (tree : Tree) : Option Role := do
  let kind ← tree.kind?
  if kind != .document && tree.violations.isEmpty then some (node kind) else none

/-- The role of a node tells its kind. -/
theorem exists_kind {role : Role} (isNode : role.isNode = true) : ∃ kind, role = .node kind := by
  cases role with
  | node kind => exact ⟨kind, rfl⟩
  | _ => cases isNode

/-- The role of a node of a kind is that one. -/
theorem eq_node {role : Role} {kind : Kind} (isNode : role.isNodeOf kind = true) :
    role = .node kind := by
  cases role with
  | node other => exact congrArg node (eq_of_beq isNode)
  | _ => cases isNode

end Role

namespace Factory

/-- The kind of the nodes that a factory builds. -/
def kind : Factory → Kind
  | text => .text
  | paragraph => .paragraph
  | bold => .bold
  | italic => .italic
  | codeBlock => .codeBlock
  | group => .content
  | .section => .section
  | webLink => .webLink
  | figure => .figure
  | listItem => .listItem
  | orderedList => .orderedList
  | unorderedList => .unorderedList
  | definitionList => .definitionList
  | row => .row
  | table => .table

/-- The arguments of a factory are what it takes: texts or nodes for content, entries and titles,
nodes for the body of a section, rows for a table, pairs for a list of definitions, and texts for
attributes. -/
def takes (factory : Factory) (bound : Bound Role) : Bool :=
  let given (name : String) (test : Role → Bool) : Bool := (bound.get? name).any test
  let perhaps (name : String) (test : Role → Bool) : Bool := (bound.get? name).all test
  match factory with
  | text => given "value" Role.isText && bound.others.all fun entry => entry.2.isPlain
  | codeBlock => given "source" Role.isText && perhaps "language" Role.isText
  | .section =>
    given "title" Role.isInline && bound.rest.all Role.isNode && perhaps "reference" Role.isText
  | webLink => given "uri" Role.isText && bound.rest.all Role.isInline
  | figure =>
    given "source" Role.isText && bound.rest.all Role.isInline && perhaps "alt" Role.isText
  | definitionList => bound.rest.all Role.isPair
  | row =>
    perhaps "header" Role.isEntries && bound.rest.all Role.isInline &&
      perhaps "footer" Role.isEntries
  | table => bound.rest.all (Role.isNodeOf .row)
  | _ => bound.rest.all Role.isInline

/-- The words of the arguments that the text of what a factory builds consists of, in order. -/
def told (factory : Factory) (bound : Bound String) : List String :=
  let given (name : String) : List String := (bound.get? name).toList
  match factory with
  | text => given "value"
  | codeBlock => given "source"
  | .section => given "title" ++ bound.rest
  | webLink => if bound.rest.isEmpty then given "uri" else bound.rest
  | row => given "header" ++ bound.rest ++ given "footer"
  | _ => bound.rest

end Factory

namespace Expression

/-- A property of all expressions holds if it passes from the items of a list to the list and
from the arguments of a call to the call, and holds of values and nodes. -/
theorem induction {motive : Expression → Prop} (plain : ∀ value, motive (.plain value))
    (node : ∀ tree, motive (.node tree)) (encoded : ∀ value, motive (.encoded value))
    (list : ∀ items, (∀ item ∈ items, motive item) → motive (.list items))
    (call : ∀ factory arguments named, (∀ argument ∈ arguments, motive argument) →
      (∀ entry ∈ named, motive entry.2) → motive (.call factory arguments named))
    (expression : Expression) : motive expression := by
  refine Expression.rec (motive_1 := motive)
    (motive_2 := fun items => ∀ item ∈ items, motive item)
    (motive_3 := fun named => ∀ entry ∈ named, motive entry.2)
    (motive_4 := fun entry => motive entry.2) plain node encoded list
    (fun factory arguments named => call factory arguments named) ?_ ?_ ?_ ?_ ?_ expression
  · simp
  · exact fun _ _ first rest => List.forall_mem_cons.2 ⟨first, rest⟩
  · simp
  · exact fun _ _ first rest => List.forall_mem_cons.2 ⟨first, rest⟩
  · exact fun _ _ value => value

mutual

/-- What an expression stands for, if every factory in it is given what it takes. -/
def role? : Expression → Option Role
  | .plain value => some (.ofPlain value)
  | .node tree => Role.ofTree? tree
  | .encoded value => (Tree.decode value).toOption.bind Role.ofTree?
  | .list items => (roles? items).map .list
  | .call name arguments named => do
    let roles ← roles? arguments
    let others ← namedRoles? named
    let factory ← Factory.ofName? name
    let bound ← (factory.signature.bind roles others).toOption
    if factory.takes bound then some (.node factory.kind) else none

/-- What several expressions stand for. -/
def roles? : List Expression → Option (List Role)
  | [] => some []
  | expression :: rest => do
    let role ← role? expression
    let others ← roles? rest
    pure (role :: others)

/-- What expressions that are given by name stand for. -/
def namedRoles? : List (String × Expression) → Option (List (String × Role))
  | [] => some []
  | (name, expression) :: rest => do
    let role ← role? expression
    let others ← namedRoles? rest
    pure ((name, role) :: others)

end

mutual

/-- The words of an expression: a text, the text of a node, or what the arguments of a call say,
one after another. -/
def words : Expression → String
  | .plain (.str text) => text
  | .plain _ => ""
  | .node tree => tree.text
  | .encoded value => ((Tree.decode value).toOption.map Tree.text).getD ""
  | .list items => String.join (wordsAll items)
  | .call name arguments named =>
    let told? : Option (List String) := do
      let factory ← Factory.ofName? name
      let bound ← (factory.signature.bind (wordsAll arguments) (wordsNamed named)).toOption
      some (factory.told bound)
    String.join (told?.getD [])

/-- The words of several expressions, one by one. -/
def wordsAll : List Expression → List String
  | [] => []
  | expression :: rest => words expression :: wordsAll rest

/-- The words of expressions that are given by name, one by one. -/
def wordsNamed : List (String × Expression) → List (String × String)
  | [] => []
  | (name, expression) :: rest => (name, words expression) :: wordsNamed rest

end

end Expression

end Folio.Building
