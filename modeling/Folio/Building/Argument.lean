import Folio.Fault
import Folio.Signature
import Folio.Tree.Decoding

/-!
# Arguments of the factories

Factories build nodes from other nodes and from plain values. A text that stands where a
node is wanted becomes a text node; every other value is taken as it is.
-/

namespace Folio.Building

/-- A value given to a factory: a tree, a plain value or a list of values. -/
inductive Argument where
  | tree (tree : Tree)
  | plain (value : Json)
  | list (items : List Argument)
  deriving Inhabited

/-- Why nothing can be built from arguments. -/
inductive BuildError where
  | unfit (cause : CallError)
  | fault (cause : Fault)
  | tooFewInPair (count : Nat)
  | tooManyInPair
  | notAPair (type : String)
  | levelTooSmall (level : Scalar)
  | nothingOpen
  | notEncoded (cause : DecodeError)
  | unknownFactory (name : String)
  deriving Inhabited, Repr

namespace BuildError

/-- The wording of a build error. -/
def message : BuildError → String
  | unfit cause => cause.message
  | fault cause => cause.message
  | tooFewInPair count => s!"not enough values to unpack (expected 2, got {count})"
  | tooManyInPair => "too many values to unpack (expected 2)"
  | notAPair type => s!"cannot unpack non-iterable {type} object"
  | levelTooSmall level => "Level must be >= 1, got " ++ level.plain
  | nothingOpen => "No open section to close"
  | notEncoded cause => cause.message
  | unknownFactory name => s!"module 'docmodel.builder' has no attribute '{name}'"

end BuildError

namespace Argument

/-- The word for the kind of an argument in messages. -/
def typeName : Argument → String
  | tree value => value.typeName
  | plain value => value.typeName
  | list _ => "list"

/-- The argument as it is, in a place for a node. -/
def bare : Argument → Tree
  | tree value => value
  | plain value => .stray value
  | list _ => .stray (.arr [])

/-- The argument as a node; a text becomes a text node. -/
def node : Argument → Tree
  | plain (.str text) => Tree.ofText text
  | other => other.bare

/-- The argument as the content of a field for one node. -/
def slot : Argument → Slot Tree
  | list items => .many (items.map bare)
  | plain (.arr items) => .many (items.map Tree.stray)
  | other => .one other.node

/-- The text of an argument, empty if it is none. -/
def text : Argument → String
  | plain (.str text) => text
  | _ => ""

/-- The argument as a reference. -/
def scalar : Argument → Scalar
  | plain (.scalar value) => value
  | _ => .text ""

mutual

/-- The argument as a value in metadata, where nodes have no form. -/
def json : Argument → Json
  | plain value => value
  | tree _ => .null
  | list items => .arr (jsonItems items)

/-- The items of a list as values in metadata. -/
def jsonItems : List Argument → List Json
  | [] => []
  | item :: rest => json item :: jsonItems rest

end

/-- The argument counts as given. -/
def isSet : Argument → Bool
  | tree _ => true
  | plain (.scalar value) => value.isSet
  | plain (.arr items) => !items.isEmpty
  | plain (.obj members) => !members.isEmpty
  | list items => !items.isEmpty

/-- The characters of a text as arguments. -/
def characters (text : String) : List Argument :=
  text.toList.map fun character => plain (.str character.toString)

/-- The values that an argument consists of: the items of a list, the characters of a text or the
names in an object. -/
def elements : Argument → Except BuildError (List Argument)
  | list items => .ok items
  | plain (.arr items) => .ok (items.map plain)
  | plain (.obj members) => .ok (members.map fun member => plain (.str member.1))
  | plain (.str text) => .ok (characters text)
  | other => .error (.fault (.notIterable other.typeName))

/-- A term and its definition. -/
def pair : Argument → Except BuildError (Argument × Argument)
  | argument =>
    match argument.elements with
    | .error _ => .error (.notAPair argument.typeName)
    | .ok [first, second] => .ok (first, second)
    | .ok items =>
      if items.length < 2 then .error (.tooFewInPair items.length) else .error .tooManyInPair

end Argument

end Folio.Building
