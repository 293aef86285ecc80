import Folio.Tree.Position
import Folio.Tree.Traversal

/-!
# Places

A place names a node by the fields that lead to it: a field for one node by its name, an
item of a list by its field and number. Numbers below zero count from the end of the list.
-/

namespace Folio.Tree

/-- One step down: a structural field and, in a list, the number of an item. -/
structure Descent where
  field : String
  index : Option Int := none
  deriving Repr, DecidableEq, Inhabited

/-- Steps down from the root. -/
abbrev Place := List Descent

/-- The place in a list of `length` that a number means. -/
def resolve (length : Nat) (index : Int) : Option Nat :=
  let place := if index < 0 then index + length else index
  if 0 ≤ place && place < length then some place.toNat else none

/-- The place of an insertion: numbers outside the list mean its nearer end. -/
def resolveInsert (length : Nat) (index : Int) : Nat :=
  let place := if index < 0 then index + length else index
  min place.toNat length

/-- The child that a step leads to. -/
def child? (tree : Tree) (descent : Descent) : Option Tree := do
  let slot ← tree.slot? descent.field
  match slot, descent.index with
  | .one content, none => some content
  | .many contents, some index =>
    let place ← resolve contents.length index
    contents[place]?
  | _, _ => none

/-- Change the child that a step leads to. -/
def modifyChild (descent : Descent) (change : Tree → Tree) (tree : Tree) : Tree :=
  tree.withSlot descent.field fun slot =>
    match slot, descent.index with
    | .one content, none => .one (change content)
    | .many contents, some index =>
      match resolve contents.length index with
      | some place => .many (contents.modify place change)
      | none => .many contents
    | other, _ => other

/-- The node at a place. -/
def find? : Tree → Place → Option Tree
  | tree, [] => some tree
  | tree, descent :: rest => (tree.child? descent).bind fun child => child.find? rest

/-- Change the node at a place. -/
def modifyPlace (change : Tree → Tree) : Place → Tree → Tree
  | [], tree => change tree
  | descent :: rest, tree => tree.modifyChild descent (modifyPlace change rest)

/-- Insert a node into a list field. -/
def insertInto (field : String) (index : Int) (item tree : Tree) : Tree :=
  tree.withSlot field fun slot =>
    let items := slot.toList
    .many (items.insertIdx (resolveInsert items.length index) item)

/-- The item of a list field with a number, and the node without it. -/
def removeFrom (field : String) (index : Int) (tree : Tree) : Option (Tree × Tree) := do
  let slot ← tree.slot? field
  let items := slot.toList
  let place ← resolve items.length index
  let item ← items[place]?
  pure (item, tree.withSlot field fun _ => .many (items.eraseIdx place))

/-- The depth and tag of every node. -/
def outline (tree : Tree) : List (Int × String) :=
  (tree.visits 0).filterMap fun (depth, visited) =>
    visited.kind?.map fun kind => (depth, kind.tag)

end Folio.Tree
