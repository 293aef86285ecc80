import Folio.Fault
import Folio.Tree.Visitor

/-!
# Edits during a visit

An edit changes nodes of one kind when they are visited, before their children are read,
and as often as its limit allows.
-/

namespace Folio.Tree

/-- A change of one node. -/
inductive Change where
  | clear
  | append (text : String)
  | reverse
  | wrap
  | setText (text : String)
  | setTitle (text : String)
  deriving Repr, DecidableEq

namespace Change

/-- The change of a list of children. -/
def onChildren : Change → List Tree → List Tree
  | clear, _ => []
  | append text, trees => trees ++ [ofText text]
  | reverse, trees => trees.reverse
  | wrap, trees => [ofList .content trees]
  | _, trees => trees

/-- The change needs the children that it replaces. -/
def readsChildren : Change → Bool
  | append _ | reverse | wrap => true
  | _ => false

/-- Change a node. A node without the field that is to change stays as it is, unless the
change has to read it. -/
def apply (change : Change) (tree : Tree) : Except Fault Tree :=
  match change with
  | setText text => .ok <| tree.withAttribute "text" (.text text)
  | setTitle text =>
    .ok <| if tree.isA (.of .section) then
      tree.withSlot "title" fun _ => .one (ofList .paragraph [ofText text])
    else tree
  | change =>
    match tree.slot? "children" with
    | some _ =>
      .ok <| tree.withSlot "children" fun slot => .many (change.onChildren slot.toList)
    | none =>
      if change.readsChildren then .error (.noMember tree.typeName "children") else .ok tree

end Change

/-- Change the first `limit` visited nodes that have a tag. -/
structure Edit where
  tag : String
  change : Change
  limit : Nat
  deriving Repr

namespace Edit

/-- What an edit has left to do, and the fault that stopped it, if one did. -/
structure State where
  left : Nat
  fault : Option Fault := none

/-- The edit as a visitor. -/
def visitor (edit : Edit) : Visitor State := fun _ tree state =>
  if state.left != 0 && state.fault.isNone && tree.kind?.map Kind.tag == some edit.tag then
    match edit.change.apply tree with
    | .ok changed => (changed, { state with left := state.left - 1 })
    | .error fault => (tree, { state with fault := some fault })
  else (tree, state)

/-- Each change adds at most two levels and two nodes to the tree it is applied to. -/
def growth (edit : Edit) : Nat := 2 * edit.limit

end Edit

/-- An outcome of a visit: the trees seen, before they were changed, with their depths. -/
abbrev Seen := List (Int × Tree)

/-- The nodes that an edited traversal sees. -/
def traverseEdited (edit : Option Edit) (depth : Int) (tree : Tree) :
    Except Fault Seen :=
  match edit with
  | none => .ok (tree.visits depth)
  | some edit =>
    match traverse edit.visitor.recording (tree.size + edit.growth) depth tree
        ({ left := edit.limit }, []) with
    | none => .ok []
    | some (_, state, seen) =>
      match state.fault with
      | some fault => .error fault
      | none => .ok seen.reverse

/-- The nodes that an edited walk sees within a number of visits. A change made at the last
of them still counts as made. -/
def walkEdited (edit : Option Edit) (stop : Option Nat) (depth : Int) (tree : Tree) :
    Except Fault Seen :=
  match edit with
  | none => .ok <| match stop with
    | none => tree.visits depth
    | some count => (tree.visits depth).take count
  | some edit =>
    let visits := match stop with
      | none => tree.size + edit.growth
      | some count => min count (tree.size + edit.growth)
    let walk := Walk.run edit.visitor.recording visits
      (Walk.start depth tree ({ left := edit.limit }, []))
    match walk.state.1.fault with
    | some fault => .error fault
    | none => .ok walk.state.2.reverse

end Folio.Tree
