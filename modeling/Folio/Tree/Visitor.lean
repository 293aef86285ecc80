import Folio.Tree.Position
import Folio.Tree.Traversal

/-!
# Visits that change the tree

A visitor sees a tree with its depth, changes its own state and gives back what stands in
the tree's place; the children are read afterwards. `traverse` runs a visitor by recursion.
`Walk` runs it step by step on a stack of positions, so that a run can stop after any
number of visits. A visitor that grows the tree for ever has no end, so both runs carry a
bound.
-/

namespace Folio.Tree

/-- What happens at a visit: the state after it and the tree that takes the visited place. -/
abbrev Visitor (σ : Type) := Int → Tree → σ → Tree × σ

namespace Visitor

/-- Also keep every visited tree, as it is before the change, with its depth; the latest
comes first. -/
def recording {σ : Type} (visitor : Visitor σ) : Visitor (σ × List (Int × Tree)) :=
  fun depth tree (state, seen) =>
    let (changed, after) := visitor depth tree state
    (changed, (after, (depth, tree) :: seen))

end Visitor

/-- Visit several trees in order, each with the state that the ones before it left. -/
def traverseEach {σ : Type} (visit : Tree → σ → Option (Tree × σ)) :
    List Tree → σ → Option (List Tree × σ)
  | [], state => some ([], state)
  | tree :: rest, state => do
    let (first, state) ← visit tree state
    let (others, state) ← traverseEach visit rest state
    pure (first :: others, state)

/-- Visit a tree and everything below it. `levels` bounds the depth of the resulting tree. -/
def traverse {σ : Type} (visitor : Visitor σ) : (levels : Nat) → Int → Tree → σ →
    Option (Tree × σ)
  | 0, _, _, _ => none
  | levels + 1, depth, tree, state => do
    let (changed, state) := visitor depth tree state
    let (below, state) ←
      traverseEach (traverse visitor levels (depth + 1)) changed.children state
    pure (changed.withChildren below, state)

/-- A visit that is under way: the whole tree, the positions still to be visited with their
depths, the next one first, and the state of the visitor. -/
structure Walk (σ : Type) where
  tree : Tree
  pending : List (Int × Position)
  state : σ

namespace Walk

/-- Before the first visit. -/
def start {σ : Type} (depth : Int) (tree : Tree) (state : σ) : Walk σ :=
  { tree, pending := [(depth, [])], state }

/-- Visit the next position, and then put its children in its place on the stack. -/
def step {σ : Type} (visitor : Visitor σ) (walk : Walk σ) : Walk σ :=
  match walk.pending with
  | [] => walk
  | (depth, position) :: pending =>
    match walk.tree.at? position with
    | none => { walk with pending }
    | some tree =>
      let (changed, state) := visitor depth tree walk.state
      let below := (List.range changed.children.length).map fun index =>
        (depth + 1, position ++ [index])
      { tree := replaceAt position changed walk.tree, pending := below ++ pending, state }

/-- The walk after at most `visits` visits. -/
def run {σ : Type} (visitor : Visitor σ) : (visits : Nat) → Walk σ → Walk σ
  | 0, walk => walk
  | visits + 1, walk =>
    match walk.pending with
    | [] => walk
    | _ :: _ => run visitor visits (walk.step visitor)

end Walk

end Folio.Tree
