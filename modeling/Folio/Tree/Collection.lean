import Folio.Tree.Text

/-!
# Collections of nodes

Nodes are collected from a tree in the order of a visit, the root included, by category or
by any other test.
-/

namespace Folio.Tree

/-- The nodes of a tree that pass a test. -/
def collectWhere (test : Tree → Bool) (tree : Tree) : List Tree := tree.preorder.filter test

/-- The nodes of a tree that belong to one of some categories. -/
def collect (categories : List Category) (tree : Tree) : List Tree :=
  tree.collectWhere fun visited => categories.any visited.isA

/-- The figures of a tree. -/
def figures (tree : Tree) : List Tree := tree.collect [.of .figure]

/-- The tables of a tree. -/
def tables (tree : Tree) : List Tree := tree.collect [.of .table]

/-- The links to the web in a tree. -/
def webLinks (tree : Tree) : List Tree := tree.collect [.of .webLink]

/-- The sections of a tree. -/
def sections (tree : Tree) : List Tree := tree.collect [.of .section]

/-- A question about a single node. -/
inductive Test where
  | all
  | textContains (part : String)
  | leaf (expected : Bool)
  | metadataKey (name : String)
  | shape (shape : Shape)
  deriving Repr

/-- The text `part` stands somewhere in a text. -/
def containsText (part : List Char) : List Char → Bool
  | [] => part.isEmpty
  | character :: rest =>
    part.isPrefixOf (character :: rest) || containsText part rest

/-- The metadata of a node that has any; a document has none. -/
def metadata? : Tree → Option Json.Members
  | .node (.document _) _ _ => none
  | .node _ metadata _ => some metadata
  | .stray _ => none

/-- The answer to a question about a node. -/
def Test.holds (test : Test) (tree : Tree) : Bool :=
  match test with
  | all => true
  | textContains part => containsText part.toList tree.text.toList
  | leaf expected => tree.children.isEmpty == expected
  | metadataKey name => (tree.metadata?.bind (·.get? name)).isSome
  | shape expected => tree.kind?.map Kind.shape == some expected

/-- What a visit calls: the own handler of a tag, or the general one, or nothing. -/
structure Call where
  handler : Option String
  tag : String
  depth : Int
  deriving Repr, DecidableEq

/-- The calls of a visit with handlers for some tags and perhaps a general one. -/
def calls (handlers : List String) (general : Bool) (tree : Tree) : List Call :=
  (tree.visits 0).filterMap fun (depth, visited) => do
    let tag ← visited.kind?.map Kind.tag
    if handlers.contains tag then some ⟨some tag, tag, depth⟩
    else if general then some ⟨none, tag, depth⟩
    else none

end Folio.Tree
