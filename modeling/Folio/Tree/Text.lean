import Folio.Tree.Traversal

/-!
# The text of a tree

All texts of a tree, in the order of a visit and with nothing between them.
-/

namespace Folio.Tree

/-- The text of a text node; no other node has one of its own. -/
def ownText : Tree → String
  | .node (.text value) _ _ => value
  | _ => ""

/-- The texts of a tree, joined. -/
def text (tree : Tree) : String := String.join (tree.preorder.map ownText)

end Folio.Tree
