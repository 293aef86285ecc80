import Folio.Tree.Text

/-!
# Outlines

An outline is what a table of contents says without being a tree of nodes: titles with their
references, and below each the entries inside it.
-/

namespace Folio

/-- An entry of an outline with the entries below it. -/
inductive Outline where
  | entry (title : String) (reference : Scalar) (below : List Outline)
  deriving Repr, Inhabited

namespace Outline

/-- The reference that a link shows. -/
def referenceOf : Tree → Scalar
  | .node (.internalLink reference) _ _ => reference
  | _ => .text ""

mutual

/-- The entry of an item of a table of contents: the link comes first, nested lists follow. -/
def ofItem : Tree → Outline
  | .node _ _ [.many (link :: nested)] => .entry link.text (referenceOf link) (ofLists nested)
  | _ => .entry "" (.text "") []

/-- The entries of nested lists. -/
def ofLists : List Tree → List Outline
  | [] => []
  | .node _ _ [.many items] :: rest => ofItems items ++ ofLists rest
  | _ :: rest => ofLists rest

/-- The entries of some items. -/
def ofItems : List Tree → List Outline
  | [] => []
  | item :: rest => ofItem item :: ofItems rest

end

/-- The entries of a table of contents. -/
def ofContents : Tree → List Outline
  | .node _ _ [.many items] => ofItems items
  | _ => []

mutual

/-- The lines of an entry: its number among its neighbours, its title and its reference,
indented by its level, and the lines below it. -/
def lines (level number : Nat) : Outline → List String
  | .entry title reference below =>
    (String.join (List.replicate level "  ") ++
        s!"{number}. " ++ title ++ " (#" ++ reference.plain ++ ")") ::
      linesFrom (level + 1) 1 below

/-- The lines of neighbours, numbered from a number on. -/
def linesFrom (level number : Nat) : List Outline → List String
  | [] => []
  | first :: rest => lines level number first ++ linesFrom level (number + 1) rest

end

end Outline

end Folio
