import Folio.Tree

/-!
# Relabelling

The heads of all nodes of a tree can be changed at once; structure and metadata stay.
-/

namespace Folio.Tree

mutual

/-- Change every head of a tree. -/
def mapHeads (change : Head → Head) : Tree → Tree
  | .node head metadata slots => .node (change head) metadata (mapHeadsSlots change slots)
  | .stray value => .stray value

/-- Change every head in some slots. -/
def mapHeadsSlots (change : Head → Head) : List (Slot Tree) → List (Slot Tree)
  | [] => []
  | .one tree :: rest => .one (mapHeads change tree) :: mapHeadsSlots change rest
  | .many trees :: rest => .many (mapHeadsAll change trees) :: mapHeadsSlots change rest

/-- Change every head of several trees. -/
def mapHeadsAll (change : Head → Head) : List Tree → List Tree
  | [] => []
  | tree :: rest => mapHeads change tree :: mapHeadsAll change rest

end

/-- Every text, and the target of every internal link, becomes `mark`. -/
def scribble (mark : String) : Tree → Tree :=
  mapHeads fun head =>
    match head with
    | .text _ => .text mark
    | .internalLink _ => .internalLink (.text mark)
    | other => other

end Folio.Tree
