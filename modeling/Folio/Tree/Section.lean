import Folio.Tree.Collection

/-!
# Sections

A section has a title, a body and a reference by which links find it. The empty reference
means that none has been given yet.
-/

namespace Folio.Tree

/-- The title among the slots of a section. -/
def titleIn : List (Slot Tree) → Tree
  | .one title :: _ => title
  | _ => ofText ""

/-- The title of a section. -/
def title : Tree → Tree
  | .node _ _ slots => titleIn slots
  | .stray _ => ofText ""

/-- The text of a section's title. -/
def titleText (tree : Tree) : String := tree.title.text

/-- The reference of a section. -/
def reference : Tree → Scalar
  | .node (.section reference) _ _ => reference
  | _ => .text ""

/-- The references of all sections, in the order of a visit. -/
def references (tree : Tree) : List Scalar := tree.sections.map reference

/-- Title text and reference of all sections, in the order of a visit. -/
def referenceTable (tree : Tree) : List (String × Scalar) :=
  tree.sections.map fun visited => (visited.titleText, visited.reference)

end Folio.Tree
