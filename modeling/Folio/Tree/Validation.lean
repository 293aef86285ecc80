import Folio.Log
import Folio.Tree

/-!
# Validation

Every structural field must be laid out as its kind declares and hold nodes of the declared
category. A field with the wrong layout is not looked into; a node of the wrong kind is,
and so everything that is wrong below it is found too. Violations are found in the order of
a visit; the strict check stops at the first.
-/

namespace Folio

/-- Something wrong in a field: the way to the field from the root, what was expected there
and what was found. -/
structure Violation where
  path : String
  expected : String
  found : String
  deriving DecidableEq, Repr, Inhabited

namespace Violation

/-- The wording of a violation. -/
def message (violation : Violation) : String :=
  s!"{violation.path}: expected {violation.expected}, got {violation.found}"

/-- The record of a violation. -/
def record (violation : Violation) : LogRecord :=
  ⟨Level.debug, LogRecord.part "validation", "Shape violation: " ++ violation.message⟩

end Violation

namespace Tree

/-- The outcome of a check: all violations so far, or the one that ended a strict check. -/
abbrev Checked := Except Violation (List Violation)

/-- Add a violation; a strict check ends with it. -/
def report (strict : Bool) (violation : Violation) (found : List Violation) : Checked :=
  if strict then .error violation else .ok (found ++ [violation])

/-- Check that what stands in a place for a node of a category is one. -/
def checkPlace (strict : Bool) (path : String) (category : Category) (found : List Violation)
    (tree : Tree) : Checked :=
  if tree.isA category then .ok found
  else report strict ⟨path, category.name, tree.typeName⟩ found

mutual

/-- Check the slots of a node. -/
def check (strict : Bool) (path : String) (found : List Violation) : Tree → Checked
  | .node head _ slots => checkSlots strict path found head.kind.slots slots
  | .stray _ => .ok found

/-- Check slots against the fields that they belong to. Nodes in their places are looked
into whatever their kind, documents and stray values are not. -/
def checkSlots (strict : Bool) (path : String) (found : List Violation) :
    List Field → List (Slot Tree) → Checked
  | field :: fields, .one tree :: rest =>
    let place := path ++ "." ++ field.name
    match field.type with
    | .one category => do
      let found ← checkPlace strict place category found tree
      let found ← if tree.isA .node then check strict place found tree else .ok found
      checkSlots strict path found fields rest
    | _ => do
      let found ← report strict ⟨place, "a list", tree.typeName⟩ found
      checkSlots strict path found fields rest
  | field :: fields, .many trees :: rest =>
    let place := path ++ "." ++ field.name
    match field.type with
    | .one category => do
      let found ← report strict ⟨place, "a single " ++ category.name, "list"⟩ found
      checkSlots strict path found fields rest
    | .many category => do
      let found ← checkItems strict place category 0 found trees
      checkSlots strict path found fields rest
    | _ => checkSlots strict path found fields rest
  | _, _ => .ok found

/-- Check the items of a list field from number `index` on. -/
def checkItems (strict : Bool) (path : String) (category : Category) (index : Nat)
    (found : List Violation) : List Tree → Checked
  | [] => .ok found
  | tree :: rest => do
    let place := s!"{path}[{index}]"
    let found ← checkPlace strict place category found tree
    let found ← if tree.isA .node then check strict place found tree else .ok found
    checkItems strict path category (index + 1) found rest

end

/-- The name of the root in paths. -/
def rootPath (tree : Tree) : String := ((tree.kind?).map Kind.tag).getD tree.typeName

/-- Everything that is wrong in a tree. -/
def violations (tree : Tree) : List Violation :=
  match tree.check false tree.rootPath [] with
  | .ok found => found
  | .error violation => [violation]

/-- The first thing that is wrong in a tree, found without looking further. -/
def firstViolation? (tree : Tree) : Option Violation :=
  match tree.check true tree.rootPath [] with
  | .ok _ => none
  | .error violation => some violation

end Tree

end Folio
