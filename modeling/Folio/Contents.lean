import Folio.Log
import Folio.Options
import Folio.Tree.Section

/-!
# Tables of contents

A table of contents is a numbered list with an item for every section: a link to it, labelled
with its title, and, if sections lie inside it, a nested list of these. Other nodes between
sections do not show. The table is built along one visit of the tree, with a stack of the
sections that the visited node lies in; a section is closed at the first visit that is not
deeper than its own.
-/

namespace Folio.Contents

/-- Why a table of contents is refused. -/
inductive ContentsError where
  | missing (title : String)
  | duplicate (reference : Scalar)
  deriving Inhabited, Repr

namespace ContentsError

/-- The wording of a refusal. -/
def message : ContentsError → String
  | missing title =>
    s!"Section '{title}' has no reference; assign references before building a table of contents"
  | duplicate reference =>
    "Reference '" ++ reference.plain ++ "' is used by more than one section"

end ContentsError

/-- A listed section whose subtree is being visited: the depth of its visit, its link and the
finished items of its nested list. The lowest entry of a stack stands for the table itself;
it has no link and a depth above all visits. -/
structure OpenSection where
  depth : Int
  link : Option Tree
  items : List Tree
  deriving Inhabited, Repr

namespace OpenSection

/-- The entry at the bottom of a stack. -/
def bottom : OpenSection := ⟨-1, none, []⟩

/-- The item of a section; the nested list is there only if it has items. -/
def item (entry : OpenSection) : Tree :=
  Tree.listItem <| entry.link.toList ++
    if entry.items.isEmpty then [] else [Tree.orderedList entry.items]

/-- Add a finished item. -/
def add (entry : OpenSection) (item : Tree) : OpenSection :=
  { entry with items := entry.items ++ [item] }

end OpenSection

/-- What has been built before a visit: the stack, innermost section first, the references
that listed sections have used, and the records. -/
structure State where
  stack : List OpenSection
  seen : List Scalar := []
  records : List LogRecord := []
  deriving Inhabited, Repr

/-- The name under which tables are reported. -/
def source : String := LogRecord.part "toc"

/-- Close the sections that a visit at a depth lies outside of. -/
def close (depth : Int) : List OpenSection → List OpenSection
  | entry :: parent :: rest =>
    if depth ≤ entry.depth then close depth (parent.add entry.item :: rest)
    else entry :: parent :: rest
  | stack => stack
termination_by stack => stack.length

/-- Look at the reference of a listed section: missing and repeated ones are refused if
references are required, and reported otherwise. -/
def checkReference (options : ContentsOptions) (visited : Tree) (state : State) :
    Except ContentsError State :=
  let warn (message : String) : State :=
    { state with records := state.records ++ [⟨Level.warning, source, message⟩] }
  let reference := visited.reference
  if !reference.isSet then
    if options.requireReferences.isSet then .error (.missing visited.titleText)
    else .ok (warn ("Section '" ++ visited.titleText ++ "' has no reference"))
  else if state.seen.any reference.same then
    if options.requireReferences.isSet then .error (.duplicate reference)
    else .ok (warn ("Duplicate section reference '" ++ reference.plain ++ "'"))
  else .ok { state with seen := reference :: state.seen }

/-- The link to a section. -/
def linkTo (visited : Tree) : Tree := Tree.internalLink visited.reference [visited.title]

/-- One visit. A refusal keeps the records up to it. -/
def visit (options : ContentsOptions) (state : State) (depth : Int) (visited : Tree) :
    Except (ContentsError × List LogRecord) State :=
  let stack := close depth state.stack
  let state := { state with stack }
  if !visited.isA (.of .section) || options.beyond (stack.length - 1) then .ok state
  else
    match checkReference options visited state with
    | .error cause => .error (cause, state.records)
    | .ok state => .ok { state with stack := ⟨depth, some (linkTo visited), []⟩ :: state.stack }

/-- All visits of a tree. -/
def visitAll (options : ContentsOptions) :
    State → List (Int × Tree) → Except (ContentsError × List LogRecord) State
  | state, [] => .ok state
  | state, (depth, visited) :: rest =>
    match visit options state depth visited with
    | .error refusal => .error refusal
    | .ok state => visitAll options state rest

/-- The items of the table once all sections are closed. -/
def finish (stack : List OpenSection) : List Tree :=
  ((close (-1) stack).head?.map OpenSection.items).getD []

/-- The table of contents of a tree. -/
def build (options : ContentsOptions) (tree : Tree) : Reported (Except ContentsError Tree) :=
  match visitAll options { stack := [OpenSection.bottom] } (tree.visits 0) with
  | .error (cause, records) => ⟨.error cause, records⟩
  | .ok state =>
    let items := finish state.stack
    let summary := s!"Built table of contents with {items.length} top-level entries"
    ⟨.ok (Tree.orderedList items), state.records ++ [⟨Level.debug, source, summary⟩]⟩

end Folio.Contents
