import Folio.Failure
import Folio.Tree.Equality
import Folio.Tree.Place
import Folio.Tree.Relabelling

/-!
# Sessions

A session applies steps to one document: edits at places, the operations of the library, and
comparisons with copies that were saved earlier. The last table of contents is remembered.
It shares nothing with the document.
-/

namespace Folio.Session

/-- A step. -/
inductive Step where
  | assign (options : List (String × Setting))
  | references
  | contents (options : List (String × Setting))
  | scribble (mark : String)
  | set (place : Tree.Place) (field : String) (value : Json)
  | put (place : Tree.Place) (field : String) (index : Int) (node : Json)
  | replace (place : Tree.Place) (field : String) (node : Json)
  | drop (place : Tree.Place) (field : String) (index : Int)
  | move (place : Tree.Place) (field : String) (source target : Int)
  | text (place : Tree.Place)
  | collect (categories : List Category)
  | save (name : String)
  | same (name : String)
  | validate (strict : Bool)
  | reload
  | encode
  deriving Inhabited, Repr

/-- What a step shows. -/
inductive Answer where
  | nothing
  | references (table : List (String × Scalar))
  | contents (tree : Tree)
  | scribbled (contentsText documentText : String) (table : List (String × Scalar))
  | node (tree : Tree)
  | outline (entries : List (Int × String))
  | dropped (tree : Tree)
  | text (text : String)
  | found (trees : List Tree)
  | same (equal : Bool)
  | violations (found : List Violation)
  | encoded (text : String)
  deriving Inhabited, Repr

/-- The document, the saved copies, latest first, and the last table of contents. -/
structure State where
  document : Tree
  saved : List (String × Tree) := []
  contents : Option Tree := none
  deriving Inhabited, Repr

/-- Set an attribute or the metadata of a node; what the field cannot hold changes nothing. -/
def setField (field : String) (value : Json) (tree : Tree) : Tree :=
  match tree, value with
  | .node (.section reference) metadata slots, .scalar given =>
    if field == "reference" then .node (.section given) metadata slots
    else .node (.section reference) metadata slots
  | .node (.internalLink reference) metadata slots, .scalar given =>
    if field == "section_reference" then .node (.internalLink given) metadata slots
    else .node (.internalLink reference) metadata slots
  | .node head metadata slots, value =>
    match (head.kind.field? field).map fun declared =>
        Tree.decodeAttribute head.kind declared value with
    | some (.ok (.attr content)) => .node (head.withAttribute field content) metadata slots
    | some (.ok (.metadata members)) => .node head members slots
    | _ => .node head metadata slots
  | stray, _ => stray

/-- Decode a node that is to be put into the document. -/
def decoded (value : Json) : Except Failure Tree :=
  match Tree.decode value with
  | .ok tree => .ok tree
  | .error cause => .error (Failure.ofDecode cause)

/-- The failure of a step that leads outside the document. -/
def outside : Failure := Failure.ofMisuse .key "no such place"

/-- The node at a place. -/
def nodeAt (document : Tree) (place : Tree.Place) : Except Failure Tree :=
  match document.find? place with
  | some tree => .ok tree
  | none => .error outside

/-- Take an item out of a list field, giving also the document without it. -/
def takeOut (document : Tree) (place : Tree.Place) (field : String) (index : Int) :
    Except Failure (Tree × Tree) := do
  let node ← nodeAt document place
  match node.removeFrom field index with
  | none => .error outside
  | some (item, rest) => pure (item, Tree.modifyPlace (fun _ => rest) place document)

/-- The effect and the answer of a step; a step that fails leaves no effect, except for
references that were given before a fault. -/
def apply (step : Step) (state : State) : State × Except Failure Answer :=
  let edited (document : Tree) (answer : Answer) : State × Except Failure Answer :=
    ({ state with document }, .ok answer)
  let answered (result : Except Failure Answer) : State × Except Failure Answer :=
    (state, result)
  let document := state.document
  match step with
  | .assign named =>
    match ReferenceOptions.update {} named with
    | .error cause => answered (.error (Failure.ofOption cause))
    | .ok options =>
      let outcome := References.assign options document
      match outcome.fault with
      | some fault =>
        ({ state with document := outcome.tree }, .error (Failure.ofFault fault))
      | none => edited outcome.tree (.references outcome.tree.referenceTable)
  | .references => answered (.ok (.references document.referenceTable))
  | .contents named =>
    match ContentsOptions.update {} named with
    | .error cause => answered (.error (Failure.ofOption cause))
    | .ok options =>
      match (Contents.build options document).value with
      | .error cause => answered (.error (Failure.ofContents cause))
      | .ok tree => ({ state with contents := some tree }, .ok (.contents tree))
  | .scribble mark =>
    let contents := (state.contents.getD (Tree.orderedList [])).scribble mark
    ({ state with contents := some contents },
      .ok (.scribbled contents.text document.text document.referenceTable))
  | .set place field value =>
    match nodeAt document place with
    | .error failure => answered (.error failure)
    | .ok node =>
      let changed := setField field value node
      edited (Tree.modifyPlace (fun _ => changed) place document) (.node changed)
  | .put place field index value =>
    match decoded value with
    | .error failure => answered (.error failure)
    | .ok item =>
      let changed := Tree.modifyPlace (Tree.insertInto field index item) place document
      edited changed (.outline changed.outline)
  | .replace place field value =>
    match decoded value with
    | .error failure => answered (.error failure)
    | .ok item =>
      let fill (node : Tree) : Tree := node.withSlot field fun _ => .one item
      let changed := Tree.modifyPlace fill place document
      edited changed (.outline changed.outline)
  | .drop place field index =>
    match takeOut document place field index with
    | .error failure => answered (.error failure)
    | .ok (item, changed) => edited changed (.dropped item)
  | .move place field source target =>
    match takeOut document place field source with
    | .error failure => answered (.error failure)
    | .ok (item, without) =>
      let changed := Tree.modifyPlace (Tree.insertInto field target item) place without
      edited changed (.references changed.referenceTable)
  | .text place => answered ((nodeAt document place).map fun node => .text node.text)
  | .collect categories => answered (.ok (.found (document.collect categories)))
  | .save name => ({ state with saved := (name, document) :: state.saved }, .ok .nothing)
  | .same name =>
    match state.saved.find? fun entry => entry.1 == name with
    | none => answered (.error (Failure.unknownKey name))
    | some (_, copy) =>
      match copy.equal document with
      | .ok equal => answered (.ok (.same equal))
      | .error fault => answered (.error (Failure.ofFault fault))
  | .validate strict =>
    match strict, document.firstViolation? with
    | true, some violation => answered (.error (Failure.ofViolation violation))
    | _, _ => answered (.ok (.violations document.violations))
  | .reload =>
    match document.toJsonText with
    | .error fault => answered (.error (Failure.ofFault fault))
    | .ok text =>
      match Tree.ofJsonText text with
      | .ok tree => edited tree .nothing
      | .error cause => answered (.error (Failure.ofDocument cause))
  | .encode =>
    match document.toJsonText with
    | .error fault => answered (.error (Failure.ofFault fault))
    | .ok text => answered (.ok (.encoded text))

/-- The answers of several steps. -/
def run : State → List Step → List (Except Failure Answer)
  | _, [] => []
  | state, step :: rest =>
    let (state, answer) := apply step state
    answer :: run state rest

end Folio.Session
