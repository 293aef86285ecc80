import Folio.Log
import Folio.Options
import Folio.Slug
import Folio.Tree.Section

/-!
# References of sections

Every section without a reference is given one: the slug of its title, or the slug with the
smallest number behind it that makes it differ from all references in use. References that
sections already have are pinned, wherever they stand in the tree; generated ones are used
up in the order of a visit.
-/

namespace Folio.References

/-- A reference is among those in use. The double that is no number is found there, too. -/
def isTaken (taken : List Scalar) (reference : Scalar) : Bool :=
  taken.any fun other => reference.same other || (reference.isNaN && other.isNaN)

/-- The number that is tried after another. -/
def next : Scalar → Scalar
  | .float value => .float (value + 1.0)
  | value => .int ((value.whole?).getD 0 + 1)

/-- A slug with a number behind it. -/
def numbered (slug number : Scalar) : Scalar := .text (slug.plain ++ "-" ++ number.plain)

/-- The first numbered form of a slug, from a number on, that is not in use, as long as there are
attempts left. -/
def firstFree (taken : List Scalar) (slug : Scalar) : (attempts : Nat) → Scalar → Scalar
  | 0, number => numbered slug number
  | attempts + 1, number =>
    if isTaken taken (numbered slug number) then firstFree taken slug attempts (next number)
    else numbered slug number

/-- The attempts after which a search has found a free form, if there is one. Whole numbers pass
over every reference in use once at most. Doubles need not: a large one is the number after
itself. But there are no more than the bits of them tell apart, so numbers have come back by
then. -/
def attempts (taken : List Scalar) : Scalar → Nat
  | .float _ => UInt64.size
  | _ => taken.length + 1

/-- A slug that is not in use, or else its first numbered form that is not. -/
def unique (taken : List Scalar) (start slug : Scalar) : Scalar :=
  if isTaken taken slug then firstFree taken slug (attempts taken start) start else slug

/-- What a run knows at a visit: the references in use, how many it has given, what it has
reported and the fault that ended it, if one did. -/
structure State where
  taken : List Scalar
  assigned : Nat := 0
  records : List LogRecord := []
  fault : Option Fault := none
  deriving Inhabited, Repr

/-- The name under which runs report. -/
def source : String := LogRecord.part "references"

/-- The slug of a title; the fallback, used for titles without words, must be a scalar. A foreign
value would make a reference that no document can be stored with. -/
def slugOf (options : ReferenceOptions) (title : String) : Except Fault Scalar :=
  match Slug.ofText? title with
  | some slug => .ok (.text slug)
  | none =>
    match options.fallbackSlug with
    | .scalar fallback => .ok fallback
    | .foreign fallback =>
      .error <| if fallback.isHashable then .notStorable fallback.kind
        else .notHashable fallback.faultName
    | other => .error (.notHashable other.typeName)

/-- The reference of a section after its visit. A search that stops at a form in use would go on
for ever. -/
def visitSection (options : ReferenceOptions) (depth : Int) (title : String)
    (reference : Scalar) (state : State) : Scalar × State :=
  if reference.isSet || state.fault.isSome then (reference, state)
  else
    match slugOf options title with
    | .error fault => (reference, { state with fault := some fault })
    | .ok slug =>
      let start := (options.suffixStart.scalar?).getD (.int 2)
      let given := unique state.taken start slug
      if isTaken state.taken given then (reference, { state with fault := some .endlessSearch })
      else
        let message :=
          "Assigned reference " ++ given.display ++ s!" to section at depth {depth}"
        (given,
          { state with
            taken := given :: state.taken
            assigned := state.assigned + 1
            records := state.records ++ [⟨Level.debug, source, message⟩] })

/-- The head of a node after its visit: that of a section gets its reference. -/
def visitHead (options : ReferenceOptions) (depth : Int) (slots : List (Slot Tree))
    (state : State) : Head → Head × State
  | .section reference =>
    let (given, after) :=
      visitSection options depth (Tree.titleIn slots).text reference state
    (.section given, after)
  | head => (head, state)

mutual

/-- Give references in a tree. -/
def assignTree (options : ReferenceOptions) (depth : Int) (state : State) :
    Tree → Tree × State
  | .node head metadata slots =>
    let (head, state) := visitHead options depth slots state head
    let (slots, state) := assignSlots options (depth + 1) state slots
    (.node head metadata slots, state)
  | .stray value => (.stray value, state)

/-- Give references in some slots. -/
def assignSlots (options : ReferenceOptions) (depth : Int) (state : State) :
    List (Slot Tree) → List (Slot Tree) × State
  | [] => ([], state)
  | .one tree :: rest =>
    let (tree, state) := assignTree options depth state tree
    let (rest, state) := assignSlots options depth state rest
    (.one tree :: rest, state)
  | .many trees :: rest =>
    let (trees, state) := assignAll options depth state trees
    let (rest, state) := assignSlots options depth state rest
    (.many trees :: rest, state)

/-- Give references in several trees, one after another. -/
def assignAll (options : ReferenceOptions) (depth : Int) (state : State) :
    List Tree → List Tree × State
  | [] => ([], state)
  | tree :: rest =>
    let (tree, state) := assignTree options depth state tree
    let (rest, state) := assignAll options depth state rest
    (tree :: rest, state)

end

/-- Every scalar once. -/
def distinct : List Scalar → List Scalar
  | [] => []
  | value :: rest => if isTaken rest value then distinct rest else value :: distinct rest

/-- The references that sections of a tree already have. -/
def pinned (tree : Tree) : List Scalar := distinct (tree.references.filter Scalar.isSet)

/-- The outcome of a run. A run that a fault has ended leaves the tree as it was then. -/
structure Outcome where
  tree : Tree
  records : List LogRecord
  fault : Option Fault
  deriving Inhabited, Repr

/-- Give every section of a tree a reference. -/
def assign (options : ReferenceOptions) (tree : Tree) : Outcome :=
  let pinned := pinned tree
  let (changed, state) := assignTree options 0 { taken := pinned } tree
  let summary :=
    s!"Reference assignment done: {pinned.length} pinned, {state.assigned} assigned"
  { tree := changed
    records := state.records ++
      if state.fault.isSome then [] else [⟨Level.debug, source, summary⟩]
    fault := state.fault }

end Folio.References
