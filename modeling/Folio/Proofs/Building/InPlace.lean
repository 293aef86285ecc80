import Folio.Proofs.Building.Run
import Folio.Proofs.Tree.Appending
import Mathlib.Data.List.TakeWhile

/-!
# Documents that grow in place

A document can be built with nothing but its root and the places of the sections that are open:
every node is appended where the innermost of these stands, or to the root. The statements of such
a call run one after another, and one that raises an error keeps what those before it have made, so
that a refused call could well leave sections closed. `step_inPlace` says that it does not, and
that places never dangle: at every call the document is that of a `DocumentBuilder`, and the stack
holds where its open sections stand (`inPlace`). The invariant of a run is then read off the
invariant of the builder.
-/

namespace Folio.Building

/-- A section that is open: where it stands in the document, and its level. -/
structure Opening where
  place : Position
  level : Scalar
  deriving Repr

namespace Opening

/-- The section is not above a level. -/
def isWithin (level : Int) (opening : Opening) : Bool :=
  opening.level.atLeast? (.int level) == some true

/-- A section on the stack is to be closed if its level is at least the given one. -/
theorem isWithin_iff {level number : Int} {opening : Opening}
    (isLevel : opening.level = .int number) : opening.isWithin level = true ↔ level ≤ number := by
  rw [isWithin, isLevel, beq_iff_eq]
  exact Option.some_inj.trans decide_eq_true_iff

end Opening

/-- A document that grows in place, and the sections in it that are open, innermost first. -/
structure GrowingDocument where
  document : Tree
  stack : List Opening := []
  deriving Repr

/-- Statements on a growing document. An error keeps what the statements before it have made; there
is no result if nothing stands where a node is to be appended. -/
abbrev Statements := ExceptT BuildError (StateT GrowingDocument Option)

/-- Where nodes are appended while some sections are open: in the innermost, or in the document. -/
def container (stack : List Opening) : Position := (stack.head?.map Opening.place).getD []

/-- Each open section is the last child of the one below it on the stack, and the first of them is
the last child of the document. -/
inductive LastPath (document : Tree) : List Opening → Prop where
  | nil : LastPath document []
  | cons {opening : Opening} {rest : List Opening} {parent child : Tree} {before : List Tree}
      (around : document.at? (container rest) = some parent)
      (last : parent.slot? "children" = some (.many (before ++ [child])))
      (place : opening.place = container rest ++ [parent.children.length - 1])
      (stands : document.at? opening.place = some child)
      (isSection : child.kind? = some .section)
      (below : LastPath document rest) : LastPath document (opening :: rest)

namespace GrowingDocument

/-- An empty document. -/
def fresh (details : Details) : GrowingDocument := { document := .ofList (.document details) [] }

/-- Append a node, and give its place. -/
def append (tree : Tree) : Statements Position := do
  let growing ← get
  let (document, place) ← growing.document.append? (container growing.stack) tree
  set { growing with document }
  return place

/-- Take sections off the stack, innermost first, as long as they are not above a level. -/
def popTo (level : Scalar) : List Opening → Statements Unit
  | [] => return
  | opening :: rest =>
    match opening.level.atLeast? level with
    | none => throw (.fault (.notOrdered opening.level.typeName level.typeName))
    | some false => return
    | some true => do
      modify fun growing => { growing with stack := rest }
      popTo level rest

end GrowingDocument

namespace BuildCall

open DocumentBuilder GrowingDocument

/-- The statements of a call. -/
def statements : BuildCall → Statements Unit
  | openSection title level reference => do
    if level < 1 then throw (.levelTooSmall (.int level))
    popTo (.int level) (← get).stack
    let place ← append (.node (.section reference) [] [title.slot, .many []])
    modify fun growing => { growing with stack := ⟨place, .int level⟩ :: growing.stack }
  | close => do
    match (← get).stack with
    | [] => throw .nothingOpen
    | _ :: rest => modify fun growing => { growing with stack := rest }
  | add tree => discard (append tree)

/-- How a call ends, and what it leaves. -/
def step (growing : GrowingDocument) (call : BuildCall) :
    Option (Except BuildError Unit × GrowingDocument) :=
  call.statements.run.run growing

/-- The calls that return and the document that they leave, if every call is made on what the one
before it has left, refused or not. -/
def grow (growing : GrowingDocument) : List BuildCall → Option (List BuildCall × GrowingDocument)
  | [] => some ([], growing)
  | call :: rest => do
    let (outcome, next) ← call.step growing
    let (returned, last) ← grow next rest
    match outcome with
    | .ok _ => return (call :: returned, last)
    | .error _ => return (returned, last)

end BuildCall

namespace DocumentBuilder

open GrowingDocument

variable (head : Head) (children : List Tree)

/-- How many children stand in front of the section that is opened next. -/
def childCount : List OpenSection → Nat
  | [] => children.length
  | entry :: _ => (entry.title.toList ++ entry.children).length

/-- Where the innermost open section stands, or the document if none is open. -/
def innermostPlace : List OpenSection → Position
  | [] => []
  | _ :: rest => innermostPlace rest ++ [childCount children rest]

/-- The open sections with their places. -/
def openings : List OpenSection → List Opening
  | [] => []
  | entry :: rest => ⟨innermostPlace children (entry :: rest), entry.level⟩ :: openings rest

/-- A document whose innermost open section goes on with `inner`. -/
def whole (sections : List OpenSection) (inner : List Tree) : Tree :=
  .node head [] [.many (children ++ nest sections inner)]

/-- The innermost open section, which goes on with `inner`, or the document if none is open. -/
def innermost : List OpenSection → List Tree → Tree
  | [], inner => .node head [] [.many (children ++ inner)]
  | entry :: _, inner => entry.holding inner

/-- The document in one piece, with the places of its open sections. -/
def inPlace (builder : DocumentBuilder) : GrowingDocument :=
  ⟨builder.document, openings builder.children builder.sections⟩

/-- The place that calls add to is that of the innermost open section. -/
theorem container_openings (sections : List OpenSection) :
    container (openings children sections) = innermostPlace children sections := by
  cases sections <;> rfl

/-- What is put into an open section is put into the document with the section in it. -/
theorem whole_cons (entry : OpenSection) (rest : List OpenSection) (inner : List Tree) :
    whole head children (entry :: rest) inner = whole head children rest [entry.holding inner] :=
  rfl

/-- The open sections with nothing put into them are the document. -/
theorem whole_nil_eq_document (builder : DocumentBuilder) :
    whole builder.head builder.children builder.sections [] = builder.document := by
  rw [document_eq, whole, body]

/-- The last child of the innermost open section stands behind its own. -/
theorem at?_innermost_last (sections : List OpenSection) (child : Tree) :
    (innermost head children sections [child]).at? [childCount children sections] =
      some child := by
  cases sections with
  | nil => exact Tree.at?_of_last (Tree.children_node head [] [] (children ++ [child])) []
  | cons entry rest =>
    have whole : (innermost head children (entry :: rest) [child]).children =
        (entry.title.toList ++ entry.children) ++ [child] := by
      rw [innermost, OpenSection.holding]
      simp [Tree.children, Slot.toList]
    exact Tree.at?_of_last whole []

/-- A change at the last child of the innermost section changes what was put there. -/
theorem modifyAt_innermost_last (change : Tree → Tree) (sections : List OpenSection)
    (child : Tree) :
    Tree.modifyAt change [childCount children sections]
        (innermost head children sections [child]) =
      innermost head children sections [change child] := by
  cases sections with
  | nil => exact Tree.modifyAt_of_last head [] [] change children child []
  | cons entry rest =>
    have changed := Tree.modifyAt_of_last (.section entry.reference) [] [entry.title] change
      entry.children child []
    rwa [List.flatMap_singleton] at changed

/-- The innermost open section stands at its place. -/
theorem at?_innermostPlace (sections : List OpenSection) (inner : List Tree) :
    (whole head children sections inner).at? (innermostPlace children sections) =
      some (innermost head children sections inner) := by
  induction sections generalizing inner with
  | nil => rfl
  | cons entry rest hypothesis =>
    rw [whole_cons, innermostPlace, Tree.at?_append, hypothesis, Option.bind_some,
      at?_innermost_last]
    rfl

/-- A change of the innermost open section changes nothing around it. -/
theorem modifyAt_innermostPlace {change : Tree → Tree} {sections : List OpenSection}
    {inner next : List Tree}
    (changed : change (innermost head children sections inner) =
      innermost head children sections next) :
    Tree.modifyAt change (innermostPlace children sections)
        (whole head children sections inner) =
      whole head children sections next := by
  induction sections generalizing change inner next with
  | nil => exact changed
  | cons entry rest hypothesis =>
    rw [whole_cons, whole_cons, innermostPlace, Tree.modifyAt_append]
    refine hypothesis ?_
    rw [modifyAt_innermost_last]
    exact congrArg (fun child => innermost head children rest [child]) changed

/-- A tree that is added to the innermost section is put behind its children. -/
theorem addChild_innermost (sections : List OpenSection) (tree : Tree) :
    Tree.addChild tree (innermost head children sections []) =
      innermost head children sections [tree] := by
  cases sections with
  | nil =>
    rw [innermost, innermost, List.append_nil]
    exact Tree.addChild_node head [] [] children tree
  | cons entry rest =>
    rw [innermost, innermost, OpenSection.holding, List.append_nil]
    exact Tree.addChild_node (.section entry.reference) [] [entry.title] entry.children tree

/-- The innermost section has the children that it had and what is put into it. -/
theorem length_children_innermost (sections : List OpenSection) (inner : List Tree) :
    (innermost head children sections inner).children.length =
      childCount children sections + inner.length := by
  cases sections with
  | nil => simp [innermost, childCount, Tree.children, Slot.toList]
  | cons entry rest =>
    simp [innermost, childCount, OpenSection.holding, Tree.children, Slot.toList, Nat.add_assoc]

/-- The open sections are last children all the way down. -/
theorem lastPath_openings (details : Details) (sections : List OpenSection) (inner : List Tree) :
    LastPath (whole (.document details) children sections inner) (openings children sections) := by
  induction sections generalizing inner with
  | nil => exact .nil
  | cons entry rest hypothesis =>
    let own := match rest with
      | [] => children
      | outer :: _ => outer.children
    have stands := at?_innermostPlace (.document details) children rest [entry.holding inner]
    have last : (innermost (.document details) children rest [entry.holding inner]).slot?
        "children" = some (.many (own ++ [entry.holding inner])) := by
      cases rest <;> rfl
    refine .cons ?_ last ?_ ?_ rfl (hypothesis _)
    · rw [container_openings]
      exact stands
    · rw [container_openings, length_children_innermost]
      rfl
    · rw [innermostPlace, whole_cons, Tree.at?_append, stands]
      exact at?_innermost_last (.document details) children rest (entry.holding inner)

variable {builder : DocumentBuilder} {levels : List Int}

/-- A node that is appended in place is added to the builder. -/
theorem append?_inPlace (tree : Tree) :
    builder.inPlace.document.append? (container builder.inPlace.stack) tree =
      some ((builder.add tree).document, innermostPlace builder.children builder.sections ++
        [childCount builder.children builder.sections]) := by
  have grown := modifyAt_innermostPlace builder.head builder.children
    (addChild_innermost builder.head builder.children builder.sections tree)
  have added : whole builder.head builder.children builder.sections [tree] =
      (builder.add tree).document := by
    rw [document_eq, body_add, head_add, whole]
  simp only [inPlace, container_openings]
  rw [Tree.append?, ← whole_nil_eq_document, at?_innermostPlace, Option.map_some, grown, added,
    length_children_innermost, List.length_nil, Nat.add_zero]

/-- Added nodes move no open section. -/
theorem openings_add (tree : Tree) :
    openings (builder.add tree).children (builder.add tree).sections =
        openings builder.children builder.sections := by
  obtain ⟨head, children, sections⟩ := builder
  cases sections with
  | nil => rfl
  | cons entry rest => rfl

/-- A tree that is added changes the document and leaves the stack as it is. -/
theorem inPlace_add (tree : Tree) :
    (builder.add tree).inPlace = { builder.inPlace with document := (builder.add tree).document } :=
  congrArg (GrowingDocument.mk _) (openings_add tree)

/-- A section that is closed comes off the stack. -/
theorem inPlace_closeInnermost :
    builder.closeInnermost.inPlace =
      { builder.inPlace with stack := builder.inPlace.stack.tail } := by
  have same : builder.closeInnermost.document = builder.document := by
    rw [document_eq, document_eq, body_closeInnermost, head_closeInnermost]
  have off : openings builder.closeInnermost.children builder.closeInnermost.sections =
      (openings builder.children builder.sections).tail := by
    obtain ⟨head, children, sections⟩ := builder
    cases sections with
    | nil => rfl
    | cons entry rest => exact @openings_add ⟨head, children, rest⟩ entry.tree
  rw [inPlace, same, off]
  rfl

/-- A section that is opened is appended, and goes onto the stack. -/
theorem inPlace_push (title : Slot Tree) (level : Int) (reference : Scalar) :
    (builder.push title level reference).inPlace =
      { document := (builder.add (.node (.section reference) [] [title, .many []])).document
        stack :=
          ⟨innermostPlace builder.children builder.sections ++
            [childCount builder.children builder.sections], .int level⟩ ::
          builder.inPlace.stack } := by
  have same : (builder.push title level reference).document =
      (builder.add (.node (.section reference) [] [title, .many []])).document := by
    rw [document_eq, document_eq, body_add, head_add]
    rfl
  rw [inPlace, same]
  rfl

/-- The sections on the stack have the levels of the open sections. -/
theorem levels_openings (sections : List OpenSection) :
    (openings children sections).map Opening.level = sections.map OpenSection.level := by
  induction sections with
  | nil => rfl
  | cons entry rest hypothesis => exact congrArg (entry.level :: ·) hypothesis

/-- The levels on the stack are those of the open sections. -/
theorem HasLevels.stack (has : builder.HasLevels levels) :
    builder.inPlace.stack.map Opening.level = levels.map Scalar.int :=
  (levels_openings builder.children builder.sections).trans has

/-- Sections that are closed to a level come off the stack as long as they are not above it. -/
theorem inPlace_closeTo (has : builder.HasLevels levels) (level : Int) :
    (builder.closeTo (.int level)).inPlace =
      { builder.inPlace with
        stack := builder.inPlace.stack.dropWhile (Opening.isWithin level) } := by
  induction levels generalizing builder with
  | nil =>
    have isNil : builder.inPlace.stack = [] := List.map_eq_nil_iff.1 has.stack
    rw [closeTo_of_settled has (by simp [Settled]), isNil, List.dropWhile_nil, ← isNil]
  | cons number rest hypothesis =>
    obtain ⟨opening, others, isStack, isLevel, -⟩ := List.map_eq_cons_iff.1 has.stack
    by_cases le : level ≤ number
    · have within : opening.isWithin level = true := (Opening.isWithin_iff isLevel).2 le
      rw [closeTo_of_le has le, hypothesis has.closeInnermost, inPlace_closeInnermost, isStack,
        List.dropWhile_cons_of_pos within, List.tail_cons]
    · have above : ¬ opening.isWithin level = true := mt (Opening.isWithin_iff isLevel).1 le
      have settled : Settled level (number :: rest) := by simpa [Settled] using le
      rw [closeTo_of_settled has settled, isStack, List.dropWhile_cons_of_neg above, ← isStack]

end DocumentBuilder

namespace GrowingDocument

open DocumentBuilder

/-- What follows statements that return goes on with what they leave. -/
theorem run_bind_of_ok {α β : Type} {first : Statements α} {value : α}
    {growing next : GrowingDocument} (returns : first.run.run growing = some (.ok value, next))
    (then_ : α → Statements β) :
    (first >>= then_).run.run growing = (then_ value).run.run next := by
  have bound : (first >>= then_).run.run growing =
      (first.run.run growing).bind fun ended =>
        ((ExceptT.bindCont then_ ended.1).run ended.2) := rfl
  rw [bound, returns]
  rfl

/-- Among whole numbers as levels no comparison fails. -/
theorem popTo_eq {levels : List Int} (growing : GrowingDocument)
    (has : growing.stack.map Opening.level = levels.map Scalar.int) (level : Int) :
    (popTo (.int level) growing.stack).run.run growing =
      some (.ok (), { growing with
        stack := growing.stack.dropWhile (Opening.isWithin level) }) := by
  obtain ⟨document, stack⟩ := growing
  induction stack generalizing levels with
  | nil => rfl
  | cons opening rest hypothesis =>
    obtain ⟨number, others, rfl, isLevel, behind⟩ := List.map_eq_cons_iff.1 has.symm
    have compared : opening.level.atLeast? (.int level) = some (decide (level ≤ number)) := by
      rw [← isLevel]
      rfl
    by_cases le : level ≤ number
    · have within : opening.isWithin level = true := (Opening.isWithin_iff isLevel.symm).2 le
      rw [List.dropWhile_cons_of_pos within, ← hypothesis behind.symm, popTo, compared,
        decide_eq_true le]
      rfl
    · have above : ¬ opening.isWithin level = true := mt (Opening.isWithin_iff isLevel.symm).1 le
      rw [List.dropWhile_cons_of_neg above, popTo, compared, decide_eq_false le]
      rfl

/-- The statement that appends a tree leads to the place of the tree. -/
theorem append_eq {growing : GrowingDocument} {tree document : Tree} {place : Position}
    (appended : growing.document.append? (container growing.stack) tree = some (document, place)) :
    (append tree).run.run growing = some (.ok place, { growing with document }) := by
  have lifted : (liftM (growing.document.append? (container growing.stack) tree) :
      Statements (Tree × Position)).run.run growing = some (.ok (document, place), growing) := by
    rw [appended]
    rfl
  exact run_bind_of_ok lifted _

end GrowingDocument

namespace BuildCall

open DocumentBuilder GrowingDocument

/-- Closing takes one section off the stack, and fails if there is none. -/
theorem step_close (growing : GrowingDocument) :
    close.step growing =
      match growing.stack with
      | [] => some (.error .nothingOpen, growing)
      | _ :: rest => some (.ok (), { growing with stack := rest }) := by
  obtain ⟨document, stack⟩ := growing
  cases stack <;> rfl

variable {builder : DocumentBuilder} {levels : List Int}

/-- A call in place does what it does to the builder; one that is refused leaves everything. -/
theorem step_inPlace (has : builder.HasLevels levels) (call : BuildCall) :
    call.step builder.inPlace =
      match call.refusal? builder with
      | some cause => some (.error cause, builder.inPlace)
      | none => some (.ok (), (call.effect builder).inPlace) := by
  cases call with
  | add tree =>
    have appended := append_eq (@append?_inPlace builder tree)
    rw [refusal?, effect, inPlace_add]
    exact run_bind_of_ok appended fun _ => pure ()
  | close =>
    have opened : builder.inPlace.stack = openings builder.children builder.sections := rfl
    cases isOpen : builder.sections with
    | nil =>
      rw [isOpen] at opened
      rw [step_close, opened, refusal?, isOpen]
      rfl
    | cons entry rest =>
      rw [isOpen] at opened
      rw [step_close, opened, refusal?, isOpen, effect, inPlace_closeInnermost, opened]
      rfl
  | openSection title level reference =>
    by_cases small : level < 1
    · rw [refusal?, if_pos small, step, statements, if_pos small]
      rfl
    · let closed := builder.closeTo (.int level)
      have popped := popTo_eq builder.inPlace has.stack level
      rw [← inPlace_closeTo has] at popped
      have appended := append_eq (@append?_inPlace closed
        (.node (.section reference) [] [title.slot, .many []]))
      rw [refusal?, if_neg small, effect, inPlace_push, step, statements, if_neg small]
      refine (run_bind_of_ok popped _).trans ?_
      exact run_bind_of_ok appended _

/-- All calls in place do what they do to the builder, and those return that are not refused. -/
theorem grow_inPlace (has : builder.HasLevels levels) (calls : List BuildCall) :
    ∃ returned, grow builder.inPlace calls = some (returned, (run builder calls).inPlace) ∧
      returned.flatMap pieces = placed builder calls := by
  induction calls generalizing builder levels with
  | nil => exact ⟨[], rfl, rfl⟩
  | cons call rest hypothesis =>
    have made := step_inPlace has call
    cases refused : call.refusal? builder with
    | some cause =>
      obtain ⟨returned, grown, same⟩ := hypothesis has
      rw [refused] at made
      refine ⟨returned, ?_, ?_⟩
      · rw [grow, made, run, apply_eq, refused]
        simp only [Option.bind_eq_bind, Option.bind_some, grown]
        rfl
      · rw [placed, apply_eq, refused]
        exact same
    | none =>
      obtain ⟨after, hasAfter⟩ := exists_levels_effect has call
      obtain ⟨returned, grown, same⟩ := hypothesis hasAfter
      rw [refused] at made
      refine ⟨call :: returned, ?_, ?_⟩
      · rw [grow, made, run, apply_eq, refused]
        simp only [Option.bind_eq_bind, Option.bind_some, grown]
        rfl
      · rw [placed, apply_eq, refused, List.flatMap_cons, same]

/-- What holds of a document that has grown by some calls. -/
structure Grown (details : Details) (returned : List BuildCall) (growing : GrowingDocument) :
    Prop where
  rising : ∃ levels : List Int,
    growing.stack.reverse.map Opening.level = levels.map Scalar.int ∧
      levels.Pairwise (· < ·) ∧ ∀ level ∈ levels, 1 ≤ level
  lastPath : LastPath growing.document growing.stack
  reads : Reads growing.document.children (returned.flatMap pieces)
  visited : growing.document.preorder.map Tree.bare =
    .node (.document details) [] [] :: (returned.flatMap pieces).flatMap Piece.visited

/-- What a call does, and how it ends. -/
inductive Does (growing : GrowingDocument) :
    BuildCall → Except BuildError Unit → GrowingDocument → Prop where
  | tooSmall {title : Argument} {level : Int} {reference : Scalar} (small : level < 1) :
      Does growing (.openSection title level reference) (.error (.levelTooSmall (.int level)))
        growing
  | nothingOpen (none : growing.stack = []) :
      Does growing .close (.error .nothingOpen) growing
  | opened {title : Argument} {level : Int} {reference : Scalar} {within above : List Opening}
      {document : Tree} {place : Position} (atLeast : 1 ≤ level)
      (split : growing.stack = within ++ above)
      (off : ∀ opening ∈ within, ∃ number : Int, opening.level = .int number ∧ level ≤ number)
      (stay : ∀ opening ∈ above, ∃ number : Int, opening.level = .int number ∧ number < level)
      (appended : growing.document.append? (container above)
        (.node (.section reference) [] [title.slot, .many []]) = some (document, place)) :
      Does growing (.openSection title level reference) (.ok ())
        ⟨document, ⟨place, .int level⟩ :: above⟩
  | closed {innermost : Opening} {rest : List Opening}
      (isOpen : growing.stack = innermost :: rest) :
      Does growing .close (.ok ()) ⟨growing.document, rest⟩
  | added {tree document : Tree} {place : Position}
      (appended : growing.document.append? (container growing.stack) tree =
        some (document, place)) :
      Does growing (.add tree) (.ok ()) ⟨document, growing.stack⟩

/-- Each level on the stack is one of whole numbers, if all are. -/
theorem exists_level {stack : List Opening} {levels : List Int}
    (has : stack.map Opening.level = levels.map Scalar.int) {opening : Opening}
    (member : opening ∈ stack) : ∃ number ∈ levels, opening.level = .int number := by
  obtain ⟨number, listed, same⟩ := List.mem_map.1 (has ▸ List.mem_map_of_mem member)
  exact ⟨number, listed, same.symm⟩

/-- The sections that stay open when one is opened are those above its level. -/
theorem lt_of_mem_closeTo (has : builder.HasLevels levels) (falling : levels.Pairwise (· > ·))
    (level : Int) :
    ∀ opening ∈ builder.inPlace.stack.dropWhile (Opening.isWithin level),
      ∃ number : Int, opening.level = .int number ∧ number < level := by
  intro opening member
  have stay := (has.closeTo level).stack
  rw [inPlace_closeTo has] at stay
  obtain ⟨number, listed, isLevel⟩ := exists_level stay member
  exact ⟨number, isLevel, lt_of_mem_dropWhile falling number listed⟩

/-- The sections that are closed when one is opened are not above its level. -/
theorem le_of_mem_takeWhile (has : builder.HasLevels levels) (level : Int) :
    ∀ opening ∈ builder.inPlace.stack.takeWhile (Opening.isWithin level),
      ∃ number : Int, opening.level = .int number ∧ level ≤ number := by
  intro opening member
  have onStack := (List.takeWhile_sublist _).subset member
  obtain ⟨number, -, isLevel⟩ := exists_level has.stack onStack
  have within : opening.isWithin level = true := List.mem_takeWhile_imp member
  exact ⟨number, isLevel, (Opening.isWithin_iff isLevel).1 within⟩

/-- A further call does one of the things that calls do. -/
theorem exists_does (rising : builder.IsRising) (call : BuildCall) :
    ∃ outcome next, call.step builder.inPlace = some (outcome, next) ∧
      Does builder.inPlace call outcome next := by
  obtain ⟨levels, has, falling, -⟩ := rising
  have made := step_inPlace has call
  cases call with
  | add tree => exact ⟨_, _, made, inPlace_add tree ▸ .added (append?_inPlace tree)⟩
  | close =>
    have opened : builder.inPlace.stack = openings builder.children builder.sections := rfl
    rw [step_close] at made ⊢
    cases isStack : builder.inPlace.stack with
    | nil => exact ⟨_, _, rfl, .nothingOpen isStack⟩
    | cons opening rest => exact ⟨_, _, rfl, .closed isStack⟩
  | openSection title level reference =>
    by_cases small : level < 1
    · rw [refusal?, if_pos small] at made
      exact ⟨_, _, made, .tooSmall small⟩
    · rw [refusal?, if_neg small, effect, inPlace_push] at made
      have appended := @append?_inPlace (builder.closeTo (.int level))
        (.node (.section reference) [] [title.slot, .many []])
      rw [inPlace_closeTo has] at made appended
      have same : (builder.closeTo (.int level)).document = builder.document := by
        rw [document_eq, document_eq, body_closeTo, head_closeTo]
      exact ⟨_, _, made, .opened (Int.not_lt.1 small) List.takeWhile_append_dropWhile.symm
        (le_of_mem_takeWhile has level) (lt_of_mem_closeTo has falling level) appended⟩

/-- What holds after any calls on a fresh document, refused ones included, and what a further call
then does. There is always something to append to, and the document is that of the builder. The
levels on the stack rise strictly from 1 or above, and the open sections are last children all the
way down. The document consists of what the calls that have returned have put into it, in their
order and each once, and so a visit meets the document and then these nodes one after another. A
further call is refused only for a level below 1 and if there is nothing to close, and then the
document and the stack are left as they are; a section that is closed comes off the stack, and the
document stays. -/
theorem run_invariant (details : Details) (calls : List BuildCall) :
    ∃ returned growing, grow (.fresh details) calls = some (returned, growing) ∧
      growing.document = (run { head := .document details } calls).document ∧
      Grown details returned growing ∧
      ∀ call : BuildCall, ∃ outcome next, call.step growing = some (outcome, next) ∧
        Does growing call outcome next := by
  let empty : DocumentBuilder := { head := .document details }
  obtain ⟨returned, grown, same⟩ := @grow_inPlace empty [] rfl calls
  have sound := (Sound.start (.document details)).run calls
  let builder := run empty calls
  have reads : Reads builder.document.children (returned.flatMap pieces) := by
    rw [children_document, same]
    exact sound.holds.reads
  refine ⟨returned, builder.inPlace, grown, rfl, ⟨?rising, ?lastPath, reads, ?visited⟩,
    exists_does sound.rising⟩
  case rising =>
    obtain ⟨levels, has, falling, positive⟩ := sound.rising
    refine ⟨levels.reverse, ?_, List.pairwise_reverse.2 falling, by simpa using positive⟩
    rw [List.map_reverse, List.map_reverse, has.stack]
  case lastPath =>
    have path := lastPath_openings builder.children details builder.sections []
    rw [← sound.sameHead, whole_nil_eq_document] at path
    exact path
  case visited =>
    have root : builder.document.bare = .node (.document details) [] [] := by
      rw [document_eq, sound.sameHead]
      rfl
    change builder.document.preorder.map Tree.bare = _
    rw [Tree.preorder_eq, List.map_cons, reads.preorder, root]

/-- Sections at levels 1, 3 and 2, the last of them closed again, and one at level 0: the first
stays open, with the other two next to each other in it, and the last call is refused. -/
theorem run_invariant_skippedLevel :
    let calls : List BuildCall :=
      [.openSection (.plain (.str "A")) 1, .openSection (.plain (.str "B")) 3, .add (.ofText "b"),
        .openSection (.plain (.str "C")) 2, .close, .openSection (.plain (.str "D")) 0]
    let whole := Tree.ofList (.document {}) [.ofSection (.ofText "A")
      [.ofSection (.ofText "B") [.ofText "b"], .ofSection (.ofText "C") []]]
    grow (.fresh {}) calls = some (calls.take 5, ⟨whole, [⟨[0], .int 1⟩]⟩) ∧
      Grown {} (calls.take 5) ⟨whole, [⟨[0], .int 1⟩]⟩ := by
  intro calls whole
  have made : grow (.fresh {}) calls = some (calls.take 5, ⟨whole, [⟨[0], .int 1⟩]⟩) := rfl
  obtain ⟨returned, growing, grown, -, holds, -⟩ := run_invariant {} calls
  cases made.symm.trans grown
  exact ⟨made, holds⟩

end BuildCall

end Folio.Building
