import Folio.Building.Expression

/-!
# Building documents in one go

A document builder takes sections and content in reading order. Opening a section closes
every open section of the same or a deeper level; content goes into the innermost open
section, or into the document if none is open.
-/

namespace Folio.Building

/-- A section that is still open, with what it holds so far. -/
structure OpenSection where
  level : Scalar
  title : Slot Tree
  reference : Scalar
  children : List Tree := []
  deriving Inhabited, Repr

/-- The section as a node. -/
def OpenSection.tree (entry : OpenSection) : Tree :=
  .node (.section entry.reference) [] [entry.title, .many entry.children]

/-- A document under construction: its head, its finished children and the sections that
are open, innermost first. -/
structure DocumentBuilder where
  head : Head := .document {}
  children : List Tree := []
  sections : List OpenSection := []
  deriving Inhabited, Repr

namespace DocumentBuilder

/-- An empty builder for a document with the given fields. -/
def new (fields : Json.Members) : Except BuildError DocumentBuilder :=
  match Kind.document.signature.bind [] fields with
  | .error cause => .error (.unfit cause)
  | .ok bound =>
    let head := Head.build .document fun name => do
      let field ← Kind.document.field? name
      let value ← bound.get? name
      match Tree.decodeAttribute .document field value with
      | .ok (.attr content) => some content
      | _ => none
    .ok { head }

/-- Append a node to the innermost open section, or to the document. -/
def add (tree : Tree) (builder : DocumentBuilder) : DocumentBuilder :=
  match builder.sections with
  | [] => { builder with children := builder.children ++ [tree] }
  | entry :: rest =>
    { builder with sections := { entry with children := entry.children ++ [tree] } :: rest }

/-- Close the innermost open section, so that it stands where it was opened. -/
def closeInnermost (builder : DocumentBuilder) : DocumentBuilder :=
  match builder.sections with
  | [] => builder
  | entry :: rest => add entry.tree { builder with sections := rest }

/-- Close sections from the innermost outwards, as long as their level is not above `level`. -/
def closeTo (level : Scalar) (builder : DocumentBuilder) : DocumentBuilder :=
  match _open : builder.sections with
  | [] => builder
  | entry :: _ =>
    if (entry.level.atLeast? level).getD false then closeTo level builder.closeInnermost
    else builder
termination_by builder.sections.length
decreasing_by
  simp only [closeInnermost, _open]
  cases ‹List OpenSection› <;> simp [add]

/-- How a section is opened. -/
def openSignature : Signature where
  name := "DocumentBuilder.open_section()"
  receiver := true
  required := ["title"]
  optional := ["level", "reference"]

/-- Open a section at a level, 1 if none is given. -/
def openSection (arguments : List Argument) (named : List (String × Argument))
    (builder : DocumentBuilder) : Except BuildError DocumentBuilder :=
  match openSignature.bind arguments named with
  | .error cause => .error (.unfit cause)
  | .ok bound =>
    let level := (bound.get? "level").getD (.plain (.int 1))
    let title := ((bound.get? "title").map Argument.slot).getD (.one (Tree.ofText ""))
    let reference := ((bound.get? "reference").map Argument.scalar).getD (.text "")
    match level with
    | .plain (.scalar number) =>
      match number.below? 1 with
      | none => .error (.fault (.notOrdered number.typeName "int"))
      | some true => .error (.levelTooSmall number)
      | some false =>
        let builder := closeTo number builder
        .ok { builder with
          sections := { level := number, title, reference } :: builder.sections }
    | other => .error (.fault (.notOrdered other.typeName "int"))

/-- Close the innermost open section, if there is one. -/
def closeSection (builder : DocumentBuilder) : Except BuildError DocumentBuilder :=
  if builder.sections.isEmpty then .error .nothingOpen else .ok builder.closeInnermost

/-- The document as it is now, with its open sections in place. -/
def document (builder : DocumentBuilder) : Tree :=
  let children := builder.sections.foldl
    (fun inner entry => { entry with children := entry.children ++ inner }.tree :: [])
    []
  .node builder.head [] [.many (builder.children ++ children)]

end DocumentBuilder

/-- A step in building a document. -/
inductive BuildStep where
  | openSection (title : Expression) (named : List (String × Expression))
  | close
  | add (content : Expression)
  deriving Inhabited, Repr

/-- The builder after a step; a step that fails changes nothing. -/
def BuildStep.apply (step : BuildStep) (builder : DocumentBuilder) :
    Except BuildError DocumentBuilder :=
  match step with
  | openSection title named => do
    let title ← title.evaluate
    let named ← Expression.evaluateNamed named
    builder.openSection [title] named
  | close => builder.closeSection
  | add content => do
    let content ← content.evaluate
    pure (builder.add content.bare)

/-- The builders after each of several steps, with the error of those that failed. -/
def BuildStep.run (builder : DocumentBuilder) :
    List BuildStep → List (Option BuildError × DocumentBuilder)
  | [] => []
  | step :: rest =>
    match step.apply builder with
    | .ok next => (none, next) :: run next rest
    | .error cause => (some cause, builder) :: run builder rest

end Folio.Building
