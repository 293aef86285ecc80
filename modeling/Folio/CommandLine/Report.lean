import Folio.CommandLine.Arguments
import Folio.Contents
import Folio.Drawing
import Folio.References
import Folio.Tree.Encoding

/-!
# Reports

What a task tells about a document, as texts that are printed one below the other. Tables of
contents and references are reported as they are after references have been given; the
document that was read is not changed.
-/

namespace Folio.CommandLine

/-- Why a task has nothing to report. -/
inductive ReportError where
  | contents (cause : Contents.ContentsError)
  | fault (cause : Fault)
  deriving Inhabited, Repr

/-- A report, or why there is none, with the records of the task. -/
abbrev Report := Reported (Except ReportError (List String))

/-- Give references and report on the tree with them. -/
def withReferences (options : ReferenceOptions) (document : Tree) (next : Tree → Report) :
    Report :=
  let outcome := References.assign options document
  match outcome.fault with
  | some fault => ⟨.error (.fault fault), outcome.records⟩
  | none =>
    let report := next outcome.tree
    ⟨report.value, outcome.records ++ report.records⟩

/-- The table of contents: numbered lines, or branches below a title. -/
def reportContents (options : ContentsOptions) (drawnBelow : Option String) (document : Tree) :
    Report :=
  let built := Contents.build options document
  match built.value with
  | .error cause => ⟨.error (.contents cause), built.records⟩
  | .ok contents =>
    let entries := Outline.ofContents contents
    match drawnBelow with
    | none => ⟨.ok (Outline.linesFrom 0 1 entries), built.records⟩
    | some title => ⟨(Drawing.ofOutline title entries).mapError .fault, built.records⟩

/-- The document as JSON text. -/
def reportReferences (document : Tree) : Report :=
  ⟨((document.toJsonText (some 2)).mapError .fault).map fun text => [text], []⟩

/-- The contents of a structural field. -/
def contentsOf (name : String) (tree : Tree) : List Tree :=
  ((tree.slot? name).map Slot.toList).getD []

/-- A figure by the source of its image and the text of its caption. -/
def figureRow (figure : Tree) : String × String :=
  let source := match contentsOf "image" figure with
    | .node (.image source _) _ _ :: _ => source
    | _ => ""
  (source, String.join ((contentsOf "description" figure).map Tree.text))

/-- A table by its number and the number of its rows. -/
def tableRow (index : Nat) (table : Tree) : String × String :=
  (toString (index + 1), toString (contentsOf "rows" table).length)

/-- A link to the web by its target and its label. -/
def linkRow (link : Tree) : String × String :=
  let target := match link with
    | .node (.webLink target) _ _ => target
    | _ => ""
  (target, link.text)

/-- What is collected, as rows. -/
def Collected.rows (kind : Collected) (document : Tree) : List (String × String) :=
  match kind with
  | figures => document.figures.map figureRow
  | tables => document.tables.mapIdx tableRow
  | links => document.webLinks.map linkRow

/-- The name of what is collected, as a heading. -/
def Collected.heading : Collected → String
  | figures => "Figures"
  | tables => "Tables"
  | links => "Links"

/-- What the columns of the rows hold. -/
def Collected.header : Collected → String × String
  | figures => ("Source", "Caption")
  | tables => ("Table", "Rows")
  | links => ("URI", "Label")

/-- The collected rows: with tabs between the cells, or as a grid. -/
def reportCollected (kind : Collected) (drawn : Bool) (document : Tree) : List String :=
  let rows := kind.rows document
  if drawn then Drawing.grid s!"{kind.heading} ({rows.length})" kind.header rows
  else rows.map fun row => row.1 ++ "\t" ++ row.2

/-- The title of a document, or else another text. -/
def titleOr (fallback : String) : Tree → String
  | .node (.document details) _ _ => if details.title == "" then fallback else details.title
  | _ => fallback

/-- The report of a task on a document. -/
def Invocation.report (invocation : Invocation)
    (options : ReferenceOptions × ContentsOptions) (document : Tree) : Report :=
  let rich := invocation.given.rich
  match invocation.task with
  | .contents =>
    let drawnBelow := if rich then some (titleOr invocation.input document) else none
    withReferences options.1 document (reportContents options.2 drawnBelow)
  | .text => ⟨.ok [document.text], []⟩
  | .references => withReferences options.1 document reportReferences
  | .collect kind => ⟨.ok (reportCollected kind rich document), []⟩

end Folio.CommandLine
