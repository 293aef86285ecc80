import Folio.CommandLine.Report
import Folio.Proofs.Contents.Layout
import Folio.Proofs.Contents.Required
import Folio.Proofs.References.Shape
import Folio.Proofs.Tree.Access

/-!
# Reports with checked access

`reportChecked` is the report of a task without drawings, made again with a check at each member
that is read: of the nodes that a visit meets, of the titles of sections, of collected figures,
tables and links, and of the items of the table of contents. A table of contents is taken to
pieces with numbered lists of items only, so no more is let through than is built. On documents
in which nothing is wrong no check fails, and the report is the one that is told.
-/

namespace Folio

/-- If a step goes well for each of some values, it does so for all of them in turn. -/
theorem mapM_eq_ok {ε α β : Type} {step : α → Except ε β} {result : α → β} {values : List α}
    (each : ∀ value ∈ values, step value = .ok (result value)) :
    values.mapM step = .ok (values.map result) := by
  induction values with
  | nil => rfl
  | cons value rest hypothesis =>
    obtain ⟨here, later⟩ := List.forall_mem_cons.1 each
    rw [List.mapM_cons, here, hypothesis later]
    rfl

namespace Tree

/-- What is read of the sections of a tree: the text of the title and the reference. -/
def sectionsChecked (tree : Tree) : Except Fault (List (String × String)) := do
  let found ← tree.collectChecked [.of .section]
  found.mapM fun visited => do
    let title ← visited.oneChecked "title"
    let text ← title.textChecked
    let reference ← visited.shownChecked "reference"
    pure (text, reference)

/-- The sections of a well-shaped tree are read without a fault. -/
theorem sectionsChecked_of_shaped {tree : Tree} (shaped : tree.Shaped) :
    tree.sectionsChecked =
      .ok (tree.sections.map fun visited => (visited.titleText, visited.reference.plain)) := by
  rw [sectionsChecked, collectChecked_of_shaped shaped]
  refine mapM_eq_ok fun visited member => ?_
  obtain ⟨met, isSection⟩ := mem_collect_singleton.1 member
  obtain ⟨here, inside⟩ := everywhere_iff.1 (shaped.of_mem met)
  obtain ⟨reference, metadata, title, body, rfl⟩ := here.of_section isSection
  have readable : title.textChecked = .ok title.text :=
    textChecked_of_shaped (inside title (by simp [children, Slot.toList]))
  have found : (Tree.node (.section (.text reference)) metadata
      [.one title, .many body]).oneChecked "title" = .ok title := rfl
  simp only [found, bind, Except.bind, readable]
  rfl

end Tree

namespace CommandLine

open References Contents Folio.Tree

/-- The row of a figure. -/
def figureRowChecked (figure : Tree) : Except Fault (String × String) := do
  let image ← figure.oneChecked "image"
  let source ← image.shownChecked "source"
  let caption ← figure.manyChecked "description"
  let texts ← caption.mapM textChecked
  pure (source, String.join texts)

/-- The row of a table. -/
def tableRowChecked (index : Nat) (table : Tree) : Except Fault (String × String) := do
  let rows ← table.manyChecked "rows"
  pure (toString (index + 1), toString rows.length)

/-- The row of a link to the web. -/
def linkRowChecked (link : Tree) : Except Fault (String × String) := do
  let target ← link.shownChecked "uri"
  let label ← link.textChecked
  pure (target, label)

/-- What is collected, as rows. -/
def Collected.rowsChecked (kind : Collected) (document : Tree) :
    Except Fault (List (String × String)) :=
  match kind with
  | figures => do
    let found ← document.collectChecked [.of .figure]
    found.mapM figureRowChecked
  | tables => do
    let found ← document.collectChecked [.of .table]
    found.zipIdx.mapM fun (table, index) => tableRowChecked index table
  | links => do
    let found ← document.collectChecked [.of .webLink]
    found.mapM linkRowChecked

/-- The row of a figure with an image is read without a fault. -/
theorem figureRowChecked_eq {figure : Tree} (shaped : figure.Shaped)
    (variants : figure.HasVariants) (isFigure : figure.isA (.of .figure) = true) :
    figureRowChecked figure = .ok (figureRow figure) := by
  cases figure with
  | stray value => cases isFigure
  | node head metadata slots =>
    cases head with
    | figure =>
      obtain ⟨image, caption, rfl, isImage⟩ := variants
      have texts : caption.mapM textChecked = .ok (caption.map text) :=
        mapM_eq_ok fun tree member => textChecked_of_shaped
          ((everywhere_iff.1 shaped).2 tree (by simp [children, Slot.toList, member]))
      cases image with
      | stray value => cases isImage
      | node head _ _ =>
        cases head with
        | image source description =>
          -- All members that are read are there, so only the texts of the caption are left.
          change (do
            let texts ← caption.mapM textChecked
            pure (source, String.join texts)) = _
          rw [texts]
          rfl
        | _ => cases isImage
    | _ => cases isFigure

/-- The row of a table is read without a fault. -/
theorem tableRowChecked_eq (index : Nat) {table : Tree} (shaped : table.IsShaped)
    (isTable : table.isA (.of .table) = true) :
    tableRowChecked index table = .ok (tableRow index table) := by
  cases table with
  | stray value => exact shaped.elim
  | node head metadata slots =>
    cases head with
    | table =>
      match slots, shaped.layout with
      | [.many rows], _ => rfl
    | _ => cases isTable

/-- The row of a link to the web is read without a fault. -/
theorem linkRowChecked_eq {link : Tree} (shaped : link.Shaped)
    (isLink : link.isA (.of .webLink) = true) : linkRowChecked link = .ok (linkRow link) := by
  have label := textChecked_of_shaped shaped
  cases link with
  | stray value => cases isLink
  | node head metadata slots =>
    cases head with
    | webLink target =>
      rw [linkRowChecked, label]
      rfl
    | _ => cases isLink

/-- The rows of a document with all its variants are read without a fault. -/
theorem Collected.rowsChecked_eq (kind : Collected) {document : Tree} (shaped : document.Shaped)
    (variants : document.Everywhere HasVariants) :
    kind.rowsChecked document = .ok (kind.rows document) := by
  cases kind with
  | figures =>
    rw [Collected.rowsChecked, collectChecked_of_shaped shaped]
    refine mapM_eq_ok fun figure member => ?_
    obtain ⟨met, isFigure⟩ := mem_collect_singleton.1 member
    exact figureRowChecked_eq (shaped.of_mem met) (variants figure met) isFigure
  | tables =>
    rw [Collected.rowsChecked, collectChecked_of_shaped shaped, Collected.rows,
      List.mapIdx_eq_zipIdx_map]
    refine mapM_eq_ok fun entry member => ?_
    obtain ⟨table, index⟩ := entry
    obtain ⟨met, isTable⟩ := mem_collect_singleton.1 (List.fst_mem_of_mem_zipIdx member)
    exact tableRowChecked_eq index (everywhere_iff.1 (shaped.of_mem met)).1 isTable
  | links =>
    rw [Collected.rowsChecked, collectChecked_of_shaped shaped]
    refine mapM_eq_ok fun link member => ?_
    obtain ⟨met, isLink⟩ := mem_collect_singleton.1 member
    exact linkRowChecked_eq (shaped.of_mem met) isLink

mutual

/-- The lines of a numbered list of items. -/
def tableLines (level : Nat) : Tree → Except Fault (List String)
  | .node .orderedList _ [.many items] => itemLines level 1 items
  | tree => .error (.noMember tree.typeName "items")

/-- The lines of items, numbered from a number on. -/
def itemLines (level number : Nat) : List Tree → Except Fault (List String)
  | [] => .ok []
  | item :: rest => do
    let here ← lineOf level number item
    let others ← itemLines level (number + 1) rest
    pure (here ++ others)

/-- The lines of an item: that of its link, which comes first, and those of the tables behind
it. -/
def lineOf (level number : Nat) : Tree → Except Fault (List String)
  | .node .listItem _ [.many (link :: nested)] => do
    let title ← link.textChecked
    let reference ← link.shownChecked "section_reference"
    let below ← nestedLines (level + 1) nested
    pure ((String.join (List.replicate level "  ") ++
      s!"{number}. " ++ title ++ " (#" ++ reference ++ ")") :: below)
  | tree => .error (.noMember tree.typeName "children")

/-- The lines of nested tables. -/
def nestedLines (level : Nat) : List Tree → Except Fault (List String)
  | [] => .ok []
  | table :: rest => do
    let here ← tableLines level table
    let others ← nestedLines level rest
    pure (here ++ others)

end

/-- Items that are read without a fault one by one are so in a list. -/
theorem itemLines_eq {items : List Tree}
    (each : ∀ item ∈ items, ∀ level number : Nat,
      lineOf level number item = .ok (Outline.lines level number (Outline.ofItem item)))
    (level number : Nat) :
    itemLines level number items =
      .ok (Outline.linesFrom level number (Outline.ofItems items)) := by
  induction items generalizing number with
  | nil => rfl
  | cons item rest hypothesis =>
    obtain ⟨here, behind⟩ := List.forall_mem_cons.1 each
    rw [itemLines, here, hypothesis behind]
    rfl

/-- Items as tables of contents have them are read without a fault, and so is all behind their
links: at most one list, of such items again. -/
theorem lineOf_eq {item : Tree} (isItem : IsItem item) :
    ∀ level number : Nat,
      lineOf level number item = .ok (Outline.lines level number (Outline.ofItem item)) := by
  induction isItem with
  | @of reference title below shaped _ hypothesis =>
    intro level number
    have label : (internalLink (.text reference) [title]).textChecked =
        .ok (internalLink (.text reference) [title]).text :=
      textChecked_of_shaped (shaped_ofList rfl rfl (List.forall_mem_singleton.2 shaped))
    have nested : nestedLines (level + 1)
        (if below.isEmpty then [] else [orderedList below]) =
          .ok (Outline.linesFrom (level + 1) 1 (Outline.ofItems below)) := by
      cases below with
      | nil => rfl
      | cons first rest =>
        change (do
          let here ← itemLines (level + 1) 1 (first :: rest)
          pure (here ++ [])) = _
        rw [itemLines_eq hypothesis]
        exact congrArg Except.ok (List.append_nil _)
    rw [listItem, ofList, lineOf, label, nested, ← Outline.ofLists_nested]
    rfl

/-- A table of such items is read without a fault. -/
theorem tableLines_eq {items : List Tree} (each : ∀ item ∈ items, IsItem item) (level : Nat) :
    tableLines level (orderedList items) =
      .ok (Outline.linesFrom level 1 (Outline.ofContents (orderedList items))) :=
  itemLines_eq (fun item member => lineOf_eq (each item member)) level 1

/-- Read the sections, and then give references. -/
def assignChecked (options : ReferenceOptions) (tree : Tree) : Except ReportError Tree := do
  let _ ← tree.sectionsChecked.mapError ReportError.fault
  let outcome := assign options tree
  match outcome.fault with
  | some fault => .error (.fault fault)
  | none => .ok outcome.tree

/-- Read the sections, and then build the table of contents and take it to pieces. -/
def contentsChecked (options : ContentsOptions) (tree : Tree) :
    Except ReportError (List String) := do
  let _ ← tree.sectionsChecked.mapError ReportError.fault
  let table ← (build options tree).value.mapError ReportError.contents
  (tableLines 0 table).mapError .fault

/-- The report of a task without drawings. -/
def reportChecked (task : Task) (options : ReferenceOptions × ContentsOptions)
    (document : Tree) : Except ReportError (List String) :=
  match task with
  | .contents => do
    let given ← assignChecked options.1 document
    contentsChecked options.2 given
  | .text => (document.textChecked.mapError .fault).map fun text => [text]
  | .references => do
    let given ← assignChecked options.1 document
    ((given.toJsonText (some 2)).mapError .fault).map fun text => [text]
  | .collect kind =>
    ((kind.rowsChecked document).mapError .fault).map fun rows =>
      rows.map fun row => row.1 ++ "\t" ++ row.2

/-- References are given to a well-shaped tree without a fault. -/
theorem assignChecked_eq {options : ReferenceOptions} (typed : options.WellTyped) {tree : Tree}
    (shaped : tree.Shaped) : assignChecked options tree = .ok (assign options tree).tree := by
  rw [assignChecked, sectionsChecked_of_shaped shaped]
  simp only [Except.mapError, bind, Except.bind, (assign_give typed tree).2]

/-- The table of contents of a well-shaped tree is refused, or it is told without a fault. -/
theorem contentsChecked_eq (options : ContentsOptions) {tree : Tree} (shaped : tree.Shaped) :
    contentsChecked options tree = (reportContents options none tree).value := by
  rw [contentsChecked, sectionsChecked_of_shaped shaped, reportContents]
  cases built : (build options tree).value with
  | error cause => rfl
  | ok table =>
    obtain rfl := eq_of_build built
    have lines := tableLines_eq (isItem_forestWithin options 0 shaped) 0
    simp only [Except.mapError, bind, Except.bind, lines]

/-- In a document with all its variants, every member that the report of a task reads is there:
checked access makes the same report. -/
theorem reportChecked_eq {invocation : Invocation} (plain : invocation.given.rich = false)
    {options : ReferenceOptions × ContentsOptions} (typed : options.1.WellTyped)
    {document : Tree} (shaped : document.Shaped)
    (variants : document.Everywhere HasVariants) :
    reportChecked invocation.task options document =
      (invocation.report options document).value := by
  have given := assignChecked_eq typed shaped
  have noFault := (assign_give typed document).2
  obtain ⟨fallback, isText, _⟩ := typed.fallback
  have shapedAfter := shaped_assign ⟨fallback, isText⟩ shaped
  cases task : invocation.task with
  | contents =>
    have told := contentsChecked_eq options.2 shapedAfter
    simp only [reportChecked, Invocation.report, task, plain, withReferences, noFault, given]
    exact told
  | text =>
    simp only [reportChecked, Invocation.report, task, textChecked_of_shaped shaped]
    rfl
  | references =>
    simp only [reportChecked, Invocation.report, task, withReferences, noFault,
      reportReferences, given]
    rfl
  | collect kind =>
    simp only [reportChecked, Invocation.report, task, plain, reportCollected,
      kind.rowsChecked_eq shaped variants]
    rfl

end CommandLine

end Folio
