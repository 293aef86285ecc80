import Folio.Proofs.CommandLine.Checked
import Folio.Proofs.CommandLine.Spelling
import Folio.Proofs.Contents.Resolution
import Folio.Proofs.Validation.Exact

/-!
# Documents that pass the check are safe

A run accepts a text if it is decoded as a document and nothing is wrong with that. From then on
nothing can go wrong that the library does not foresee: no document lies below another node,
every list, table and figure holds the variants of nodes that belong there, and so every member
that a report reads is there. A report that prints what it tells is made and printed, with one
exception: a table of contents is refused if references are required and two listed sections
have had one and the same from the beginning.
-/

namespace Folio.CommandLine

open References Contents Folio.Tree

/-- References are required, and two listed sections of a tree have the same one. -/
def Clashes (options : ContentsOptions) (tree : Tree) : Prop :=
  options.requireReferences = .bool true ∧
    PinnedTwice ((listed options 0 tree).map Tree.reference)

/-- The one way for a task to be refused: a table of contents in which references clash. -/
def Refused (task : Task) (options : ContentsOptions) (document : Tree) : Prop :=
  task = .contents ∧ Clashes options document

/-- Only tables of contents are refused. -/
theorem not_refused {task : Task} (other : task ≠ .contents) (options : ContentsOptions)
    (document : Tree) : ¬Refused task options document := fun refused => other refused.1

section Tables

variable {references : ReferenceOptions} {contents : ContentsOptions}

/-- After references have been given, all listed sections have one. -/
theorem listed_isSet (typed : references.WellTyped) (contents : ContentsOptions) (tree : Tree) :
    ∀ visited ∈ listed contents 0 (assign references tree).tree,
      visited.reference.isSet = true := by
  intro visited member
  have inAll := (listed_assign typed contents tree).1.subset (List.mem_map_of_mem member)
  exact (assign_completes typed tree).given _ inAll

/-- After references have been given, a table of contents is refused for a duplicate if they
clashed before, and built if not. -/
theorem build_given (typed : references.WellTyped) (contentsTyped : contents.WellTyped)
    (tree : Tree) :
    (Clashes contents tree → ∃ reference,
      (build contents (assign references tree).tree).value = .error (.duplicate reference)) ∧
    (¬Clashes contents tree → ∃ table,
      (build contents (assign references tree).tree).value = .ok table) := by
  have distinct := (listed_assign typed contents tree).2
  obtain ⟨required, isBool⟩ := contentsTyped.required
  cases required with
  | false =>
    have lenient : contents.requireReferences.isSet = false := by rw [isBool]; rfl
    refine ⟨fun clashes => ?_, fun _ => ⟨_, build_of_lenient lenient _⟩⟩
    have notRequired := isBool.symm.trans clashes.1
    cases notRequired
  | true =>
    have asked : contents.requireReferences.isSet = true := by rw [isBool]; rfl
    obtain ⟨built, refused⟩ := build_of_isSet asked (listed_isSet typed contents tree)
    constructor
    · rintro ⟨_, twice⟩
      exact refused fun apart => distinct.1 apart twice
    · intro noClash
      exact ⟨_, built (distinct.2 fun twice => noClash ⟨isBool, twice⟩)⟩

end Tables

/-- A report without drawings on a typed document: a refused task ends with a duplicate, and any
other has something to report. -/
theorem report_decided {invocation : Invocation} (plain : invocation.given.rich = false)
    {options : ReferenceOptions × ContentsOptions} (typed : options.1.WellTyped)
    (contentsTyped : options.2.WellTyped) {document : Tree} (typedTree : document.Typed) :
    (Refused invocation.task options.2 document → ∃ reference,
      (invocation.report options document).value = .error (.contents (.duplicate reference))) ∧
    (¬Refused invocation.task options.2 document → ∃ report,
      (invocation.report options document).value = .ok report) := by
  have noFault := (assign_give typed document).2
  cases task : invocation.task with
  | contents =>
    obtain ⟨refused, built⟩ := build_given typed contentsTyped document
    simp only [Invocation.report, task, plain, withReferences, noFault, reportContents]
    constructor
    · rintro ⟨_, clashes⟩
      obtain ⟨reference, cause⟩ := refused clashes
      exact ⟨reference, by rw [cause]⟩
    · intro notRefused
      obtain ⟨table, made⟩ := built fun clashes => notRefused ⟨rfl, clashes⟩
      exact ⟨Outline.linesFrom 0 1 (Outline.ofContents table), by rw [made]; rfl⟩
  | text =>
    have told : (invocation.report options document).value = .ok [document.text] := by
      simp only [Invocation.report, task]
    exact ⟨fun refused => absurd refused (not_refused (by decide) _ _), fun _ => ⟨_, told⟩⟩
  | references =>
    have told := report_references task options noFault (typed_assign typed typedTree)
    exact ⟨fun refused => absurd refused (not_refused (by decide) _ _), fun _ => ⟨_, told⟩⟩
  | collect kind =>
    have told : (invocation.report options document).value =
        .ok (reportCollected kind false document) := by
      simp only [Invocation.report, task, plain]
    exact ⟨fun refused => absurd refused (not_refused (by simp) _ _), fun _ => ⟨_, told⟩⟩

/-- The run is to carry a task out on an accepted text, with some options, and to print what it
tells without drawings. Only a task that gives references can write to a file instead. -/
structure Call.Tells (call : Call) (task : Task) (options : ReferenceOptions × ContentsOptions)
    (text : String) : Prop where
  asked : call.invocation.task = task
  plain : call.invocation.given.rich = false
  unnamed : task = .references → call.output = ""
  finds : ∃ content, Text.ofBytes? content = some text ∧ call.Finds options content

/-- A run that is to print what it tells has no file to write it to. -/
theorem Call.Tells.output_eq {call : Call} {task : Task}
    {options : ReferenceOptions × ContentsOptions} {text : String}
    (tells : call.Tells task options text) : call.output = "" := by
  by_cases references : task = .references
  · exact tells.unnamed references
  · rw [Call.output, output_eq_none call.read (tells.asked ▸ references)]
    rfl

/-- A configuration that requires references. -/
def strict : Json := .obj [("toc", .obj [("require_references", .scalar (.bool true))])]

/-- A working directory with nothing in it but a file and that configuration. -/
def strictDirectory (content : ByteArray) : FileTree :=
  { root := ""
    entries := [(["draft.json"], .file content),
      (["strict.json"], .file (strict.render none).toUTF8)] }

/-- The table of contents of the file is to be shown, under the configuration. -/
def strictCall (content : ByteArray) : Call where
  words := ["toc", "draft.json"]
  environment := "strict.json"
  files := strictDirectory content
  invocation := ⟨.contents, "draft.json", {}⟩
  read := (contentsCall content).read

/-- The configuration is read from its bytes. -/
theorem strict_text : Text.ofBytes? (strict.render none).toUTF8 = some (strict.render none) :=
  Text.ofBytes?_toUTF8 (Json.carriageReturn_notMem_render strict none)

/-- The configuration is a JSON file by its name. -/
theorem strict_suffix : Config.Format.ofSuffix?
    (Text.lower (⟨false, ["strict.json"]⟩ : FilePath).suffix) = some .json := by decide

/-- The configuration is found and read. -/
theorem load_strict (content : ByteArray) :
    (Config.load (strictDirectory content) ⟨false, ["strict.json"]⟩).value =
      .ok [(.text "toc", .table [(.text "require_references", .bool true)])] := by
  have file : (strictDirectory content).isFile ⟨false, ["strict.json"]⟩ = true := rfl
  have stored : (strictDirectory content).read ⟨false, ["strict.json"]⟩ =
      .ok (strict.render none).toUTF8 := rfl
  have parsed : Json.parse (strict.render none) = .ok strict :=
    Json.parse_render strict none (by decide) (by decide)
  have notProject :
      (Text.lower (⟨false, ["strict.json"]⟩ : FilePath).name == Config.projectName) = false := by
    decide
  simp only [Config.load, Config.loadValue, file, notProject, strict_suffix, Config.contentOf,
    stored, Config.Format.read, strict_text, parsed, bind, Except.bind, Except.mapError]
  rfl

/-- The run loads the configuration. -/
theorem loaded_strictCall (content : ByteArray) :
    (strictCall content).loaded =
      Config.load (strictDirectory content) ⟨false, ["strict.json"]⟩ := by
  have path : FilePath.ofText "strict.json" = ⟨false, ["strict.json"]⟩ := by decide
  have named : ("strict.json" != "") = true := by decide
  have unnamed : ("" != "") = false := by decide
  have files : (strictCall content).started.written.files = strictDirectory content := rfl
  rw [Call.loaded, files]
  simp only [strictCall, Option.getD_none, Config.loadFirst, named, unnamed, path, if_true,
    Bool.false_eq_true, if_false]

/-- The run finds the options that require references, and the content of the draft. -/
theorem finds_strictCall (content : ByteArray) :
    (strictCall content).Finds ({}, { requireReferences := .bool true }) content := by
  have config := load_strict content
  rw [← loaded_strictCall] at config
  have input : FilePath.ofText "draft.json" = ⟨false, ["draft.json"]⟩ := by decide
  have stored : (strictDirectory content).read (FilePath.ofText "draft.json") = .ok content := by
    rw [input]
    rfl
  have unlogged (records : List LogRecord) :
      ((strictCall content).started.log records).written.files = strictDirectory content := rfl
  refine ⟨⟨_, config, rfl⟩, ?_⟩
  rw [Call.configured, unlogged]
  exact stored

/-- Two sections with one reference. -/
def twins : Tree :=
  .node (.document { title := "Twins" }) [] [.many
    [ofSection (ofText "A") [] (.text "a"), ofSection (ofText "B") [] (.text "a")]]

/-- The twins are a sound document. -/
theorem sound_twins : Sound twins :=
  ⟨rfl, ⟨by decide, by decide⟩, by decide, by decide⟩

end Folio.CommandLine
