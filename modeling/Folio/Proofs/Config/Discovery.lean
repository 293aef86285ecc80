import Folio.Proofs.Config
import Folio.Proofs.FileTree.Paths
import Mathlib.Data.List.Induction

/-!
# Discovery of configuration files

A search on the way up to the root finds the candidate of the nearest directory that has one
(`Config.Nearest`): the first of the configuration files there, or else a project file with a
configuration. In each directory there is one candidate at most, and a search through several
directories is one look after the other, so all comes down to what is seen in one of them
(`Config.exists_seen`). The search ends without a failure as long as project files are texts and
set nothing but a table for tools; files that cannot be parsed are passed over.
-/

namespace Folio.Config

variable {files : FileTree} {directory location place : Location} {path : FilePath}
  {content : ByteArray}

/-- The configuration file of a directory: the first of the places for one at which a file
stands. -/
def IsOwnFile (files : FileTree) (directory place : Location) : Prop :=
  ∃ before after, fileNames.map (fun name => directory ++ [name]) = before ++ place :: after ∧
    files.isFileAt place = true ∧ ∀ other ∈ before, files.isFileAt other = false

/-- The content of a project file holds a configuration: a table with something in it, among the
tools. -/
def Configures (content : ByteArray) : Prop :=
  ∃ text document tools config, String.fromUTF8? content = some text ∧
    Toml.parse? text = some document ∧ document.named? "tool" = some (.table tools) ∧
      Settings.named? tools projectTable = some (.table config) ∧ config ≠ []

/-- What a directory has to offer: a configuration file, or else a project file that holds a
configuration. -/
inductive Candidate (files : FileTree) (directory : Location) : Location → Prop where
  | own {place : Location} (first : IsOwnFile files directory place) :
      Candidate files directory place
  | project {content : ByteArray}
      (none : ∀ name ∈ fileNames, files.isFileAt (directory ++ [name]) = false)
      (file : files.entry? (directory ++ [projectName]) = some (.file content))
      (configures : Configures content) : Candidate files directory (directory ++ [projectName])

/-- A candidate in one of the directories on the way from a location to the root, with none in
those that are nearer. -/
def Nearest (files : FileTree) (location place : Location) : Prop :=
  ∃ above, above <+: location ∧ Candidate files above place ∧
    ∀ nearer, nearer <+: location → above.length < nearer.length →
      ∀ other, ¬Candidate files nearer other

/-- What discovery finds: the nearest candidate, or without any the configuration file in the home
directory. -/
def Discovered (files : FileTree) (location place : Location) : Prop :=
  Nearest files location place ∨
    (∀ other, ¬Nearest files location other) ∧ IsOwnFile files files.home place

/-- The project files of a file tree are texts, and where one can be parsed, its entry for tools
is a table if there is one. -/
def ProjectsSound (files : FileTree) : Prop :=
  ∀ directory content, files.entry? (directory ++ [projectName]) = some (.file content) →
    ∃ text, String.fromUTF8? content = some text ∧
      ∀ document tool, Toml.parse? text = some document → document.named? "tool" = some tool →
        ∃ tools, tool = .table tools

/-- The file of a directory is the first of the known names that is there. -/
theorem ownFile?_eq_some_iff :
    ownFile? files directory = some place ↔ IsOwnFile files directory place := by
  rw [ownFile?, List.find?_eq_some_iff_append, IsOwnFile]
  constructor
  · rintro ⟨file, before, after, places, none⟩
    exact ⟨before, after, places, file, fun other member => by simpa using none other member⟩
  · rintro ⟨before, after, places, file, none⟩
    exact ⟨file, before, after, places, fun other member => by simpa using none other member⟩

/-- A directory has no file if there is none of the known names. -/
theorem ownFile?_eq_none_iff : ownFile? files directory = none ↔
    ∀ name ∈ fileNames, files.isFileAt (directory ++ [name]) = false := by
  simp [ownFile?]

/-- A file stands where there is content. -/
theorem isFileAt_iff : files.isFileAt location = true ↔
    ∃ content, files.entry? location = some (.file content) := by
  rw [FileTree.isFileAt]
  split
  · rename_i content stands
    simp [stands]
  · rename_i other
    refine iff_of_false (by simp) ?_
    rintro ⟨content, stands⟩
    exact other content stands

/-- A project file is loaded or refused; what is loaded holds something exactly if the file holds a
configuration. -/
theorem loadProject_cases (read : files.read path = .ok content) {text : String}
    (isText : String.fromUTF8? content = some text)
    (sound : ∀ document tool, Toml.parse? text = some document →
      document.named? "tool" = some tool → ∃ tools, tool = .table tools) :
    (∃ config, loadProject files path = .ok config ∧ (config ≠ [] ↔ Configures content)) ∨
      ∃ cause, loadProject files path = .error cause ∧ cause.isRefusal = true ∧
        ¬Configures content := by
  have configures (document : Settings) (parsed : Toml.parse? text = some document) :
      Configures content ↔ ∃ tools config, document.named? "tool" = some (.table tools) ∧
        Settings.named? tools projectTable = some (.table config) ∧ config ≠ [] := by
    simp [Configures, isText, parsed]
  simp only [loadProject, contentOf_eq read, isText, bind, Except.bind]
  cases parsed : Toml.parse? text with
  | none =>
    refine .inr ⟨_, rfl, rfl, ?_⟩
    rintro ⟨_, document, _, _, same, isDocument, -⟩
    obtain rfl := Option.some.inj (isText.symm.trans same)
    rw [parsed] at isDocument
    cases isDocument
  | some document =>
    rw [configures document parsed]
    obtain none | ⟨tools, isTools⟩ :
        document.named? "tool" = none ∨ ∃ tools, document.named? "tool" = some (.table tools) := by
      cases found : document.named? "tool" with
      | none => exact .inl rfl
      | some tool =>
        obtain ⟨tools, rfl⟩ := sound document tool parsed found
        exact .inr ⟨tools, rfl⟩
    · refine .inl ⟨[], ?_, ?_⟩
      · simp only [tableIn, none]
        rfl
      · simp [none]
    · simp only [tableIn, isTools, Option.getD_some, Option.some.injEq, Setting.table.injEq]
      cases found : Settings.named? tools projectTable with
      | none => exact .inl ⟨[], rfl, by simp [found]⟩
      | some value =>
        cases value with
        | table config => exact .inl ⟨config, rfl, by simp [found]⟩
        | _ => exact .inr ⟨_, rfl, rfl, by simp [found]⟩

variable (proper : files.Proper) (sound : ProjectsSound files)
include proper sound

/-- Looking at a project file ends well, and finds it exactly if it holds a configuration. -/
theorem exists_project (directory : Location) :
    ∃ found, (projectFile? files directory).value = .ok found ∧
      ∀ place, found = some place ↔ place = directory ++ [projectName] ∧
        ∃ content, files.entry? place = some (.file content) ∧ Configures content := by
  by_cases file : files.isFileAt (directory ++ [projectName]) = true
  · obtain ⟨content, stands⟩ := isFileAt_iff.1 file
    have only (place : Location) : (place = directory ++ [projectName] ∧
        ∃ content, files.entry? place = some (.file content) ∧ Configures content) ↔
          place = directory ++ [projectName] ∧ Configures content := by
      refine and_congr_right fun isPlace => ?_
      simp [isPlace, stands]
    simp only [only]
    obtain ⟨text, isText, isSound⟩ := sound directory content stands
    have read := FileTree.read_locationText proper (by simp) stands
    rcases loadProject_cases read isText isSound with
      ⟨config, loaded, configures⟩ | ⟨cause, refused, isRefusal, holdsNone⟩
    · refine ⟨if config.isEmpty then none else some (directory ++ [projectName]), ?_, ?_⟩
      · simp [projectFile?, file, pathOf, loaded]
      · intro place
        rw [← configures]
        cases config <;> simp [eq_comm]
    · exact ⟨none, by simp [projectFile?, file, pathOf, refused, isRefusal], by simp [holdsNone]⟩
  · refine ⟨none, by simp [projectFile?, file], fun place => iff_of_false (by simp) ?_⟩
    rintro ⟨rfl, content, stands, -⟩
    exact file (isFileAt_iff.2 ⟨content, stands⟩)

/-- In each directory a search sees the one candidate there, or it goes on. -/
theorem exists_seen (directory : Location) :
    ∃ seen : Option Location, (∀ place, seen = some place ↔ Candidate files directory place) ∧
      ∀ rest, (searchIn files (directory :: rest)).value =
        seen.elim (searchIn files rest).value fun place => .ok (some place) := by
  cases own : ownFile? files directory with
  | some first =>
    refine ⟨some first, fun place => ?_, fun rest => by simp [searchIn, own]⟩
    constructor
    · intro same
      exact .own (ownFile?_eq_some_iff.1 (own.trans same))
    · intro candidate
      cases candidate with
      | own isFirst => rw [← own, ownFile?_eq_some_iff.2 isFirst]
      | project none _ _ =>
        rw [ownFile?_eq_none_iff.2 none] at own
        cases own
  | none =>
    obtain ⟨found, looked, isFound⟩ := exists_project proper sound directory
    refine ⟨found, fun place => ?_, fun rest => ?_⟩
    · rw [isFound]
      constructor
      · rintro ⟨rfl, content, stands, configures⟩
        exact .project (ownFile?_eq_none_iff.1 own) stands configures
      · intro candidate
        cases candidate with
        | own isFirst =>
          rw [ownFile?_eq_some_iff.2 isFirst] at own
          cases own
        | project _ stands configures => exact ⟨rfl, _, stands, configures⟩
    · cases found <;> simp [searchIn, own, looked]

omit proper sound

/-- The way up from a directory leads on from the directory above. -/
theorem upwards_concat (location : Location) (name : String) :
    upwards (location ++ [name]) = (location ++ [name]) :: upwards location := by
  have shorter :
      (List.range (location.length + 1)).map (fun count => (location ++ [name]).take count) =
        (List.range (location.length + 1)).map fun count => location.take count := by
    refine List.map_congr_left fun count member => ?_
    exact List.take_append_of_le_length (Nat.le_of_lt_succ (List.mem_range.1 member))
  have whole : (location ++ [name]).take (location.length + 1) = location ++ [name] :=
    List.take_of_length_le (by simp)
  rw [upwards, List.length_append, List.length_singleton, List.range_succ, List.map_append, shorter,
    List.reverse_append, upwards, List.map_singleton, whole]
  rfl

/-- A candidate is nearest in its own directory, or if there is none, nearest to the directory
above. -/
theorem nearest_concat_iff {name : String} : Nearest files (location ++ [name]) place ↔
    Candidate files (location ++ [name]) place ∨
      (∀ other, ¬Candidate files (location ++ [name]) other) ∧ Nearest files location place := by
  constructor
  · rintro ⟨above, isAbove, candidate, none⟩
    rcases List.prefix_concat_iff.1 isAbove with rfl | isAbove
    · exact .inl candidate
    · have lower : above.length < (location ++ [name]).length := by
        have := isAbove.length_le
        simp only [List.length_append, List.length_singleton]
        omega
      refine .inr ⟨none _ List.prefix_rfl lower, above, isAbove, candidate, ?_⟩
      exact fun nearer isNearer => none nearer (isNearer.trans (List.prefix_append _ _))
  · rintro (candidate | ⟨noneHere, above, isAbove, candidate, none⟩)
    · refine ⟨_, List.prefix_rfl, candidate, fun nearer isNearer longer => ?_⟩
      exact absurd isNearer.length_le (by omega)
    · refine ⟨above, isAbove.trans (List.prefix_append _ _), candidate, ?_⟩
      intro nearer isNearer longer
      rcases List.prefix_concat_iff.1 isNearer with rfl | isNearer
      · exact noneHere
      · exact none nearer isNearer longer

/-- On the way from the root there is only the root. -/
theorem nearest_root_iff : Nearest files [] place ↔ Candidate files [] place := by
  constructor
  · rintro ⟨above, isAbove, candidate, -⟩
    obtain rfl := List.prefix_nil.1 isAbove
    exact candidate
  · intro candidate
    refine ⟨[], List.prefix_rfl, candidate, fun nearer isNearer longer => ?_⟩
    exact absurd isNearer.length_le (by omega)

include proper sound

/-- A search up to the root ends well, and finds the nearest candidate. -/
theorem exists_nearest (location : Location) :
    ∃ found, (searchIn files (upwards location)).value = .ok found ∧
      ∀ place, found = some place ↔ Nearest files location place := by
  induction location using List.reverseRec with
  | nil =>
    obtain ⟨seen, isSeen, search⟩ := exists_seen proper sound []
    refine ⟨seen, ?_, fun place => (isSeen place).trans nearest_root_iff.symm⟩
    change (searchIn files [[]]).value = _
    rw [search]
    cases seen <;> rfl
  | append_singleton above name hypothesis =>
    obtain ⟨found, ends, isFound⟩ := hypothesis
    obtain ⟨seen, isSeen, search⟩ := exists_seen proper sound (above ++ [name])
    refine ⟨seen.or found, ?_, fun place => ?_⟩
    · rw [upwards_concat, search, ends]
      cases seen <;> rfl
    · rw [nearest_concat_iff, ← isFound]
      simp only [← isSeen]
      cases seen <;> simp

omit proper sound

/-- There is a nearest candidate if there is one at all on the way to the root. -/
theorem exists_nearest_iff : (∃ place, Nearest files location place) ↔
    ∃ above, above <+: location ∧ ∃ place, Candidate files above place := by
  constructor
  · rintro ⟨place, above, isAbove, candidate, -⟩
    exact ⟨above, isAbove, place, candidate⟩
  · rintro ⟨above, isAbove, place, candidate⟩
    induction location using List.reverseRec with
    | nil =>
      obtain rfl := List.prefix_nil.1 isAbove
      exact ⟨place, nearest_root_iff.2 candidate⟩
    | append_singleton rest name hypothesis =>
      by_cases here : ∃ other, Candidate files (rest ++ [name]) other
      · obtain ⟨other, candidate⟩ := here
        exact ⟨other, nearest_concat_iff.2 (.inl candidate)⟩
      · have isHigher : above <+: rest := by
          rcases List.prefix_concat_iff.1 isAbove with rfl | isHigher
          · exact absurd ⟨place, candidate⟩ here
          · exact isHigher
        obtain ⟨other, nearest⟩ := hypothesis isHigher
        exact ⟨other, nearest_concat_iff.2 (.inr ⟨not_exists.1 here, nearest⟩)⟩

/-- No path means the working directory. -/
theorem resolve?_working (files : FileTree) : files.resolve? ⟨false, []⟩ = some files.working := by
  have notBelow : files.belowRoot? ⟨false, []⟩ = none := by
    rw [FileTree.belowRoot?]
    cases (FilePath.ofText files.root).names <;> rfl
  rw [FileTree.resolve?, notBelow]
  rfl

include proper sound

/-- Discovery ends well, and finds the nearest candidate or else the file in the home directory. -/
theorem exists_discovered {start : Option FilePath}
    (resolved : files.resolve? (start.getD ⟨false, []⟩) = some location) :
    ∃ found, (discover files start).value = .ok found ∧
      ∀ place, found = some place ↔ Discovered files location place := by
  obtain ⟨found, ends, isFound⟩ := exists_nearest proper sound location
  have above : (findAbove files start).value = .ok found := by
    rw [findAbove, resolved]
    exact ends
  refine ⟨found.or (ownFile? files files.home), ?_, fun place => ?_⟩
  · cases found <;> simp [discover, above]
  · simp only [Discovered, ← isFound, ← ownFile?_eq_some_iff]
    cases found <;> simp

/-- Discovery finds the nearest candidate. A search from any directory ends well: in the nearest
directory up to the root that has a candidate it finds that one, and it finds nothing exactly if
none of these directories has one. Only then does the home directory count. Options are loaded from
what is discovered only if neither an explicit path nor one of the environment is given. -/
theorem discovery_nearest :
    (∀ start location, files.resolve? (start.getD ⟨false, []⟩) = some location →
      (∃ found, (findAbove files start).value = .ok found ∧
        (∀ place, found = some place ↔ Nearest files location place) ∧
        (found = none ↔ ∀ above, above <+: location → ∀ place, ¬Candidate files above place)) ∧
      ∃ found, (discover files start).value = .ok found ∧
        ∀ place, found = some place ↔ Discovered files location place) ∧
    ∀ loader explicit environment,
      (explicit ≠ "" → loadFirst files explicit environment loader =
        load files (FilePath.ofText explicit) loader) ∧
      (explicit = "" → environment ≠ "" → loadFirst files explicit environment loader =
        load files (FilePath.ofText environment) loader) ∧
      (explicit = "" → environment = "" →
        (∀ place, Discovered files files.working place →
          (loadFirst files explicit environment loader).value =
            (load files (pathOf files place) loader).value) ∧
        ((∀ place, ¬Discovered files files.working place) →
          (loadFirst files explicit environment loader).value = .ok [])) := by
  refine ⟨fun start location resolved => ⟨?_, exists_discovered proper sound resolved⟩,
    fun loader explicit environment => ⟨fun given => ?_, fun missing given => ?_, ?_⟩⟩
  · obtain ⟨found, ends, isFound⟩ := exists_nearest proper sound location
    refine ⟨found, by rw [findAbove, resolved]; exact ends, isFound, ?_⟩
    have some_iff : (∃ place, found = some place) ↔ _ :=
      (exists_congr isFound).trans exists_nearest_iff
    rw [← Option.ne_none_iff_exists'] at some_iff
    simpa using not_congr some_iff
  · simp [loadFirst, given]
  · simp [loadFirst, missing, given]
  · rintro rfl rfl
    obtain ⟨found, ends, isFound⟩ :=
      @exists_discovered files files.working proper sound none (resolve?_working files)
    refine ⟨fun place discovered => ?_, fun none => ?_⟩
    · rw [(isFound place).2 discovered] at ends
      simp [loadFirst, ends]
    · cases found with
      | none => simp [loadFirst, ends]
      | some place => exact absurd ((isFound place).1 rfl) (none place)

omit proper sound

/-- Two configuration files above a project file that configures nothing. -/
def nestedProject : FileTree where
  root := ""
  entries := [(["site", "docs", projectName], .file "title = 1\n".toUTF8),
    (["site", ".docmodel.json"], .file "".toUTF8), (["site", ".docmodel.yml"], .file "".toUTF8)]
  working := ["site", "docs"]

/-- A title is a key outside of all tables. -/
theorem parse_title : Toml.parse? "title = 1\n" = some [(.text "title", .int 1)] := by
  have characters : Toml.joinLineEnds "title = 1\n".toList =
      ['t', 'i', 't', 'l', 'e', ' ', '=', ' ', '1', '\n'] := rfl
  have lines :
      Toml.readStatements 11 ['t', 'i', 't', 'l', 'e', ' ', '=', ' ', '1', '\n'] =
        some [.entry ["title"] (.int 1)] := rfl
  rw [Toml.parse?, characters]
  change (Toml.readStatements 11 _ >>= _) = _
  rw [lines]
  rfl

/-- The directories of the nested project are set up properly. -/
theorem proper_nestedProject : nestedProject.Proper where
  names := by decide
  leaves := by
    intro location content file entry member below
    have apart : ∀ leaf ∈ nestedProject.entries, ∀ other ∈ nestedProject.entries,
        leaf.1 <+: other.1 → other.1 = leaf.1 := by decide
    obtain ⟨leaf, isLeaf, rfl⟩ := FileTree.mem_of_file file
    exact apart leaf isLeaf entry member below
  root := .inl rfl

/-- The only project file has no entry for tools. -/
theorem projectsSound_nestedProject : ProjectsSound nestedProject := by
  intro directory content file
  have isProject : directory ++ [projectName] = ["site", "docs", projectName] := by
    obtain ⟨entry, member, same⟩ := FileTree.mem_of_file file
    have only : ∀ entry ∈ nestedProject.entries, entry.1.getLast? = some projectName →
        entry.1 = ["site", "docs", projectName] := by decide
    exact same ▸ only entry member (by simp [same])
  rw [isProject] at file
  obtain rfl : "title = 1\n".toUTF8 = content := by
    cases file
    rfl
  refine ⟨_, Text.fromUTF8?_toUTF8 _, fun document tool parsed found => ?_⟩
  rw [parse_title] at parsed
  cases parsed
  cases found

/-- A project file with nothing but a title configures nothing. -/
theorem not_configures_title : ¬Configures "title = 1\n".toUTF8 := by
  rintro ⟨text, document, tools, config, isText, parsed, found, -⟩
  rw [Text.fromUTF8?_toUTF8] at isText
  cases isText
  rw [parse_title] at parsed
  cases parsed
  cases found

/-- The project file is passed over, and YAML comes before JSON. -/
theorem nearest_nestedProject :
    Nearest nestedProject ["site", "docs"] ["site", ".docmodel.yml"] := by
  have first : ownFile? nestedProject ["site"] = some ["site", ".docmodel.yml"] := rfl
  have none : ownFile? nestedProject ["site", "docs"] = none := rfl
  refine ⟨["site"], ⟨["docs"], rfl⟩, .own (ownFile?_eq_some_iff.1 first), ?_⟩
  intro nearer isNearer longer other candidate
  obtain rfl : nearer = ["site", "docs"] :=
    isNearer.eq_of_length (Nat.le_antisymm isNearer.length_le longer)
  cases candidate with
  | own isFirst =>
    rw [ownFile?_eq_some_iff.2 isFirst] at none
    cases none
  | project _ file configures =>
    cases file
    exact not_configures_title configures

/-- From a directory below two project files, one of which configures nothing, the search finds the
file of the directory between. -/
theorem discovery_nearest_nestedProject :
    nestedProject.Proper ∧ ProjectsSound nestedProject ∧
      nestedProject.resolve? ⟨false, []⟩ = some ["site", "docs"] ∧
      (findAbove nestedProject none).value = .ok (some ["site", ".docmodel.yml"]) := by
  have resolved : nestedProject.resolve? ⟨false, []⟩ = some ["site", "docs"] := rfl
  obtain ⟨⟨found, ends, isFound, -⟩, -⟩ :=
    (discovery_nearest proper_nestedProject projectsSound_nestedProject).1 none _ resolved
  refine ⟨proper_nestedProject, projectsSound_nestedProject, resolved, ?_⟩
  rw [ends, (isFound _).2 nearest_nestedProject]

end Folio.Config
