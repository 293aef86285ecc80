import Folio.Failure
import Folio.Proofs.FileTree
import Folio.Proofs.Options
import Folio.Proofs.Signature
import Folio.Proofs.Toml

/-!
# Failures of the configuration

Loading a file and making options of what it holds is meant to fail with configuration errors
only, and a search for a file is meant not to fail at all. `Escapes` names the failures of other
classes. There are exactly four ways to them: bytes that are no text, a project file whose entry for
tools is no table, a YAML loader that fails in a way of its own, and unknown keys that are not all
texts. The last one needs a format that can write such keys, so it is out of reach of TOML and JSON.
Everything is said of any loader of YAML.
-/

namespace Folio.Config

/-- The outcome is a failure of another class than that of configuration errors. -/
def Escapes {α : Type} (outcome : Except ConfigError α) : Prop :=
  ∃ cause, outcome = .error cause ∧ (Failure.ofConfig cause).failureClass ≠ .own .configuration

/-- Refusals are what is reported as a configuration error. -/
theorem failureClass_ofConfig (cause : ConfigError) :
    (Failure.ofConfig cause).failureClass = .own .configuration ↔ cause.isRefusal = true := by
  cases cause with
  | noProjectTable fault => cases fault <;> simp [Failure.ofConfig, Failure.ofFault,
      Failure.ofMisuse, ConfigError.isRefusal]
  | untold fault => cases fault <;> simp [Failure.ofConfig, Failure.ofFault,
      Failure.ofMisuse, ConfigError.isRefusal]
  | notText => simp [Failure.ofConfig, Failure.undecodable, ConfigError.isRefusal]
  | loader misuse message => simp [Failure.ofConfig, Failure.ofMisuse, ConfigError.isRefusal]
  | _ => simp [Failure.ofConfig, Failure.own, ConfigError.isRefusal]

section Escapes

variable {α β : Type}

/-- An error escapes unless it is the refusal of a configuration. -/
theorem escapes_error_iff {cause : ConfigError} :
    Escapes (.error cause : Except ConfigError α) ↔ cause.isRefusal = false := by
  have iff := failureClass_ofConfig cause
  constructor
  · rintro ⟨_, same, other⟩
    obtain rfl := Except.error.inj same
    rw [Ne, iff, Bool.not_eq_true] at other
    exact other
  · intro notRefusal
    refine ⟨cause, rfl, ?_⟩
    rw [Ne, iff, notRefusal]
    exact Bool.false_ne_true

/-- A result does not escape. -/
theorem not_escapes_ok {value : α} : ¬Escapes (.ok value : Except ConfigError α) := by
  rintro ⟨_, same, -⟩
  cases same

/-- A step after another escapes if the first does, or the second does on its result. -/
theorem escapes_bind_iff {first : Except ConfigError α} {next : α → Except ConfigError β} :
    Escapes (first >>= next) ↔
      Escapes first ∨ ∃ value, first = .ok value ∧ Escapes (next value) := by
  cases first with
  | error cause =>
    change Escapes (.error cause) ↔ _
    simp [escapes_error_iff]
  | ok value =>
    change Escapes (next value) ↔ _
    simp [not_escapes_ok]

/-- A view of the result makes no difference to what escapes. -/
theorem escapes_map_iff {first : Except ConfigError α} (view : α → β) :
    Escapes (first.map view) ↔ Escapes first := by
  cases first with
  | error cause =>
    change Escapes (.error cause) ↔ _
    simp [escapes_error_iff]
  | ok value => exact iff_of_false not_escapes_ok not_escapes_ok

/-- Refused options are refusals. -/
theorem not_escapes_refused {built : Except OptionError α} {name : String} :
    ¬Escapes (built.mapError (ConfigError.refused name)) := by
  cases built with
  | error cause => simp [Except.mapError, escapes_error_iff, ConfigError.isRefusal]
  | ok value => exact not_escapes_ok

end Escapes

/-- The unknown keys of a table of options are not all texts. -/
def UntoldIn (config : Settings) (name : String) (accepted : List String) : Prop :=
  ∃ values, tableIn config name = .table values ∧ names? (unknownIn values accepted) = none

/-- What is unknown in a configuration has keys that are not all texts: among the tables, or in
the first table of options with unknown keys, if nothing before it is refused. -/
def Untold (config : Settings) : Prop :=
  names? (unknownIn config ["references", "toc"]) = none ∨
    unknownIn config ["references", "toc"] = [] ∧
      (UntoldIn config "references" (ReferenceOptions.fields.map (·.name)) ∨
        (∃ given references,
          sectionValues config "references" (ReferenceOptions.fields.map (·.name)) = .ok given ∧
            ReferenceOptions.update {} given = .ok references) ∧
          UntoldIn config "toc" (ContentsOptions.fields.map (·.name)))

/-- Reading a section escapes only if keys in it cannot be told. -/
theorem escapes_sectionValues_iff (config : Settings) (name : String) (accepted : List String) :
    Escapes (sectionValues config name accepted) ↔ UntoldIn config name accepted := by
  rw [sectionValues, UntoldIn]
  cases tableIn config name with
  | table values =>
    simp only [Setting.table.injEq, exists_eq_left']
    cases unknown : unknownIn values accepted with
    | nil => simp [not_escapes_ok, names?]
    | cons key keys =>
      simp only
      cases names? (key :: keys) with
      | none => simp [escapes_error_iff, ConfigError.isRefusal]
      | some names => simp [escapes_error_iff, ConfigError.isRefusal]
  | _ => simp [escapes_error_iff, ConfigError.isRefusal]

/-- What is refused under a name is accepted if it is without the name. -/
theorem mapError_refused_eq_ok {α : Type} {built : Except OptionError α} {name : String}
    {value : α} : built.mapError (ConfigError.refused name) = .ok value ↔ built = .ok value := by
  cases built <;> simp [Except.mapError]

/-- Making options fails otherwise than with a configuration error only if unknown keys cannot be
told. -/
theorem escapes_options_iff (config : Settings) : Escapes (options config) ↔ Untold config := by
  rw [options, Untold]
  cases unknown : unknownIn config ["references", "toc"] with
  | nil =>
    simp only [escapes_bind_iff, escapes_sectionValues_iff, not_escapes_refused,
      mapError_refused_eq_ok, pure, Except.pure, not_escapes_ok, names?, reduceCtorEq, false_or,
      and_false, exists_false, or_false, true_and]
    refine or_congr_right ⟨?_, ?_⟩
    · rintro ⟨given, values, references, built, untold⟩
      exact ⟨⟨given, references, values, built⟩, untold⟩
    · rintro ⟨⟨given, references, values, built⟩, untold⟩
      exact ⟨given, values, references, built, untold⟩
  | cons key keys =>
    simp only
    cases names? (key :: keys) with
    | none => simp [escapes_error_iff, ConfigError.isRefusal]
    | some names => simp [escapes_error_iff, ConfigError.isRefusal]

/-- Options that a configuration gives have passed their test. -/
theorem accepted_of_options {config : Settings} {built : ReferenceOptions × ContentsOptions}
    (given : options config = .ok built) : built.1.Accepted := by
  rw [options] at given
  split at given
  · obtain ⟨values, -, given⟩ := bind_eq_ok.1 given
    obtain ⟨references, updated, given⟩ := bind_eq_ok.1 given
    obtain ⟨others, -, given⟩ := bind_eq_ok.1 given
    obtain ⟨contents, -, given⟩ := bind_eq_ok.1 given
    obtain rfl := Except.ok.inj given
    exact ReferenceOptions.accepted_of_update (mapError_refused_eq_ok.1 updated)
  · split at given <;> cases given

/-- Keys that are all texts have names. -/
theorem names?_ne_none {keys : List Key} (texts : ∀ key ∈ keys, ∃ name, key = .text name) :
    names? keys ≠ none := by
  induction keys with
  | nil => simp [names?]
  | cons key rest hypothesis =>
    obtain ⟨⟨name, rfl⟩, others⟩ := List.forall_mem_cons.1 texts
    simpa [names?] using hypothesis others

/-- Keys that are texts can be told. -/
theorem names?_unknownIn {entries : Settings} (named : Setting.Named (.table entries))
    (accepted : List String) : names? (unknownIn entries accepted) ≠ none := by
  refine names?_ne_none fun key member => ?_
  obtain ⟨entry, inside, rfl⟩ := List.mem_map.1 (List.mem_filter.1 member).1
  exact (Setting.named_table.1 named entry inside).1

/-- A table inside one with texts for keys has texts for keys, too. -/
theorem named_tableIn {entries : Settings} (named : Setting.Named (.table entries))
    (name : String) : (tableIn entries name).Named := by
  rw [tableIn]
  cases found : entries.named? name with
  | none => exact Setting.named_table.2 (by simp)
  | some value => exact named.named? found

/-- Unknown keys that are texts can be told. -/
theorem not_untold {config : Settings} (named : Setting.Named (.table config)) :
    ¬Untold config := by
  have told (name : String) (accepted : List String) : ¬UntoldIn config name accepted := by
    rintro ⟨values, isTable, none⟩
    have inside := named_tableIn named name
    rw [isTable] at inside
    exact names?_unknownIn inside accepted none
  rintro (none | ⟨-, untold | ⟨-, untold⟩⟩)
  · exact names?_unknownIn named _ none
  · exact told _ _ untold
  · exact told _ _ untold

/-- The name of a file is one that can be loaded. -/
def Supported (path : FilePath) : Prop :=
  Text.lower path.name = projectName ∨ (Format.ofSuffix? (Text.lower path.suffix)).isSome = true

/-- The entry for tools of a project file is no table. -/
def HasNoTools (content : ByteArray) : Prop :=
  ∃ text document, String.fromUTF8? content = some text ∧ Toml.parse? text = some document ∧
    ∀ tools, tableIn document "tool" ≠ .table tools

/-- A project file is no text, or its entry for tools is no table. -/
def IsFaulty (content : ByteArray) : Prop :=
  String.fromUTF8? content = none ∨ HasNoTools content

variable {files : FileTree} {path : FilePath} {content : ByteArray} {loader : Yaml.Loader}

/-- A file that can be read has its content. -/
theorem contentOf_eq (read : files.read path = .ok content) :
    contentOf files path = .ok content := by
  rw [contentOf, read]
  rfl

/-- Loading a project file escapes exactly if its content is faulty. -/
theorem escapes_loadProject_iff (read : files.read path = .ok content) :
    Escapes (loadProject files path) ↔ IsFaulty content := by
  simp only [loadProject, contentOf_eq read, bind, Except.bind, IsFaulty, HasNoTools]
  cases String.fromUTF8? content with
  | none => simp [escapes_error_iff, ConfigError.isRefusal]
  | some text =>
    simp only [reduceCtorEq, false_or, Option.some.injEq, exists_and_left, exists_eq_left']
    cases Toml.parse? text with
    | none => simp [escapes_error_iff, ConfigError.isRefusal]
    | some document =>
      simp only [Option.some.injEq, exists_eq_left']
      cases tableIn document "tool" with
      | table tools =>
        refine iff_of_false ?_ fun none => none tools rfl
        simp only
        split <;> simp [escapes_error_iff, not_escapes_ok, ConfigError.isRefusal]
      | _ => simp [escapes_error_iff, ConfigError.isRefusal]

/-- A project file sets options under texts only. -/
theorem named_loadProject {config : Settings} (loaded : loadProject files path = .ok config) :
    Setting.Named (.table config) := by
  obtain ⟨bytes, -, loaded⟩ := bind_eq_ok.1 loaded
  split at loaded
  · cases loaded
  · split at loaded
    · cases loaded
    · rename_i document parsed
      split at loaded
      · rename_i tools isTools
        split at loaded
        · rename_i isConfig
          obtain rfl := Except.ok.inj loaded
          have named := named_tableIn (Toml.named_parse parsed) "tool"
          rw [isTools] at named
          have inside := named_tableIn named projectTable
          rwa [isConfig] at inside
        · cases loaded
      · cases loaded

/-- The loader fails on a text in a way of its own. -/
def Breaks (loader : Yaml.Loader) (content : ByteArray) : Prop :=
  ∃ text misuse message, Text.ofBytes? content = some text ∧ loader text = .failed misuse message

/-- A file is read otherwise than with a configuration error only if it is no text, or if it is in
YAML and the loader fails. -/
theorem escapes_read_iff (format : Format) (name : String) :
    Escapes (format.read name content loader) ↔
      String.fromUTF8? content = none ∨ format = .yaml ∧ Breaks loader content := by
  cases format with
  | toml =>
    rw [Format.read]
    cases String.fromUTF8? content with
    | none => simp [escapes_error_iff, ConfigError.isRefusal]
    | some text =>
      simp only
      split <;> simp [escapes_error_iff, not_escapes_ok, ConfigError.isRefusal]
  | yaml =>
    rw [Format.read, Breaks, Text.ofBytes?]
    cases String.fromUTF8? content with
    | none => simp [escapes_error_iff, ConfigError.isRefusal]
    | some text =>
      simp only [Option.map_some]
      split <;> rename_i loaded <;>
        simp [loaded, escapes_error_iff, not_escapes_ok, ConfigError.isRefusal]
  | json =>
    rw [Format.read, Text.ofBytes?]
    cases String.fromUTF8? content with
    | none => simp [escapes_error_iff, ConfigError.isRefusal]
    | some text =>
      simp only [Option.map_some]
      split <;> simp [escapes_error_iff, not_escapes_ok, ConfigError.isRefusal]

/-- TOML and JSON write only texts as keys. -/
theorem named_read {format : Format} (plain : format ≠ .yaml) {name : String} {value : Setting}
    (isValue : format.read name content loader = .ok value) : value.Named := by
  cases format with
  | yaml => exact absurd rfl plain
  | toml =>
    rw [Format.read] at isValue
    split at isValue
    · cases isValue
    · split at isValue
      · cases isValue
      · rename_i document parsed
        obtain rfl := Except.ok.inj isValue
        exact Toml.named_parse parsed
  | json =>
    rw [Format.read] at isValue
    split at isValue
    · cases isValue
    · split at isValue
      · cases isValue
      · obtain rfl := Except.ok.inj isValue
        exact Setting.named_ofJson _

/-- A YAML file is read as the value that the loader finds in its text. -/
theorem read_yaml_eq_ok {name : String} {value : Setting} :
    Format.yaml.read name content loader = .ok value ↔
      ∃ text, Text.ofBytes? content = some text ∧ loader text = .value value := by
  rw [Format.read]
  cases Text.ofBytes? content with
  | none => simp
  | some text => cases loaded : loader text <;> simp [loaded]

/-- The configuration that the value of a whole file is. -/
def ofValue (path : FilePath) : Setting → Except ConfigError (Settings × Bool)
  | .null => .ok ([], false)
  | .table config => .ok (config, true)
  | other => .error (.notATable path.text other.typeName)

/-- A value that is no table is refused, so nothing escapes there. -/
theorem not_escapes_ofValue (path : FilePath) (value : Setting) :
    ¬Escapes (ofValue path value) := by
  rw [ofValue.eq_def]
  split <;> simp [escapes_error_iff, not_escapes_ok, ConfigError.isRefusal]

/-- What can be read is a file. -/
theorem isFile_of_read (read : files.read path = .ok content) : files.isFile path = true := by
  rw [FileTree.read] at read
  rw [FileTree.isFile]
  split at read
  · cases read
  · rename_i location located
    rw [located]
    split at read
    · cases read
    · cases read
    · rename_i entry
      simp only [FileTree.isFileAt, entry]

/-- A project file is loaded as one, whatever its suffix. -/
theorem loadValue_project (read : files.read path = .ok content)
    (isProject : Text.lower path.name = projectName) :
    loadValue files path loader =
      (loadProject files path).map fun config => (config, false) := by
  rw [loadValue, isFile_of_read read, if_neg (by simp), if_pos (by simpa using isProject)]

/-- Any other file is read in the format of its suffix. -/
theorem loadValue_format (read : files.read path = .ok content)
    (other : Text.lower path.name ≠ projectName) {format : Format}
    (isFormat : Format.ofSuffix? (Text.lower path.suffix) = some format) :
    loadValue files path loader = format.read path.text content loader >>= ofValue path := by
  rw [loadValue, isFile_of_read read, if_neg (by simp), if_neg (by simpa using other)]
  simp only [isFormat, contentOf_eq read]
  change (format.read path.text content loader >>= fun value => _) = _
  congr 1

/-- The options that a file sets. -/
def loadOptions (files : FileTree) (path : FilePath) (loader : Yaml.Loader) :
    Except ConfigError (ReferenceOptions × ContentsOptions) := do
  let config ← (load files path loader).value
  options config

/-- A file in YAML sets unknown keys that cannot be told. -/
def SetsUntold (loader : Yaml.Loader) (content : ByteArray) : Prop :=
  ∃ text config, Text.ofBytes? content = some text ∧ loader text = .value (.table config) ∧
    Untold config

/-- The content of a file makes loading its options fail otherwise than with a configuration
error: it is no text, or it is a project file whose entry for tools is no table, or it is in YAML
and the loader fails in a way of its own or comes upon unknown keys that cannot be told. -/
def Slips (loader : Yaml.Loader) (path : FilePath) (content : ByteArray) : Prop :=
  String.fromUTF8? content = none ∨
    (Text.lower path.name = projectName ∧ HasNoTools content) ∨
      Text.lower path.name ≠ projectName ∧
        Format.ofSuffix? (Text.lower path.suffix) = some .yaml ∧
          (Breaks loader content ∨ SetsUntold loader content)

/-- The configuration that is loaded is the value that is read. -/
theorem value_load (files : FileTree) (path : FilePath) (loader : Yaml.Loader) :
    (load files path loader).value = (loadValue files path loader).map (·.1) := by
  rw [load]
  cases loadValue files path loader <;> rfl

/-- What a project file sets can be told. -/
theorem not_untold_project (read : files.read path = .ok content)
    (isProject : Text.lower path.name = projectName) {config : Settings}
    (loaded : (loadValue files path loader).map (·.1) = .ok config) : ¬Untold config := by
  rw [loadValue_project read isProject] at loaded
  cases found : loadProject files path with
  | error cause =>
    rw [found] at loaded
    cases loaded
  | ok settings =>
    rw [found] at loaded
    obtain rfl := Except.ok.inj loaded
    exact not_untold (named_loadProject found)

/-- What another file sets cannot be told only if it is a table in YAML. -/
theorem untold_format_iff (read : files.read path = .ok content)
    (other : Text.lower path.name ≠ projectName) {format : Format}
    (isFormat : Format.ofSuffix? (Text.lower path.suffix) = some format) :
    (∃ config, (loadValue files path loader).map (·.1) = .ok config ∧ Untold config) ↔
      format = .yaml ∧ SetsUntold loader content := by
  rw [loadValue_format read other isFormat]
  constructor
  · rintro ⟨config, loaded, untold⟩
    cases isValue : format.read path.text content loader with
    | error cause =>
      rw [isValue] at loaded
      cases loaded
    | ok value =>
      rw [isValue] at loaded
      change (ofValue path value).map (·.1) = _ at loaded
      rw [ofValue.eq_def] at loaded
      split at loaded
      · obtain rfl := Except.ok.inj loaded
        exact absurd untold (not_untold (Setting.named_table.2 (by simp)))
      · obtain rfl := Except.ok.inj loaded
        have isYaml : format = .yaml := by
          by_contra plain
          exact not_untold (named_read plain isValue) untold
        subst isYaml
        obtain ⟨text, isText, parsed⟩ := read_yaml_eq_ok.1 isValue
        exact ⟨rfl, text, _, isText, parsed, untold⟩
      · cases loaded
  · rintro ⟨rfl, text, config, isText, parsed, untold⟩
    refine ⟨config, ?_, untold⟩
    rw [read_yaml_eq_ok.2 ⟨text, isText, parsed⟩]
    rfl

/-- Loading the options of a file that is there fails otherwise than with a configuration error
exactly if its content slips through. -/
theorem escapes_loadOptions_iff (read : files.read path = .ok content)
    (supported : Supported path) :
    Escapes (loadOptions files path loader) ↔ Slips loader path content := by
  rw [loadOptions, value_load, escapes_bind_iff, escapes_map_iff, Slips]
  simp only [escapes_options_iff]
  by_cases isProject : Text.lower path.name = projectName
  · have told : ¬∃ config, (loadValue files path loader).map (·.1) = .ok config ∧ Untold config :=
      fun ⟨config, loaded, untold⟩ => not_untold_project read isProject loaded untold
    rw [or_iff_left told, loadValue_project read isProject, escapes_map_iff,
      escapes_loadProject_iff read, IsFaulty]
    simp [isProject]
  · obtain ⟨format, isFormat⟩ : ∃ format, Format.ofSuffix? (Text.lower path.suffix) = some format :=
      Option.isSome_iff_exists.1 (supported.resolve_left isProject)
    have unread : Escapes (loadValue files path loader) ↔
        String.fromUTF8? content = none ∨ format = .yaml ∧ Breaks loader content := by
      rw [loadValue_format read isProject isFormat, escapes_bind_iff, escapes_read_iff]
      simp [not_escapes_ofValue]
    rw [unread, untold_format_iff read isProject isFormat, isFormat]
    simp [isProject, or_assoc, and_or_left]

/-- A directory in which a search finds nothing and goes on. -/
def IsPassed (files : FileTree) (directory : Location) : Prop :=
  ownFile? files directory = none ∧ (projectFile? files directory).value = .ok none

/-- A directory in which a search comes upon a faulty project file. -/
def HasFaulty (files : FileTree) (directory : Location) : Prop :=
  ownFile? files directory = none ∧ files.isFileAt (directory ++ [projectName]) = true ∧
    ∃ content, files.read (pathOf files (directory ++ [projectName])) = .ok content ∧
      IsFaulty content

/-- A search through some directories comes upon a faulty project file before it finds
anything. -/
def MeetsFaulty (files : FileTree) : List Location → Prop
  | [] => False
  | directory :: rest =>
    HasFaulty files directory ∨ IsPassed files directory ∧ MeetsFaulty files rest

/-- Looking at a project file fails exactly if it is faulty. -/
theorem projectFile?_error_iff (files : FileTree) (directory : Location) :
    (∃ cause, (projectFile? files directory).value = .error cause) ↔
      files.isFileAt (directory ++ [projectName]) = true ∧
        ∃ content, files.read (pathOf files (directory ++ [projectName])) = .ok content ∧
          IsFaulty content := by
  have escapes (path : FilePath) : Escapes (loadProject files path) ↔
      ∃ content, files.read path = .ok content ∧ IsFaulty content := by
    cases read : files.read path with
    | error problem =>
      have unreadable : loadProject files path = .error (.unreadable path.text problem) := by
        rw [loadProject, contentOf, read]
        rfl
      rw [unreadable]
      simp [escapes_error_iff, ConfigError.isRefusal]
    | ok content => simp [escapes_loadProject_iff read]
  rw [← escapes, projectFile?]
  cases files.isFileAt (directory ++ [projectName]) with
  | false => simp
  | true =>
    simp only [Bool.not_true, Bool.false_eq_true, if_false, true_and]
    cases loadProject files (pathOf files (directory ++ [projectName])) with
    | ok config => simp [not_escapes_ok]
    | error cause =>
      rw [escapes_error_iff]
      cases refusal : cause.isRefusal <;> simp [refusal]

/-- A search fails exactly if it comes upon a faulty project file before it finds anything. -/
theorem searchIn_error_iff (files : FileTree) (directories : List Location) :
    (∃ cause, (searchIn files directories).value = .error cause) ↔
      MeetsFaulty files directories := by
  induction directories with
  | nil => simp [searchIn, MeetsFaulty]
  | cons directory rest hypothesis =>
    have faulty := projectFile?_error_iff files directory
    rw [searchIn, MeetsFaulty, HasFaulty, IsPassed, ← faulty]
    cases ownFile? files directory with
    | some found => simp
    | none =>
      simp only [true_and]
      cases project : (projectFile? files directory).value with
      | error cause => simp
      | ok candidate =>
        cases candidate with
        | some found => simp
        | none => simpa using hypothesis

/-- A search upwards fails exactly if it meets a faulty project file. -/
theorem findAbove_error_iff (files : FileTree) (start : Option FilePath) :
    (∃ cause, (findAbove files start).value = .error cause) ↔
      ∃ location, files.resolve? (start.getD ⟨false, []⟩) = some location ∧
        MeetsFaulty files (upwards location) := by
  rw [findAbove]
  cases files.resolve? (start.getD ⟨false, []⟩) with
  | none => simp
  | some location => simpa using searchIn_error_iff files (upwards location)

/-- What comes of configuration files of any content, and with any loader of YAML. Loading the
options of a file of a known name ends with options or with a configuration error, except that it
fails otherwise exactly if the content slips through: bytes that are no text, an entry for tools
that is no table, or YAML on which the loader fails in a way of its own or which has unknown keys
that are not all texts. A search for a file fails only over a project file that slips through in
one of the first two ways, and only if it has found nothing before. -/
theorem failures_of_configuration (loader : Yaml.Loader) (files : FileTree) :
    (∀ path content, files.read path = .ok content → Supported path →
      (Escapes (loadOptions files path loader) ↔ Slips loader path content)) ∧
    ∀ start, (∃ cause, (findAbove files start).value = .error cause) ↔
      ∃ location, files.resolve? (start.getD ⟨false, []⟩) = some location ∧
        MeetsFaulty files (upwards location) :=
  ⟨fun _ _ read supported => escapes_loadOptions_iff read supported, findAbove_error_iff files⟩

/-- A project file that sets a number where the table of tools belongs. -/
def numericTools : FileTree where
  root := ""
  entries := [([projectName], .file "tool = 3\n".toUTF8)]

/-- The project file in the working directory. -/
def projectPath : FilePath := ⟨false, [projectName]⟩

/-- A number in the place of the tools has no tables. -/
theorem hasNoTools_numeric : HasNoTools "tool = 3\n".toUTF8 := by
  have characters : Toml.joinLineEnds "tool = 3\n".toList =
      ['t', 'o', 'o', 'l', ' ', '=', ' ', '3', '\n'] := rfl
  have lines : Toml.readStatements 10 ['t', 'o', 'o', 'l', ' ', '=', ' ', '3', '\n'] =
      some [.entry ["tool"] (.int 3)] := rfl
  have parsed : Toml.parse? "tool = 3\n" = some [(.text "tool", .int 3)] := by
    rw [Toml.parse?, characters]
    change (Toml.readStatements 10 _ >>= _) = _
    rw [lines]
    rfl
  refine ⟨_, _, Text.fromUTF8?_toUTF8 _, parsed, fun tools => ?_⟩
  simp [tableIn, Settings.named?, Settings.get?]

/-- The project file has that number in it. -/
theorem read_numericTools : numericTools.read projectPath = .ok "tool = 3\n".toUTF8 := rfl

/-- The file has the name of a project file. -/
theorem lower_projectPath : Text.lower projectPath.name = projectName := rfl

/-- So it is supported. -/
theorem supported_projectPath : Supported projectPath := .inl lower_projectPath

/-- A search in the working directory comes upon the project file. -/
theorem hasFaulty_numericTools : HasFaulty numericTools [] := by
  have path : pathOf numericTools [projectName] = ⟨true, [projectName]⟩ := rfl
  refine ⟨rfl, rfl, "tool = 3\n".toUTF8, ?_, .inr hasNoTools_numeric⟩
  rw [List.nil_append, path]
  rfl

/-- Loading options from a number in the place of the tools escapes exactly if it slips. -/
theorem failures_of_numericTools :
    numericTools.read projectPath = .ok "tool = 3\n".toUTF8 ∧ Supported projectPath ∧
      (Escapes (loadOptions numericTools projectPath Yaml.load) ↔
        Slips Yaml.load projectPath "tool = 3\n".toUTF8) :=
  ⟨read_numericTools, supported_projectPath,
    (failures_of_configuration Yaml.load numericTools).1 projectPath "tool = 3\n".toUTF8
      read_numericTools supported_projectPath⟩

/-- Whatever the loader, it is not the case that configurations fail with configuration errors
only and that searches never fail: both happens with a number in place of the table of tools. -/
theorem not_only_configuration_errors :
    (∀ loader, ¬∀ files path content, files.read path = .ok content → Supported path →
      ¬Escapes (loadOptions files path loader)) ∧
    ¬∀ files start, ∃ found, (findAbove files start).value = .ok found := by
  refine ⟨fun loader only => ?_, fun always => ?_⟩
  · refine only numericTools projectPath _ read_numericTools supported_projectPath ?_
    rw [escapes_loadOptions_iff read_numericTools supported_projectPath]
    exact .inr (.inl ⟨lower_projectPath, hasNoTools_numeric⟩)
  · obtain ⟨found, ends⟩ := always numericTools none
    obtain ⟨cause, fails⟩ := (findAbove_error_iff numericTools none).2
      ⟨[], rfl, .inl hasFaulty_numericTools⟩
    rw [ends] at fails
    cases fails

end Folio.Config
