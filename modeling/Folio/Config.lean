import Folio.FileTree
import Folio.Json.Parser
import Folio.Log
import Folio.Options
import Folio.Text.LowerCase
import Folio.Toml.Document
import Folio.Yaml.Loader

/-!
# Configuration

Options come from a configuration file: one of its own, in one of three formats, or a table
of a project file. The nearest file counts that is found on the way from the working
directory up to the root, or else one in the home directory. YAML is read by a loader from
elsewhere.
-/

namespace Folio.Config

/-- Why there is no configuration. Errors of the formats are told in general, except for
JSON; the last four come from files whose content is no text or not laid out as a project
file is, from keys that cannot be told, and from a loader that fails in a way of its own. -/
inductive ConfigError where
  | notFound (path : String)
  | unsupported (path suffix : String)
  | malformed (path : String) (detail : String)
  | malformedProject (path : String)
  | unreadable (path : String) (problem : FileProblem)
  | notATable (path found : String)
  | projectNotATable (path found : String)
  | unknownSections (names : List String)
  | sectionNotATable (name found : String)
  | unknownKeys (name : String) (keys accepted : List String)
  | refused (name : String) (cause : OptionError)
  | notText
  | noProjectTable (cause : Fault)
  | untold (cause : Fault)
  | loader (misuse : Misuse) (message : String)
  deriving Inhabited, Repr

namespace ConfigError

/-- Names in order, separated by commas. -/
def sorted (names : List String) : String :=
  ", ".intercalate (names.mergeSort fun first second => first ≤ second)

/-- The wording of an error. -/
def message : ConfigError → String
  | notFound path => s!"Configuration file does not exist: {path}"
  | unsupported _ suffix =>
    s!"Unsupported config file format: {suffix}. Use .json, .toml, or .yaml"
  | malformed path detail => s!"Invalid config file {path}: {detail}"
  | malformedProject path => s!"Invalid TOML in {path}: "
  | unreadable path problem => s!"Error reading config file {path}: " ++ problem.message path
  | notATable _ found => s!"Config file must contain a mapping at root level, got {found}"
  | projectNotATable path found =>
    s!"[tool.docmodel] section in {path} must be a table, got {found}"
  | unknownSections names => "Unknown configuration sections: " ++ sorted names
  | sectionNotATable name found => s!"[{name}] must be a table, got {found}"
  | unknownKeys name keys accepted =>
    s!"Unknown keys in [{name}]: " ++ sorted keys ++ " (accepted: " ++ sorted accepted ++ ")"
  | refused name cause => s!"Invalid [{name}] configuration: " ++ cause.message
  | notText => "not a text"
  | noProjectTable cause => cause.message
  | untold cause => cause.message
  | loader _ message => message

/-- The path of the file that an error is about. -/
def path? : ConfigError → Option String
  | notFound path | unsupported path _ | malformed path _ | malformedProject path
  | unreadable path _ | notATable path _ | projectNotATable path _ => some path
  | _ => none

/-- The error is a refusal by the library, so that a search may go on and a command reports
it; the others end everything. -/
def isRefusal : ConfigError → Bool
  | notText | noProjectTable _ | untold _ | loader _ _ => false
  | _ => true

end ConfigError

/-- The names of configuration files in a directory, the first one first. -/
def fileNames : List String :=
  [".docmodel.toml", ".docmodel.yaml", ".docmodel.yml", ".docmodel.json"]

/-- The name of a project file. -/
def projectName : String := "pyproject.toml"

/-- The table of a project file that holds the configuration. -/
def projectTable : String := "docmodel"

/-- The name under which configuration is reported. -/
def source : String := LogRecord.part "config"

/-- The content of a file, which is known to be one. -/
def contentOf (files : FileTree) (path : FilePath) : Except ConfigError ByteArray :=
  (files.read path).mapError (.unreadable path.text)

/-- The value under a name in a table, the empty table if there is none. -/
def tableIn (entries : Settings) (name : String) : Setting :=
  (entries.named? name).getD (.table [])

/-- The configuration in a project file, empty if it has none. -/
def loadProject (files : FileTree) (path : FilePath) : Except ConfigError Settings := do
  let content ← contentOf files path
  match String.fromUTF8? content with
  | none => .error .notText
  | some text =>
    match Toml.parse? text with
    | none => .error (.malformedProject path.text)
    | some document =>
      match tableIn document "tool" with
      | .table tools =>
        match tableIn tools projectTable with
        | .table config => .ok config
        | other => .error (.projectNotATable path.text other.typeName)
      | other => .error (.noProjectTable (.noMember other.faultName "get"))

/-- The formats of configuration files. -/
inductive Format where
  | toml
  | yaml
  | json
  deriving DecidableEq, Repr

/-- The format of files with an ending in lower case. -/
def Format.ofSuffix? (suffix : String) : Option Format :=
  if suffix == ".toml" then some toml
  else if suffix == ".yaml" || suffix == ".yml" then some yaml
  else if suffix == ".json" then some json
  else none

/-- The value that a file in a format writes. -/
def Format.read (format : Format) (path : String) (content : ByteArray)
    (loader : Yaml.Loader := Yaml.load) : Except ConfigError Setting :=
  match format with
  | toml =>
    match String.fromUTF8? content with
    | none => .error .notText
    | some text =>
      match Toml.parse? text with
      | none => .error (.malformed path "")
      | some document => .ok (.table document)
  | yaml =>
    match Text.ofBytes? content with
    | none => .error .notText
    | some text =>
      match loader text with
      | .value value => .ok value
      | .malformed => .error (.malformed path "")
      | .failed misuse message => .error (.loader misuse message)
  | json =>
    match Text.ofBytes? content with
    | none => .error .notText
    | some text =>
      match Json.parse text with
      | .error cause => .error (.malformed path cause.message)
      | .ok value => .ok (Setting.ofJson value)

/-- A configuration, and whether its file is reported as loaded. -/
def loadValue (files : FileTree) (path : FilePath) (loader : Yaml.Loader := Yaml.load) :
    Except ConfigError (Settings × Bool) :=
  if !files.isFile path then .error (.notFound path.text)
  else if Text.lower path.name == projectName then
    (loadProject files path).map fun config => (config, false)
  else
    let suffix := Text.lower path.suffix
    match Format.ofSuffix? suffix with
    | none => .error (.unsupported path.text suffix)
    | some format => do
      let content ← contentOf files path
      let value ← format.read path.text content loader
      match value with
      | .null => .ok ([], false)
      | .table config => .ok (config, true)
      | other => .error (.notATable path.text other.typeName)

/-- The configuration in a file. -/
def load (files : FileTree) (path : FilePath) (loader : Yaml.Loader := Yaml.load) :
    Reported (Except ConfigError Settings) :=
  match loadValue files path loader with
  | .error cause => ⟨.error cause, []⟩
  | .ok (config, reported) =>
    let record : LogRecord :=
      ⟨Level.debug, source, "Loaded configuration from " ++ path.text⟩
    ⟨.ok config, if reported then [record] else []⟩

/-- The path of a location from the root on. -/
def pathOf (files : FileTree) (location : Location) : FilePath :=
  FilePath.ofText (files.locationText location)

/-- The first of the configuration files in a directory. -/
def ownFile? (files : FileTree) (directory : Location) : Option Location :=
  (fileNames.map fun name => directory ++ [name]).find? files.isFileAt

/-- The outcome of looking at a project file: it holds a configuration, or it is passed over,
perhaps with a record. -/
def projectFile? (files : FileTree) (directory : Location) :
    Reported (Except ConfigError (Option Location)) :=
  let location := directory ++ [projectName]
  if !files.isFileAt location then ⟨.ok none, []⟩
  else
    match loadProject files (pathOf files location) with
    | .ok config => ⟨.ok (if config.isEmpty then none else some location), []⟩
    | .error cause =>
      if cause.isRefusal then
        let message :=
          s!"Skipping unreadable {files.locationText location}: " ++ cause.message
        ⟨.ok none, [⟨Level.debug, source, message⟩]⟩
      else ⟨.error cause, []⟩

/-- The first candidate in some directories, the nearest first: one of the configuration
files, or else a project file with a configuration. -/
def searchIn (files : FileTree) :
    List Location → Reported (Except ConfigError (Option Location))
  | [] => ⟨.ok none, []⟩
  | directory :: rest =>
    match ownFile? files directory with
    | some found => ⟨.ok (some found), []⟩
    | none =>
      let project := projectFile? files directory
      match project.value with
      | .error cause => ⟨.error cause, project.records⟩
      | .ok (some found) => ⟨.ok (some found), project.records⟩
      | .ok none =>
        let later := searchIn files rest
        ⟨later.value, project.records ++ later.records⟩

/-- A location and those above it, the nearest first. -/
def upwards (location : Location) : List Location :=
  ((List.range (location.length + 1)).map fun count => location.take count).reverse

/-- The candidate nearest to a directory, on the way from it to the root. -/
def findAbove (files : FileTree) (start : Option FilePath) :
    Reported (Except ConfigError (Option Location)) :=
  match files.resolve? (start.getD ⟨false, []⟩) with
  | none => ⟨.ok none, []⟩
  | some location => searchIn files (upwards location)

/-- The candidate nearest to a directory, or else a configuration file in the home
directory. -/
def discover (files : FileTree) (start : Option FilePath) :
    Reported (Except ConfigError (Option Location)) :=
  let found := findAbove files start
  match found.value with
  | .ok none => ⟨.ok (ownFile? files files.home), found.records⟩
  | _ => found

/-- The configuration from the file named explicitly, or else from the one that the
environment names, or else from the one that is discovered; without any it is empty. -/
def loadFirst (files : FileTree) (explicit environment : String)
    (loader : Yaml.Loader := Yaml.load) : Reported (Except ConfigError Settings) :=
  if explicit != "" then load files (FilePath.ofText explicit) loader
  else if environment != "" then load files (FilePath.ofText environment) loader
  else
    let found := discover files none
    match found.value with
    | .error cause => ⟨.error cause, found.records⟩
    | .ok none => ⟨.ok [], found.records⟩
    | .ok (some location) =>
      let loaded := load files (pathOf files location) loader
      ⟨loaded.value, found.records ++ loaded.records⟩

/-- The names among keys that are all texts. -/
def names? : List Key → Option (List String)
  | [] => some []
  | .text name :: rest => (names? rest).map (name :: ·)
  | _ => none

/-- The fault of telling keys that are not all texts: they cannot be put in order, or not be
joined. Numbers can be put in order, and so can foreign values of one kind. -/
def untold (keys : List Key) : Fault :=
  let isText (key : Key) : Bool := match key with
    | .text _ => true
    | _ => false
  let isNumber (key : Key) : Bool := match key with
    | .scalar value => (value.atLeast? value).isSome || value.typeName == "float"
    | .foreign _ => false
  let isOf (kind : String) (key : Key) : Bool := match key with
    | .scalar _ => false
    | .foreign value => value.faultName == kind
  let smallest (first second : Key) : Key := match first, second with
    | .scalar left, .scalar right => if (right.atLeast? left).getD false then first else second
    | _, _ => first
  match keys with
  | [] => .notText 0 "NoneType"
  | first :: rest =>
    if rest.isEmpty || keys.all isNumber || keys.all (isOf first.faultName) then
      .notText 0 (rest.foldl smallest first).faultName
    else
      match keys.find? isText, keys.find? fun key => !isText key with
      | some text, some other => .notOrdered text.faultName other.faultName
      | _, _ => .notOrdered first.faultName ((rest.head?.map Key.faultName).getD "")

/-- The keys of a table that are none of the accepted names. -/
def unknownIn (entries : Settings) (accepted : List String) : List Key :=
  (entries.map (·.1)).filter fun key => !accepted.any fun name => key.same (.text name)

/-- The entries of a table of options, by name. -/
def sectionValues (config : Settings) (name : String) (accepted : List String) :
    Except ConfigError (List (String × Setting)) :=
  match tableIn config name with
  | .table values =>
    match unknownIn values accepted with
    | [] =>
      .ok (accepted.filterMap fun key => (Settings.named? values key).map fun value =>
        (key, value))
    | unknown =>
      match names? unknown with
      | some keys => .error (.unknownKeys name keys accepted)
      | none => .error (.untold (untold unknown))
  | other => .error (.sectionNotATable name other.typeName)

/-- The options that a configuration sets, over the defaults. -/
def options (config : Settings) : Except ConfigError (ReferenceOptions × ContentsOptions) :=
  match unknownIn config ["references", "toc"] with
  | [] => do
    let given ← sectionValues config "references" (ReferenceOptions.fields.map (·.name))
    let references ← (ReferenceOptions.update {} given).mapError (.refused "references")
    let given ← sectionValues config "toc" (ContentsOptions.fields.map (·.name))
    let contents ← (ContentsOptions.update {} given).mapError (.refused "toc")
    pure (references, contents)
  | unknown =>
    match names? unknown with
    | some names => .error (.unknownSections names)
    | none => .error (.untold (untold unknown))

end Folio.Config
