import Folio.Text.Quoted

/-!
# Files

A file tree is a finite set of files and directories below one root directory. Paths are
written as text; they are taken apart into names, and an absolute path begins with the name
of the root. Reading follows a path from directory to directory, as the names say.
-/

namespace Folio

/-- A path as it is written: from the root or from the working directory, name by name. The
name `..` leads one directory up. -/
structure FilePath where
  absolute : Bool
  names : List String
  deriving DecidableEq, Repr, Inhabited

namespace FilePath

/-- A text cut at its slashes. -/
def splitSlashes : List Char → List (List Char)
  | [] => [[]]
  | '/' :: rest => [] :: splitSlashes rest
  | character :: rest =>
    match splitSlashes rest with
    | part :: others => (character :: part) :: others
    | [] => [[character]]

/-- The path that a text writes; empty names and `.` do not count. -/
def ofText (text : String) : FilePath where
  absolute := text.toList.head? == some '/'
  names := ((splitSlashes text.toList).map String.ofList).filter fun name =>
    name != "" && name != "."

/-- The path as text. -/
def text (path : FilePath) : String :=
  let shown := "/".intercalate path.names
  if path.absolute then "/" ++ shown else if path.names.isEmpty then "." else shown

/-- The last name of a path. -/
def name (path : FilePath) : String := path.names.getLast?.getD ""

/-- The ending of a name: the part from its last dot on, unless this is the first or the
last character. -/
def suffixOf (name : List Char) : List Char :=
  let ending := (name.reverse.takeWhile (· != '.')).reverse
  let before := name.length - ending.length
  if ending.isEmpty || before ≤ 1 then [] else '.' :: ending

/-- The ending of the last name. -/
def suffix (path : FilePath) : String := String.ofList (suffixOf path.name.toList)

end FilePath

/-- What stands at a place in a file tree. -/
inductive FileEntry where
  | file (content : ByteArray)
  | directory
  deriving Inhabited

/-- The names that lead from the root to a place. -/
abbrev Location := List String

/-- Why a path leads to nothing that can be used. -/
inductive FileProblem where
  | missing
  | isDirectory
  | notDirectory
  deriving DecidableEq, Repr, Inhabited

/-- The wording of a problem with the path as it was written. -/
def FileProblem.message (problem : FileProblem) (path : String) : String :=
  (match problem with
    | missing => "[Errno 2] No such file or directory: "
    | isDirectory => "[Errno 21] Is a directory: "
    | notDirectory => "[Errno 20] Not a directory: ") ++ Text.quote path

/-- A file tree: how the root is called, what lies below it, the working directory and the
home directory. -/
structure FileTree where
  root : String
  entries : List (Location × FileEntry)
  working : Location := []
  home : Location := []
  deriving Inhabited

namespace FileTree

/-- What stands at a location; directories that lead to an entry exist without one of their
own. -/
def entry? (files : FileTree) (location : Location) : Option FileEntry :=
  match files.entries.find? fun entry => entry.1 == location with
  | some (_, entry) => some entry
  | none =>
    if location.isEmpty || files.entries.any fun entry => location.isPrefixOf entry.1 then
      some .directory
    else none

/-- The text of an absolute path. -/
def locationText (files : FileTree) (location : Location) : String :=
  files.root ++ String.join (location.map fun name => "/" ++ name)

/-- One name further. Only directories lead further; up from the root there is nothing. -/
def descend (files : FileTree) (location : Location) (name : String) :
    Except FileProblem Location :=
  match files.entry? location with
  | none => .error .missing
  | some (.file _) => .error .notDirectory
  | some .directory =>
    if name == ".." then
      if location.isEmpty then .error .missing else .ok location.dropLast
    else .ok (location ++ [name])

/-- The location that names lead to. -/
def follow (files : FileTree) : Location → List String → Except FileProblem Location
  | location, [] => .ok location
  | location, name :: rest =>
    match files.descend location name with
    | .error problem => .error problem
    | .ok next => files.follow next rest

/-- The names of a path from the root on, if it begins with the name of the root; a root
without a name begins every absolute path. -/
def belowRoot? (files : FileTree) (path : FilePath) : Option (List String) :=
  let root := (FilePath.ofText files.root).names
  if root.isPrefixOf path.names && (path.absolute || !root.isEmpty) then
    some (path.names.drop root.length)
  else none

/-- The location that a path leads to. -/
def locate (files : FileTree) (path : FilePath) : Except FileProblem Location :=
  match files.belowRoot? path with
  | some names => files.follow [] names
  | none => if path.absolute then .error .missing else files.follow files.working path.names

/-- The location that a path means by its names alone, whatever exists. -/
def resolve? (files : FileTree) (path : FilePath) : Option Location :=
  let step (location : Option Location) (name : String) : Option Location :=
    match location with
    | none => none
    | some location =>
      if name == ".." then if location.isEmpty then none else some location.dropLast
      else some (location ++ [name])
  match files.belowRoot? path with
  | some names => names.foldl step (some [])
  | none => if path.absolute then none else path.names.foldl step (some files.working)

/-- A file stands at a location. -/
def isFileAt (files : FileTree) (location : Location) : Bool :=
  match files.entry? location with
  | some (.file _) => true
  | _ => false

/-- A path leads to a file. -/
def isFile (files : FileTree) (path : FilePath) : Bool :=
  match files.locate path with
  | .ok location => files.isFileAt location
  | .error _ => false

/-- The content of the file at a path. -/
def read (files : FileTree) (path : FilePath) : Except FileProblem ByteArray :=
  match files.locate path with
  | .error problem => .error problem
  | .ok location =>
    match files.entry? location with
    | none => .error .missing
    | some .directory => .error .isDirectory
    | some (.file content) => .ok content

/-- Put a file at a location. -/
def put (location : Location) (content : ByteArray) (files : FileTree) : FileTree :=
  let others := files.entries.filter fun entry => entry.1 != location
  { files with entries := others ++ [(location, .file content)] }

/-- The location at which a path lets a file be written: one in a directory, where no
directory stands. -/
def writable (files : FileTree) (path : FilePath) : Except FileProblem Location :=
  match files.locate path with
  | .error problem => .error problem
  | .ok location =>
    match files.entry? location with
    | some .directory => .error .isDirectory
    | some (.file _) => .ok location
    | none =>
      match files.entry? location.dropLast with
      | some .directory => .ok location
      | some (.file _) => .error .notDirectory
      | none => .error .missing

/-- Write a text to a file in place of what it held. -/
def write (path : FilePath) (text : String) (files : FileTree) : Except FileProblem FileTree :=
  (files.writable path).map fun location => files.put location text.toUTF8

/-- Write a text at the end of a file, which is made if there is none. -/
def append (path : FilePath) (text : String) (files : FileTree) :
    Except FileProblem FileTree :=
  (files.writable path).map fun location =>
    let before := match files.entry? location with
      | some (.file content) => content
      | _ => ByteArray.empty
    files.put location (before ++ text.toUTF8)

end FileTree

namespace Text

/-- Every line end as a single line feed. -/
def unifyLineEnds : List Char → List Char
  | '\r' :: '\n' :: rest => '\n' :: unifyLineEnds rest
  | '\r' :: rest => '\n' :: unifyLineEnds rest
  | character :: rest => character :: unifyLineEnds rest
  | [] => []

/-- The text in a file, with unified line ends; `none` for bytes that are no text. -/
def ofBytes? (content : ByteArray) : Option String :=
  (String.fromUTF8? content).map fun text => String.ofList (unifyLineEnds text.toList)

end Text

end Folio
