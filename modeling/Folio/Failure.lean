import Folio.Building.DocumentBuilder
import Folio.Config
import Folio.Contents
import Folio.Logging
import Folio.References
import Folio.Tree.Draft
import Folio.Tree.Validation

/-!
# Failures

Operations fail for reasons of their own; a failure is any of these reasons. The library has
a small hierarchy of error classes for its own reasons. Misuse, such as a value of the wrong
kind or out of range, belongs to general classes that the hierarchy does not name.
-/

namespace Folio

/-- The error classes of the library. -/
inductive ErrorClass where
  | general
  | validation
  | transform
  | missingReference
  | duplicateReference
  | serialization
  | configuration
  deriving DecidableEq, Repr, Inhabited

namespace ErrorClass

/-- The name of a class. -/
def name : ErrorClass → String
  | general => "DocModelError"
  | validation => "ValidationError"
  | transform => "TransformError"
  | missingReference => "MissingReferenceError"
  | duplicateReference => "DuplicateReferenceError"
  | serialization => "SerializationError"
  | configuration => "ConfigError"

/-- Every class. -/
def all : List ErrorClass :=
  [general, validation, transform, missingReference, duplicateReference, serialization,
    configuration]

/-- The class with a name. -/
def ofName? (name : String) : Option ErrorClass := all.find? fun entry => entry.name == name

/-- The class and those above it, nearest first. -/
def lineage : ErrorClass → List ErrorClass
  | general => [general]
  | missingReference => [missingReference, transform, general]
  | duplicateReference => [duplicateReference, transform, general]
  | other => [other, general]

/-- What an error of the class is made from. -/
def signature (errorClass : ErrorClass) : Signature :=
  let base : Signature := { name := errorClass.name ++ ".__init__()", receiver := true }
  match errorClass with
  | validation =>
    { base with required := ["message"], optional := ["path", "original_error"] }
  | configuration =>
    { base with required := ["message"], optional := ["config_path", "original_error"] }
  | missingReference => { base with required := ["title"] }
  | duplicateReference => { base with required := ["reference"] }
  | _ =>
    { base with
      name := general.name ++ ".__init__()"
      required := ["message"]
      optional := ["original_error"] }

end ErrorClass

/-- What a failure is counted as. -/
inductive FailureClass where
  | own (errorClass : ErrorClass)
  | misuse (misuse : Misuse)
  deriving DecidableEq, Repr, Inhabited

/-- A failure as it is reported: its class, its message if it has one, and the further
fields that its class carries. -/
structure Failure where
  failureClass : FailureClass
  message : Option String
  fields : Json.Members := []
  deriving Inhabited, Repr

namespace Failure

/-- A failure of one of the library's classes. -/
def own (errorClass : ErrorClass) (message : String) (fields : Json.Members := []) : Failure :=
  ⟨.own errorClass, some message, fields⟩

/-- A failure by misuse. -/
def ofMisuse (misuse : Misuse) (message : String) : Failure := ⟨.misuse misuse, some message, []⟩

/-- An unknown key. -/
def unknownKey (key : String) : Failure := ofMisuse .key key

/-- A fault as a failure. -/
def ofFault (fault : Fault) : Failure :=
  match fault with
  | .noMember _ _ => ofMisuse .member fault.message
  | _ => ofMisuse .type fault.message

/-- A call error as a failure. -/
def ofCall (cause : CallError) : Failure := ofMisuse .type cause.message

/-- A decoding error as a failure. -/
def ofDecode (cause : DecodeError) : Failure := own .serialization cause.message

/-- A document error as a failure. -/
def ofDocument (cause : DocumentError) : Failure := own .serialization cause.message

/-- A violation as a failure. -/
def ofViolation (violation : Violation) : Failure :=
  own .validation violation.message [("path", .str violation.path)]

/-- A refusal of options as a failure. -/
def ofOption (cause : OptionError) : Failure :=
  ofMisuse (if cause.isRange then .value else .type) cause.message

/-- A refused table of contents as a failure. -/
def ofContents (cause : Contents.ContentsError) : Failure :=
  match cause with
  | .missing title => own .missingReference cause.message [("title", .str title)]
  | .duplicate reference =>
    own .duplicateReference cause.message [("reference", .scalar reference)]

/-- An unknown level as a failure. -/
def ofLevel (cause : Logging.LevelError) : Failure := ofMisuse .value cause.message

/-- Bytes that are no text. -/
def undecodable : Failure := ⟨.misuse .undecodable, none, []⟩

/-- Characters that standard output or a file cannot take. -/
def unencodable : Failure := ⟨.misuse .value, none, []⟩

/-- A problem with a path as a failure. -/
def ofProblem (problem : FileProblem) (path : String) : Failure :=
  let misuse : Misuse := match problem with
    | .missing => .missingFile
    | .isDirectory => .directoryFile
    | .notDirectory => .fileInPath
  ofMisuse misuse (problem.message path)

/-- A configuration error as a failure, with the path of its file if it is about one. -/
def ofConfig (cause : Config.ConfigError) : Failure :=
  match cause with
  | .notText => undecodable
  | .noProjectTable fault | .untold fault => ofFault fault
  | .loader misuse message => ofMisuse misuse message
  | _ =>
    own .configuration cause.message [("config_path", (cause.path?.map Json.str).getD .null)]

/-- A build error as a failure. -/
def ofBuild (cause : Building.BuildError) : Failure :=
  match cause with
  | .unfit cause => ofCall cause
  | .fault cause => ofFault cause
  | .notEncoded cause => ofDecode cause
  | .notAPair _ => ofMisuse .type cause.message
  | .unknownFactory _ => ofMisuse .member cause.message
  | .tooFewInPair _ | .tooManyInPair | .levelTooSmall _ | .nothingOpen =>
    ofMisuse .value cause.message

/-- The failure of a class that is made from values by position: a validation error puts
its path, unless empty, before its message. -/
def make (errorClass : ErrorClass) (arguments : List Json) : Except Failure Failure :=
  match errorClass.signature.bind arguments [] with
  | .error cause => .error (ofCall cause)
  | .ok bound =>
    let given (name : String) : Json := (bound.get? name).getD .null
    let plain (value : Json) : String := (Setting.ofJson value).plain
    let message := plain (given "message")
    .ok <| match errorClass with
      | .validation =>
        let path := given "path"
        let before := if (Setting.ofJson path).isSet then plain path ++ ": " else ""
        own errorClass (before ++ message) [("path", path)]
      | .configuration => own errorClass message [("config_path", given "config_path")]
      | .missingReference =>
        let title := given "title"
        own errorClass (Contents.ContentsError.missing (plain title)).message
          [("title", title)]
      | .duplicateReference =>
        let reference := given "reference"
        own errorClass (Contents.ContentsError.duplicate (.text (plain reference))).message
          [("reference", reference)]
      | _ => own errorClass message

end Failure

end Folio
