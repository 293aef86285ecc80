import Folio.Json.Parser
import Folio.Signature
import Folio.Timestamp.Parser
import Folio.Tree.Encoding

/-!
# Decoding trees

An object is decoded into a node if its tag is known, all its other members are fields of
that kind and each of them holds what the field declares. Fields that are left out are
empty; only the two parts of a definition cannot be left out.
-/

namespace Folio

/-- Why a value is no encoded tree. -/
inductive DecodeError where
  | notAnObject (found : String)
  | unknownKind (tag : Json)
  | unknownFields (kind : Kind) (names : List String)
  | notNodes (kind : Kind) (field found : String)
  | notOneNode (kind : Kind) (field found : String)
  | notMetadata (kind : Kind) (field found : String)
  | notText (kind : Kind) (field found : String)
  | notWords (kind : Kind) (field : String)
  | notAMoment (value : Json)
  | incomplete (kind : Kind) (cause : CallError)
  deriving Inhabited, Repr

/-- The wording of a decoding error. -/
def DecodeError.message : DecodeError → String
  | notAnObject found => s!"Expected a dict, got {found}"
  | unknownKind tag => "Unknown node type: " ++ tag.display
  | unknownFields kind names =>
    s!"Unknown fields for {kind.name}: " ++ ", ".intercalate names
  | notNodes kind field found => s!"{kind.name}.{field} must be a list of nodes, got {found}"
  | notOneNode kind field found => s!"{kind.name}.{field} must be a single node, got {found}"
  | notMetadata kind field found => s!"{kind.name}.{field} must be an object, got {found}"
  | notText kind field found => s!"{kind.name}.{field} must be a string, got {found}"
  | notWords kind field => s!"{kind.name}.{field} must be a list of strings"
  | notAMoment value => "Invalid timestamp: " ++ value.display
  | incomplete kind cause => s!"Cannot build {kind.name}: " ++ cause.message

/-- What a field was decoded to. -/
inductive Content where
  | attr (value : Attribute)
  | metadata (members : Json.Members)
  | slot (content : Slot Tree)
  deriving Inhabited, Repr

namespace Content

/-- The attribute in a field. -/
def attribute? : Content → Option Attribute
  | attr value => some value
  | _ => none

/-- The metadata in a field. -/
def metadata? : Content → Option Json.Members
  | metadata members => some members
  | _ => none

/-- The slot in a field. -/
def slot? : Content → Option (Slot Tree)
  | slot content => some content
  | _ => none

end Content

namespace Kind

/-- The fields of a kind that cannot be left out. -/
def requiredFields : Kind → List String
  | definition => ["term", "definition"]
  | _ => []

/-- What stands in a slot that is left out. -/
def defaultSlot (field : Field) : Slot Tree :=
  match field.type with
  | .one (.of .image) => .one (.node (.image "" "") [] [])
  | .one _ => .one (Tree.ofText "")
  | _ => .many []

/-- The node of a kind with the given contents under their field names and all other fields
empty. -/
def assemble (kind : Kind) (contents : List (String × Content)) : Tree :=
  let content? (name : String) : Option Content :=
    (contents.find? fun entry => entry.1 == name).map (·.2)
  .node (Head.build kind fun name => (content? name).bind Content.attribute?)
    (((content? Field.metadata.name).bind Content.metadata?).getD [])
    (kind.slots.map fun field =>
      ((content? field.name).bind Content.slot?).getD (defaultSlot field))

/-- How a node of the kind is built from its fields. -/
def signature (kind : Kind) : Signature where
  name := kind.name ++ ".__init__()"
  receiver := true
  required := kind.requiredFields
  optional := (kind.fields.map (·.name)).filter fun name => !kind.requiredFields.contains name

/-- The node of a kind from the contents of its fields, if none that is required lacks. -/
def assemble? (kind : Kind) (contents : List (String × Content)) : Except DecodeError Tree :=
  match kind.signature.bind [] contents with
  | .ok bound => .ok (kind.assemble bound.values)
  | .error cause => .error (.incomplete kind cause)

end Kind

namespace Tree

/-- The texts in a list that holds texts only. -/
def texts? : List Json → Option (List String)
  | [] => some []
  | .str text :: rest => (texts? rest).map (text :: ·)
  | _ => none

/-- The content of a field that holds no nodes. -/
def decodeAttribute (kind : Kind) (field : Field) (value : Json) :
    Except DecodeError Content :=
  match field.type, value with
  | .metadata, .obj members => .ok (.metadata members)
  | .metadata, other => .error (.notMetadata kind field.name other.typeName)
  | .moment, .null => .ok (.attr (.moment none))
  | .moment, .str text =>
    match Timestamp.parse? text with
    | some time => .ok (.attr (.moment (some time)))
    | none => .error (.notAMoment (.str text))
  | .moment, other => .error (.notAMoment other)
  | .words, .arr items =>
    match texts? items with
    | some words => .ok (.attr (.words words))
    | none => .error (.notWords kind field.name)
  | .words, _ => .error (.notWords kind field.name)
  | _, .str text => .ok (.attr (.text text))
  | _, other => .error (.notText kind field.name other.typeName)

/-- The kind of an encoded node, if its tag is known and all its members are fields. -/
def decodeKind (members : Json.Members) : Except DecodeError Kind :=
  let tag := (members.get? tagField).getD .null
  match tag with
  | .str text =>
    match Kind.ofTag? text with
    | none => .error (.unknownKind tag)
    | some kind =>
      let unknown := (members.map (·.1)).filter fun name =>
        name != tagField && (kind.field? name).isNone
      if unknown.isEmpty then .ok kind
      else .error (.unknownFields kind (unknown.mergeSort fun first second => first ≤ second))
  | _ => .error (.unknownKind tag)

mutual

/-- The tree that a value encodes. -/
def decode : Json → Except DecodeError Tree
  | .obj members => do
    let kind ← decodeKind members
    let contents ← decodeFields kind members
    kind.assemble? contents
  | other => .error (.notAnObject other.typeName)

/-- The contents of the fields of an encoded node. -/
def decodeFields (kind : Kind) :
    List (String × Json) → Except DecodeError (List (String × Content))
  | [] => .ok []
  | (name, value) :: rest =>
    match kind.field? name with
    | none => decodeFields kind rest
    | some field => do
      let content ← match field.type, value with
        | .many _, .arr items => do
          let trees ← decodeAll items
          pure (.slot (.many trees))
        | .many _, other => .error (.notNodes kind name other.typeName)
        | .one _, .obj members => do
          let tree ← decode (.obj members)
          pure (.slot (.one tree))
        | .one _, other => .error (.notOneNode kind name other.typeName)
        | _, other => decodeAttribute kind field other
      let others ← decodeFields kind rest
      pure ((name, content) :: others)

/-- The trees that the items of a list encode. -/
def decodeAll : List Json → Except DecodeError (List Tree)
  | [] => .ok []
  | value :: rest => do
    let tree ← decode value
    let others ← decodeAll rest
    pure (tree :: others)

end

end Tree

/-- Why a text is no encoded document. -/
inductive DocumentError where
  | notJson (cause : Json.ParseError)
  | notATree (cause : DecodeError)
  | otherRoot (kind : Kind)
  deriving Inhabited, Repr

/-- The wording of a document error. -/
def DocumentError.message : DocumentError → String
  | notJson cause => "Invalid JSON: " ++ cause.message
  | notATree cause => cause.message
  | otherRoot kind => "Root must be a document, got " ++ kind.tag

/-- The document that a text encodes. -/
def Tree.ofJsonText (text : String) : Except DocumentError Tree :=
  match Json.parse text with
  | .error cause => .error (.notJson cause)
  | .ok value =>
    match Tree.decode value with
    | .error cause => .error (.notATree cause)
    | .ok tree =>
      match tree.kind? with
      | some .document => .ok tree
      | some kind => .error (.otherRoot kind)
      | none => .ok tree

end Folio
