import Folio.Fault
import Folio.Json.Printer
import Folio.Tree

/-!
# Encoded trees

A node is encoded as an object: its tag under `node_type`, then its fields in the order of
declaration. Metadata appear only if there are any. Nodes inside are encoded in turn.
-/

namespace Folio

/-- The encoded value of an attribute. -/
def Attribute.encode : Attribute → Json
  | scalar value => .scalar value
  | words values => .arr (values.map .str)
  | moment none => .null
  | moment (some time) => .str time.text

namespace Tree

/-- The name under which an encoded node has its tag. -/
def tagField : String := "node_type"

/-- The members of an encoded node, from the contents of its slots in the order of a visit. -/
def encodeMembers (head : Head) (metadata : Json.Members) (contents : List Json) :
    Json.Members :=
  (tagField, .str head.kind.tag) :: head.kind.fields.filterMap fun field =>
    if field.type.isStructural then
      ((head.kind.slots.zip contents).find? fun entry => entry.1.name == field.name).map
        fun entry => (field.name, entry.2)
    else if field.type == .metadata then
      if metadata.isEmpty then none else some (field.name, .obj metadata)
    else (head.attribute? field.name).map fun attr => (field.name, attr.encode)

mutual

/-- The encoded form of a tree; a stray value stands for itself. -/
def encode : Tree → Json
  | .node head metadata slots => .obj (encodeMembers head metadata (encodeSlots slots))
  | .stray value => value

/-- The encoded contents of slots. -/
def encodeSlots : List (Slot Tree) → List Json
  | [] => []
  | .one tree :: rest => encode tree :: encodeSlots rest
  | .many trees :: rest => .arr (encodeAll trees) :: encodeSlots rest

/-- The encoded forms of several trees. -/
def encodeAll : List Tree → List Json
  | [] => []
  | tree :: rest => encode tree :: encodeAll rest

end

mutual

/-- The stray values of a tree, in the order of its encoded form. -/
def strays : Tree → List Json
  | .node head _ slots =>
    let found := head.kind.slots.zip (straysSlots slots)
    head.kind.fields.flatMap fun field =>
      ((found.find? fun entry => entry.1.name == field.name).map (·.2)).getD []
  | .stray value => [value]

/-- The stray values of each slot. -/
def straysSlots : List (Slot Tree) → List (List Json)
  | [] => []
  | .one tree :: rest => strays tree :: straysSlots rest
  | .many trees :: rest => straysAll trees :: straysSlots rest

/-- The stray values of several trees. -/
def straysAll : List Tree → List Json
  | [] => []
  | tree :: rest => strays tree ++ straysAll rest

end

/-- The encoded form of a tree that consists of nodes only. -/
def encodeChecked (tree : Tree) : Except Fault Json :=
  match tree.strays with
  | [] => .ok tree.encode
  | value :: _ => .error (.noMember value.typeName "tag")

/-- The encoded form as a text, on one line or with each level indented. -/
def toJsonText (tree : Tree) (indent : Option Int := none) : Except Fault String :=
  tree.encodeChecked.map (·.render indent)

/-- A node in short: its tag and its plain attributes. -/
def summary : Tree → Json
  | .node head _ _ =>
    .arr (.str head.kind.tag ::
      head.attributes.filterMap fun entry => entry.2.scalar?.map Json.scalar)
  | .stray value => .arr [value]

end Tree

end Folio
