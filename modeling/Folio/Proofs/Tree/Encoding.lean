import Folio.Proofs.Tree.Typed
import Folio.Tree.Decoding

/-!
# Encoded nodes, field by field

The members of an encoded node are its tag and what stands in its fields, in the order of
declaration. `fieldContents` lists the contents, `Content.encode` encodes one of them; the
decoder yields the same list, and from it the node is put together again.
-/

namespace Folio

/-- The encoded form of what stands in a field. -/
def Content.encode : Content → Json
  | .attr value => value.encode
  | .metadata members => .obj members
  | .slot (.one tree) => tree.encode
  | .slot (.many trees) => .arr (Tree.encodeAll trees)

namespace Tree

/-- What stands in a field of a node; metadata count only if there are any. -/
def fieldContent? (head : Head) (metadata : Json.Members) (slots : List (Slot Tree))
    (field : Field) : Option Content :=
  if field.type.isStructural then
    ((head.kind.slots.zip slots).find? fun entry => entry.1.name == field.name).map
      fun entry => .slot entry.2
  else if field.type == .metadata then
    if metadata.isEmpty then none else some (.metadata metadata)
  else (head.attribute? field.name).map .attr

/-- What stands in the fields of a node, in the order of declaration. -/
def fieldContents (head : Head) (metadata : Json.Members) (slots : List (Slot Tree)) :
    List (String × Content) :=
  head.kind.fields.filterMap fun field =>
    (fieldContent? head metadata slots field).map fun content => (field.name, content)

/-- Trees are encoded one by one. -/
theorem encodeAll_eq (trees : List Tree) : encodeAll trees = trees.map encode := by
  induction trees with
  | nil => rfl
  | cons tree rest hypothesis => rw [encodeAll, hypothesis, List.map_cons]

/-- Slots are encoded one by one. -/
theorem encodeSlots_eq (slots : List (Slot Tree)) :
    encodeSlots slots = slots.map fun slot => (Content.slot slot).encode := by
  induction slots with
  | nil => rfl
  | cons slot rest hypothesis =>
    cases slot with
    | one tree => rw [encodeSlots, hypothesis]; rfl
    | many trees => rw [encodeSlots, hypothesis]; rfl

/-- An encoded node is its tag with the encoded contents of its fields. -/
theorem encode_node (head : Head) (metadata : Json.Members) (slots : List (Slot Tree)) :
    encode (.node head metadata slots) =
      .obj ((tagField, .str head.kind.tag) ::
        (fieldContents head metadata slots).map fun entry => (entry.1, entry.2.encode)) := by
  rw [encode, encodeMembers, fieldContents, List.map_filterMap]
  congr 2
  refine List.filterMap_congr fun field _ => ?_
  rw [fieldContent?, encodeSlots_eq]
  split
  · rw [List.zip_map_right, List.find?_map]
    simp [Function.comp_def]
  · split
    · split <;> rfl
    · simp [Function.comp_def, Content.encode]

variable (head : Head) (metadata : Json.Members) (slots : List (Slot Tree))

/-- Every content stands in a field of the kind. -/
theorem mem_fieldContents {entry : String × Content}
    (member : entry ∈ fieldContents head metadata slots) :
    ∃ field ∈ head.kind.fields, field.name = entry.1 ∧
      fieldContent? head metadata slots field = some entry.2 := by
  obtain ⟨field, inFields, found⟩ := List.mem_filterMap.1 member
  obtain ⟨content, stands, rfl⟩ := Option.map_eq_some_iff.1 found
  exact ⟨field, inFields, rfl, stands⟩

/-- The contents are listed under the names of fields, in the same order. -/
theorem fieldContents_sublist :
    ((fieldContents head metadata slots).map (·.1)).Sublist (head.kind.fields.map (·.name)) := by
  rw [fieldContents, List.map_filterMap]
  have names : ∀ fields : List Field,
      (fields.filterMap fun field =>
        ((fieldContent? head metadata slots field).map fun content => (field.name, content)).map
          (·.1)).Sublist (fields.map (·.name)) := by
    intro fields
    induction fields with
    | nil => exact .slnil
    | cons field rest hypothesis =>
      cases found : fieldContent? head metadata slots field with
      | none => simpa [found] using hypothesis.cons field.name
      | some content => simpa [found] using hypothesis.cons_cons field.name
  exact names _

/-- No field is listed twice. -/
theorem fieldContents_nodup : ((fieldContents head metadata slots).map (·.1)).Nodup :=
  (fieldContents_sublist head metadata slots).nodup (Kind.fields_nodup head.kind)

/-- What is listed under a name is what stands in the field of that name. -/
theorem find?_named {content? : Field → Option Content} {fields : List Field}
    (distinct : (fields.map (·.name)).Nodup) (name : String) :
    ((fields.filterMap fun field => (content? field).map fun content =>
        (field.name, content)).find? fun entry => entry.1 == name).map (·.2) =
      (fields.find? fun field => field.name == name).bind content? := by
  induction fields with
  | nil => rfl
  | cons field rest hypothesis =>
    rw [List.map_cons, List.nodup_cons] at distinct
    obtain ⟨new, others⟩ := distinct
    have below := hypothesis others
    rw [List.filterMap_cons, List.find?_cons]
    by_cases here : field.name = name
    · have later : (rest.find? fun other => other.name == name) = none := by
        rw [List.find?_eq_none]
        intro other member same
        exact new (List.mem_map.2 ⟨other, member, by rw [here]; simpa using same⟩)
      rw [later] at below
      cases found : content? field with
      | none =>
        simp only [Option.map_none, below, here, beq_self_eq_true, Option.bind_some, found]
        rfl
      | some content => simp [found, here]
    · have differs : (field.name == name) = false := by simpa using here
      cases found : content? field with
      | none => simp only [Option.map_none, below, differs]
      | some content => simp only [Option.map_some, List.find?_cons, differs, below]

/-- What is listed under a name is what stands in that field. -/
theorem find?_fieldContents (name : String) :
    ((fieldContents head metadata slots).find? fun entry => entry.1 == name).map (·.2) =
      (head.kind.field? name).bind (fieldContent? head metadata slots) :=
  find?_named (Kind.fields_nodup head.kind) name

end Tree

end Folio
