import Folio.Proofs.Signature
import Folio.Proofs.Tree.Encoding

/-!
# Encoded trees decode to themselves
-/

namespace Folio

namespace Kind

/-- A field of a kind is found under its name. -/
theorem field?_of_mem {kind : Kind} {field : Field} (member : field ∈ kind.fields) :
    kind.field? field.name = some field := by
  revert field
  cases kind <;> decide

/-- So is the field of a slot, which is structural. -/
theorem field?_of_mem_slots {kind : Kind} {field : Field} (member : field ∈ kind.slots) :
    kind.field? field.name = some field ∧ field.type.isStructural = true := by
  revert field
  cases kind <;> decide

/-- No field has the name of the tag. -/
theorem field?_tagField (kind : Kind) : kind.field? Tree.tagField = none := by
  cases kind <;> decide

/-- The names of slots differ. -/
theorem slots_nodup (kind : Kind) : (kind.slots.map (·.name)).Nodup := by
  cases kind <;> decide

/-- What cannot be left out is structural. -/
theorem required_slots (kind : Kind) : kind.requiredFields ⊆ kind.slots.map (·.name) := by
  cases kind <;> decide

end Kind

/-- The attribute is of the type, and survives a text. -/
def Attribute.Fits : FieldType → Attribute → Prop
  | .text, .scalar value => value.isText = true
  | .words, .words _ => True
  | .moment, .moment time? => ∀ time ∈ time?, time.Readable
  | _, _ => False

/-- The attributes of a typed head are of the types of their fields. -/
theorem Head.attributes_fit {head : Head} (typed : head.isTyped = true)
    (readable : ∀ time ∈ head.createdOn?, time.Readable) :
    ∀ entry ∈ head.attributes, ∃ field, head.kind.field? entry.1 = some field ∧
      entry.2.Fits field.type := by
  cases head with
  | «section» reference =>
    rw [attributes, List.forall_mem_cons]
    exact ⟨⟨_, rfl, typed⟩, by simp⟩
  | internalLink reference =>
    rw [attributes, List.forall_mem_cons]
    exact ⟨⟨_, rfl, typed⟩, by simp⟩
  | document details =>
    simp only [attributes, List.forall_mem_cons]
    exact ⟨⟨_, rfl, rfl⟩, ⟨_, rfl, rfl⟩, ⟨_, rfl, rfl⟩, ⟨_, rfl, rfl⟩, ⟨_, rfl, rfl⟩,
      ⟨_, rfl, trivial⟩, ⟨_, rfl, rfl⟩, ⟨_, rfl, rfl⟩, ⟨_, rfl, rfl⟩, ⟨_, rfl, rfl⟩,
      ⟨_, rfl, readable⟩, by simp⟩
  | text _ | codeBlock _ | webLink _ =>
    rw [attributes, List.forall_mem_cons]
    exact ⟨⟨_, rfl, rfl⟩, by simp⟩
  | image _ _ | externalLink _ _ =>
    simp only [attributes, List.forall_mem_cons]
    exact ⟨⟨_, rfl, rfl⟩, ⟨_, rfl, rfl⟩, by simp⟩
  | _ => simp [attributes]

namespace Tree

/-- Encoded texts are read back. -/
theorem texts?_map (words : List String) : texts? (words.map Json.str) = some words := by
  induction words with
  | nil => rfl
  | cons word rest hypothesis => rw [List.map_cons, texts?, hypothesis, Option.map_some]

/-- An attribute of the right type is decoded from its encoded form. -/
theorem decodeAttribute_encode (kind : Kind) {field : Field} {value : Attribute}
    (fits : value.Fits field.type) :
    decodeAttribute kind field value.encode = .ok (.attr value) := by
  obtain ⟨name, type⟩ := field
  cases value with
  | words values =>
    cases type <;> simp_all [Attribute.Fits, Attribute.encode, decodeAttribute, texts?_map]
  | moment time? =>
    cases time? with
    | none => cases type <;> simp_all [Attribute.Fits, Attribute.encode, decodeAttribute]
    | some time =>
      cases type <;>
        simp_all [Attribute.Fits, Attribute.encode, decodeAttribute, Timestamp.Readable]
  | scalar value =>
    cases value <;> cases type <;>
      simp_all [Attribute.Fits, Attribute.encode, decodeAttribute, Attribute.text, Scalar.isText]

/-- The content of a field is what its encoded form is decoded to. -/
def Keeps (kind : Kind) (field : Field) (content : Content) : Prop :=
  ∀ rest, decodeFields kind ((field.name, content.encode) :: rest) =
    (decodeFields kind rest).map ((field.name, content) :: ·)

/-- Trees that are decoded one by one are decoded together. -/
theorem decodeAll_encodeAll {trees : List Tree}
    (each : ∀ tree ∈ trees, decode tree.encode = .ok tree) :
    decodeAll (encodeAll trees) = .ok trees := by
  induction trees with
  | nil => rfl
  | cons tree rest hypothesis =>
    obtain ⟨first, others⟩ := List.forall_mem_cons.1 each
    rw [encodeAll, decodeAll, first, hypothesis others]
    rfl

variable {kind : Kind} {field : Field}

/-- An attribute that fits its field is kept. -/
theorem keeps_attribute (known : kind.field? field.name = some field) {value : Attribute}
    (fits : value.Fits field.type) : Keeps kind field (.attr value) := by
  intro rest
  have decoded := decodeAttribute_encode kind fits
  obtain ⟨name, type⟩ := field
  rw [decodeFields, known]
  cases type with
  | many element => cases value <;> exact fits.elim
  | one element => cases value <;> exact fits.elim
  | _ =>
    simp only [Content.encode, decoded]
    cases decodeFields kind rest <;> rfl

/-- Metadata are kept. -/
theorem keeps_metadata (known : kind.field? field.name = some field)
    (type : field.type = .metadata) (members : Json.Members) :
    Keeps kind field (.metadata members) := by
  intro rest
  obtain ⟨name, fieldType⟩ := field
  obtain rfl : fieldType = .metadata := type
  rw [decodeFields, known]
  cases decodeFields kind rest <;> rfl

/-- A list of trees that are decoded again is kept. -/
theorem keeps_many (known : kind.field? field.name = some field) {element : Category}
    (type : field.type = .many element) {trees : List Tree}
    (each : ∀ tree ∈ trees, decode tree.encode = .ok tree) :
    Keeps kind field (.slot (.many trees)) := by
  intro rest
  obtain ⟨name, fieldType⟩ := field
  obtain rfl : fieldType = .many element := type
  rw [decodeFields, known, Content.encode]
  simp only [decodeAll_encodeAll each]
  cases decodeFields kind rest <;> rfl

/-- A tree that is decoded again is kept. -/
theorem keeps_one (known : kind.field? field.name = some field) {element : Category}
    (type : field.type = .one element) {head : Head} {metadata : Json.Members}
    {slots : List (Slot Tree)}
    (decodes : decode (encode (.node head metadata slots)) = .ok (.node head metadata slots)) :
    Keeps kind field (.slot (.one (.node head metadata slots))) := by
  intro rest
  obtain ⟨name, fieldType⟩ := field
  obtain rfl : fieldType = .one element := type
  rw [encode_node] at decodes
  rw [decodeFields, known, Content.encode, encode_node]
  simp only [decodes]
  cases decodeFields kind rest <;> rfl

/-- Fields whose contents are kept are decoded together. -/
theorem decodeFields_kept {contents : List (String × Content)}
    (kept : ∀ entry ∈ contents, ∃ field : Field, field.name = entry.1 ∧ Keeps kind field entry.2) :
    decodeFields kind (contents.map fun entry => (entry.1, entry.2.encode)) = .ok contents := by
  induction contents with
  | nil => rfl
  | cons entry rest hypothesis =>
    obtain ⟨⟨field, name, keeps⟩, others⟩ := List.forall_mem_cons.1 kept
    rw [List.map_cons, ← name, keeps, hypothesis others, Except.map, name]

/-- The kind of an encoded node is read off its tag. -/
theorem decodeKind_tag {members : Json.Members}
    (known : ∀ member ∈ members, (kind.field? member.1).isSome = true) :
    decodeKind ((tagField, .str kind.tag) :: members) = .ok kind := by
  have unknown : ((((tagField, .str kind.tag) :: members : Json.Members).map (·.1)).filter
      fun name => name != tagField && (kind.field? name).isNone) = [] := by
    rw [List.filter_eq_nil_iff]
    intro name member
    rcases List.mem_cons.1 member with rfl | inside
    · simp
    · obtain ⟨entry, inMembers, rfl⟩ := List.mem_map.1 inside
      have isField := known entry inMembers
      cases found : kind.field? entry.1 with
      | none => rw [found] at isField; cases isField
      | some field => simp
  have tag : Json.Members.get? ((tagField, .str kind.tag) :: members) tagField =
      some (.str kind.tag) := by
    simp [Json.Members.get?]
  simp only [decodeKind, tag, Option.getD_some, Kind.ofTag?_tag, unknown]
  rfl

end Tree

/-- A node is put together from contents that stand in different fields, with none missing
that is required. -/
theorem Kind.assemble?_eq {kind : Kind} {contents : List (String × Content)}
    (distinct : (contents.map (·.1)).Nodup)
    (known : ∀ entry ∈ contents, entry.1 ∈ kind.fields.map (·.name))
    (complete : ∀ name ∈ kind.requiredFields, name ∈ contents.map (·.1)) :
    kind.assemble? contents = .ok (kind.assemble contents) := by
  have taken : ∀ entry ∈ contents, entry.1 ∈ kind.signature.positional := by
    intro entry member
    have isField := known entry member
    by_cases required : entry.1 ∈ kind.requiredFields
    · exact List.mem_append_left _ required
    · refine List.mem_append_right _ (List.mem_filter.2 ⟨isField, by simpa using required⟩)
  have bound := kind.signature.bindNames_eq contents ⟨[], [], []⟩ distinct taken
  have missing : (kind.signature.required.filter fun name =>
      ((Bound.mk contents [] []).get? name).isNone) = [] := by
    rw [List.filter_eq_nil_iff]
    intro name required
    have given := (Bound.isSome_get? ⟨contents, [], []⟩ name).2 (complete name required)
    simpa [Option.isSome_iff_ne_none] using given
  simp [assemble?, Signature.bind, bound, missing, bind, Except.bind]

namespace Tree

variable {head : Head} {metadata : Json.Members} {slots : List (Slot Tree)}

/-- Values that stand beside different names are found by them, in order. -/
theorem find?_zip {α : Type} {fields : List Field} (distinct : (fields.map (·.name)).Nodup)
    {values : List α} (lengths : fields.length = values.length) :
    (fields.map fun field =>
      ((fields.zip values).find? fun entry => entry.1.name == field.name).map (·.2)) =
      values.map some := by
  induction fields generalizing values with
  | nil =>
    obtain rfl : values = [] := List.length_eq_zero_iff.1 lengths.symm
    rfl
  | cons field rest hypothesis =>
    obtain ⟨value, others, rfl⟩ := List.exists_cons_of_length_eq_add_one lengths.symm
    rw [List.map_cons, List.nodup_cons] at distinct
    have below := hypothesis distinct.2 (Nat.succ.inj lengths)
    rw [List.map_cons, List.map_cons, ← below, List.zip_cons_cons]
    congr 1
    · simp
    · refine List.map_congr_left fun other member => ?_
      have differs : (field.name == other.name) = false := by
        simpa using fun same => distinct.1 (List.mem_map.2 ⟨other, member, same.symm⟩)
      rw [List.find?_cons, differs]

/-- The slots of a node stand in its structural fields. -/
theorem fieldContent?_slots (metadata : Json.Members)
    (lengths : head.kind.slots.length = slots.length) :
    head.kind.slots.map (fieldContent? head metadata slots) =
      slots.map fun slot => some (.slot slot) := by
  have found := congrArg (List.map (Option.map Content.slot))
    (find?_zip (Kind.slots_nodup head.kind) lengths)
  simp only [List.map_map, Function.comp_def, Option.map_some] at found
  rw [← found]
  refine List.map_congr_left fun field member => ?_
  rw [fieldContent?, if_pos (Kind.field?_of_mem_slots member).2, Option.map_map]
  rfl

/-- Each slot of a kind is among what stands in the fields. -/
theorem exists_slot (metadata : Json.Members) (lengths : head.kind.slots.length = slots.length)
    {field : Field} (member : field ∈ head.kind.slots) :
    ∃ slot, fieldContent? head metadata slots field = some (.slot slot) := by
  have inside := List.mem_map_of_mem (f := fieldContent? head metadata slots) member
  rw [fieldContent?_slots metadata lengths] at inside
  obtain ⟨slot, -, stands⟩ := List.mem_map.1 inside
  exact ⟨slot, stands.symm⟩

/-- Metadata stand in the field of that name, unless there are none. -/
theorem fieldContent?_metadata
    (declared : metadata.isEmpty = true ∨ Field.metadata ∈ head.kind.fields) :
    ((((head.kind.field? Field.metadata.name).bind (fieldContent? head metadata slots)).bind
      Content.metadata?).getD []) = metadata := by
  rcases declared with none | known
  · obtain rfl : metadata = [] := List.isEmpty_iff.1 none
    cases head <;> rfl
  · rw [Kind.field?_of_mem known]
    cases metadata <;> rfl

/-- A typed node has the slots of its kind. -/
theorem NodeTyped.length_slots (typed : NodeTyped head metadata slots) :
    head.kind.slots.length = slots.length := by
  simpa using (congrArg List.length typed.layout).symm

/-- The contents of a node make up the node. -/
theorem assemble_fieldContents (typed : NodeTyped head metadata slots) :
    head.kind.assemble (fieldContents head metadata slots) = .node head metadata slots := by
  have lengths := typed.length_slots
  rw [Kind.assemble]
  simp only [find?_fieldContents]
  congr 1
  · cases head <;> rfl
  · exact fieldContent?_metadata typed.declared
  · have contents := fieldContent?_slots metadata lengths
    have wrapped : Function.Injective fun slot => some (Content.slot slot) :=
      fun first second same => by simpa using same
    apply List.map_injective_iff.2 wrapped
    rw [← contents, List.map_map]
    refine List.map_congr_left fun field member => ?_
    obtain ⟨slot, stands⟩ := exists_slot metadata lengths member
    rw [Function.comp_apply, (Kind.field?_of_mem_slots member).1, Option.bind_some, stands]
    rfl

/-- The contents of a typed node are all that it takes to build it. -/
theorem assemble?_fieldContents (typed : NodeTyped head metadata slots) :
    head.kind.assemble? (fieldContents head metadata slots) = .ok (.node head metadata slots) := by
  have lengths := typed.length_slots
  rw [Kind.assemble?_eq (fieldContents_nodup ..), assemble_fieldContents typed]
  · intro entry member
    exact (fieldContents_sublist ..).subset (List.mem_map_of_mem member)
  · intro name required
    obtain ⟨field, inSlots, rfl⟩ := List.mem_map.1 (head.kind.required_slots required)
    obtain ⟨slot, stands⟩ := exists_slot metadata lengths inSlots
    have found := find?_fieldContents head metadata slots field.name
    rw [(Kind.field?_of_mem_slots inSlots).1, Option.bind_some, stands] at found
    obtain ⟨entry, inContents, -⟩ := Option.map_eq_some_iff.1 found
    have sameName : entry.1 = field.name := by simpa using List.find?_some inContents
    exact List.mem_map.2 ⟨entry, List.mem_of_find?_eq_some inContents, sameName⟩

/-- Slots that are laid out as declared hold a list exactly where one is declared. -/
theorem NodeTyped.isList_eq (typed : NodeTyped head metadata slots) {field : Field}
    {slot : Slot Tree} (member : (field, slot) ∈ head.kind.slots.zip slots) :
    slot.isList = field.type.isSequence := by
  have general : ∀ (fields : List Field) (slots : List (Slot Tree)),
      slots.map Slot.isList = fields.map (·.type.isSequence) →
        (field, slot) ∈ fields.zip slots → slot.isList = field.type.isSequence := by
    intro fields slots layout member
    induction fields generalizing slots with
    | nil => simp at member
    | cons other rest hypothesis =>
      cases slots with
      | nil => simp at member
      | cons content others =>
        obtain ⟨first, later⟩ := List.cons.inj layout
        rcases List.mem_cons.1 member with here | below
        · obtain ⟨rfl, rfl⟩ := Prod.mk.inj here
          exact first
        · exact hypothesis others later below
  exact general _ _ typed.layout member

/-- What stands in a field is a slot of the node, its metadata or one of its attributes. -/
theorem fieldContent?_cases {field : Field} (inFields : field ∈ head.kind.fields)
    {content : Content} (stands : fieldContent? head metadata slots field = some content) :
    (∃ slot, (field, slot) ∈ head.kind.slots.zip slots ∧ content = .slot slot) ∨
      (field.type = .metadata ∧ content = .metadata metadata) ∨
      ∃ value, (field.name, value) ∈ head.attributes ∧ content = .attr value := by
  rw [fieldContent?] at stands
  split at stands
  · obtain ⟨⟨slotField, slot⟩, found, rfl⟩ := Option.map_eq_some_iff.1 stands
    have inZip := List.mem_of_find?_eq_some found
    have sameName : slotField.name = field.name := by simpa using List.find?_some found
    have same := (Kind.field?_of_mem_slots (List.of_mem_zip inZip).1).1
    rw [sameName, Kind.field?_of_mem inFields] at same
    rw [← Option.some.inj same] at inZip
    exact .inl ⟨slot, inZip, rfl⟩
  · split at stands
    · rename_i isMetadata
      split at stands
      · cases stands
      · exact .inr (.inl ⟨by simpa using isMetadata, (Option.some.inj stands).symm⟩)
    · obtain ⟨value, found, rfl⟩ := Option.map_eq_some_iff.1 stands
      obtain ⟨⟨name, listed⟩, inAttributes, rfl⟩ := Option.map_eq_some_iff.1 found
      obtain rfl : name = field.name := by simpa using List.find?_some inAttributes
      exact .inr (.inr ⟨listed, List.mem_of_find?_eq_some inAttributes, rfl⟩)

/-- Whatever stands in the fields of a typed node is kept, if the nodes inside are. -/
theorem keeps_fieldContents (typed : NodeTyped head metadata slots)
    (readable : ∀ time ∈ head.createdOn?, time.Readable)
    (below : ∀ slot ∈ slots, ∀ tree ∈ slot.toList, tree.Typed ∧ decode tree.encode = .ok tree) :
    ∀ entry ∈ fieldContents head metadata slots,
      ∃ field : Field, field.name = entry.1 ∧ Keeps head.kind field entry.2 := by
  rintro ⟨name, content⟩ member
  obtain ⟨field, inFields, rfl, stands⟩ := mem_fieldContents _ _ _ member
  have known := Kind.field?_of_mem inFields
  refine ⟨field, rfl, ?_⟩
  obtain ⟨slot, inZip, rfl⟩ | ⟨type, rfl⟩ | ⟨value, listed, rfl⟩ :=
    fieldContent?_cases inFields stands
  · obtain ⟨inSlotFields, inSlots⟩ := List.of_mem_zip inZip
    have structural := (Kind.field?_of_mem_slots inSlotFields).2
    have layout := typed.isList_eq inZip
    have inside := below slot inSlots
    cases type : field.type with
    | many element =>
      cases slot with
      | one tree => simp [Slot.isList, type, FieldType.isSequence] at layout
      | many trees => exact keeps_many known type fun tree member => (inside tree member).2
    | one element =>
      cases slot with
      | many trees => simp [Slot.isList, type, FieldType.isSequence] at layout
      | one tree =>
        obtain ⟨isTyped, decodes⟩ := inside tree (List.mem_singleton_self tree)
        cases tree with
        | stray value => cases (everywhere_iff.1 isTyped).1
        | node head metadata slots => exact keeps_one known type decodes
    | _ => simp [type, FieldType.isStructural] at structural
  · exact keeps_metadata known type metadata
  · obtain ⟨other, otherKnown, fits⟩ :=
      Head.attributes_fit typed.references readable _ listed
    rw [known] at otherKnown
    rw [← Option.some.inj otherKnown] at fits
    exact keeps_attribute known fits

/-- A typed tree whose timestamps are readable is decoded from its encoded form. -/
theorem decode_encode {tree : Tree} (typed : tree.Typed)
    (readable : tree.Everywhere HasReadableTime) : decode tree.encode = .ok tree := by
  induction tree using childInduction with
  | step tree below =>
    obtain ⟨here, inside⟩ := everywhere_iff.1 typed
    obtain ⟨time, times⟩ := everywhere_iff.1 readable
    cases tree with
    | stray value => cases here
    | node head metadata slots =>
      have children : ∀ slot ∈ slots, ∀ tree ∈ slot.toList,
          tree.Typed ∧ decode tree.encode = .ok tree := by
        intro slot inSlots tree inSlot
        have member := List.mem_flatMap.2 ⟨slot, inSlots, inSlot⟩
        exact ⟨inside tree member, below tree member (inside tree member) (times tree member)⟩
      have fields := decodeFields_kept (keeps_fieldContents here time children)
      have known : decodeKind ((tagField, .str head.kind.tag) ::
          (fieldContents head metadata slots).map fun entry => (entry.1, entry.2.encode)) =
            .ok head.kind := by
        refine decodeKind_tag fun member inMembers => ?_
        obtain ⟨entry, inContents, rfl⟩ := List.mem_map.1 inMembers
        obtain ⟨field, inFields, name, -⟩ := mem_fieldContents _ _ _ inContents
        rw [← name, Kind.field?_of_mem inFields]
        rfl
      rw [encode_node, decode, known]
      simp only [bind, Except.bind]
      rw [decodeFields, Kind.field?_tagField, fields]
      exact assemble?_fieldContents here

end Tree

end Folio
