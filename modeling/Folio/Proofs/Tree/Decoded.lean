import Folio.Proofs.Json.Parsed
import Folio.Proofs.Timestamp
import Folio.Proofs.Tree.Codec

/-!
# Decoded trees are typed

Every check of the decoder is one that a typed tree passes: what it lets through in a field
is what the field declares, and what it puts in a field that was left out is typed as well.
Timestamps in a decoded tree have been read once, and so are read back from their texts.
-/

namespace Folio

/-- The tree is typed, and its timestamps are read back from their texts. -/
structure Tree.Restorable (tree : Tree) : Prop where
  typed : tree.Typed
  readable : tree.Everywhere Tree.HasReadableTime

/-- What stands in a field is what the field declares, at any depth. -/
def Content.Fits (field : Field) : Content → Prop
  | .attr value => value.Fits field.type
  | .metadata members => field.type = .metadata ∧ (Json.obj members).Distinct
  | .slot content =>
    content.isList = field.type.isSequence ∧ ∀ tree ∈ content.toList, tree.Restorable

namespace Tree

/-- What the decoder lets through in a field without nodes is what the field declares. -/
theorem decodeAttribute_fits {kind : Kind} {field : Field} {value : Json} {content : Content}
    (plain : field.type.isStructural = false) (distinct : value.Distinct)
    (decoded : decodeAttribute kind field value = .ok content) : content.Fits field := by
  obtain ⟨name, type⟩ := field
  cases type with
  | many element => cases plain
  | one element => cases plain
  | metadata =>
    cases value with
    | obj members =>
      obtain rfl := Except.ok.inj decoded
      exact ⟨rfl, distinct⟩
    | _ => cases decoded
  | words =>
    cases value with
    | arr items =>
      simp only [decodeAttribute] at decoded
      split at decoded
      · obtain rfl := Except.ok.inj decoded
        trivial
      · cases decoded
    | _ => cases decoded
  | moment =>
    cases value with
    | scalar value =>
      cases value with
      | null =>
        obtain rfl := Except.ok.inj decoded
        exact fun time none => by cases none
      | text text =>
        simp only [decodeAttribute] at decoded
        split at decoded
        · rename_i time parsed
          obtain rfl := Except.ok.inj decoded
          rintro other ⟨⟩
          exact Timestamp.parse?_text_of_parse? parsed
        · cases decoded
      | _ => cases decoded
    | _ => cases decoded
  | text =>
    cases value with
    | scalar value =>
      cases value with
      | text text =>
        obtain rfl := Except.ok.inj decoded
        rfl
      | _ => cases decoded
    | _ => cases decoded

/-- All trees that were decoded together can be restored if those decoded one by one can. -/
theorem decodeAll_restorable {items : List Json} {trees : List Tree}
    (each : ∀ item ∈ items, ∀ tree, decode item = .ok tree → tree.Restorable)
    (decoded : decodeAll items = .ok trees) : ∀ tree ∈ trees, tree.Restorable := by
  induction items generalizing trees with
  | nil =>
    obtain rfl := Except.ok.inj decoded
    simp
  | cons item rest hypothesis =>
    obtain ⟨first, others⟩ := List.forall_mem_cons.1 each
    obtain ⟨tree, firstTree, decoded⟩ := bind_eq_ok.1 decoded
    obtain ⟨later, otherTrees, decoded⟩ := bind_eq_ok.1 decoded
    obtain rfl := Except.ok.inj decoded
    exact List.forall_mem_cons.2 ⟨first tree firstTree, hypothesis others otherTrees⟩

/-- What was decoded from a value, and from the items of a list, can be restored. -/
def DecodesRestorable (value : Json) : Prop :=
  (∀ tree, decode value = .ok tree → tree.Restorable) ∧
    ∀ items, value = .arr items → ∀ trees, decodeAll items = .ok trees →
      ∀ tree ∈ trees, tree.Restorable

/-- A member with the name of a field is decoded to what the field declares; what is decoded
from the members behind it follows. -/
theorem decodeFields_cons {kind : Kind} {field : Field} {name : String} {value : Json}
    {rest : Json.Members} {contents : List (String × Content)}
    (known : kind.field? name = some field) (distinct : value.Distinct)
    (decodes : DecodesRestorable value)
    (decoded : decodeFields kind ((name, value) :: rest) = .ok contents) :
    ∃ content later, Content.Fits field content ∧ decodeFields kind rest = .ok later ∧
      contents = (name, content) :: later := by
  suffices head : ∃ content, Content.Fits field content ∧
      (do
        let others ← decodeFields kind rest
        pure ((name, content) :: others)) = .ok contents by
    obtain ⟨content, fits, decoded⟩ := head
    obtain ⟨later, otherContents, decoded⟩ := bind_eq_ok.1 decoded
    exact ⟨content, later, fits, otherContents, (Except.ok.inj decoded).symm⟩
  obtain ⟨single, list⟩ := decodes
  rw [decodeFields, known] at decoded
  dsimp only at decoded
  split at decoded
  · rename_i items type
    obtain ⟨trees, together, decoded⟩ := bind_eq_ok.1 decoded
    refine ⟨.slot (.many trees), ⟨?_, list items rfl trees together⟩, decoded⟩
    rw [type]
    rfl
  · cases decoded
  · rename_i members type
    obtain ⟨tree, alone, decoded⟩ := bind_eq_ok.1 decoded
    have restorable := List.forall_mem_singleton.2 (single tree alone)
    refine ⟨.slot (.one tree), ⟨?_, restorable⟩, decoded⟩
    rw [type]
    rfl
  · cases decoded
  · rename_i noMany noOne _ _
    obtain ⟨content, plain, decoded⟩ := bind_eq_ok.1 decoded
    refine ⟨content, decodeAttribute_fits ?_ distinct plain, decoded⟩
    cases type : field.type with
    | many element => exact (noMany element type).elim
    | one element => exact (noOne element type).elim
    | _ => rfl

/-- What was decoded from the members of an object fits the fields. -/
theorem decodeFields_fits {kind : Kind} {members : Json.Members}
    {contents : List (String × Content)}
    (each : ∀ member ∈ members, member.2.Distinct ∧ DecodesRestorable member.2)
    (decoded : decodeFields kind members = .ok contents) :
    ∀ entry ∈ contents, ∃ field, kind.field? entry.1 = some field ∧ entry.2.Fits field := by
  induction members generalizing contents with
  | nil =>
    obtain rfl := Except.ok.inj decoded
    simp
  | cons member rest hypothesis =>
    obtain ⟨name, value⟩ := member
    obtain ⟨⟨distinct, decodes⟩, others⟩ := List.forall_mem_cons.1 each
    cases known : kind.field? name with
    | none =>
      rw [decodeFields, known] at decoded
      exact hypothesis others decoded
    | some field =>
      obtain ⟨content, later, fits, otherContents, rfl⟩ :=
        decodeFields_cons known distinct decodes decoded
      exact List.forall_mem_cons.2 ⟨⟨field, known, fits⟩, hypothesis others otherContents⟩

variable {kind : Kind} {contents : List (String × Content)}

/-- What stands in a field among some contents. -/
def contentAt (contents : List (String × Content)) (name : String) : Option Content :=
  (contents.find? fun entry => entry.1 == name).map (·.2)

/-- What is found under the name of a field fits that field. -/
theorem contentAt_fits
    (fit : ∀ entry ∈ contents, ∃ field, kind.field? entry.1 = some field ∧ entry.2.Fits field)
    {name : String} {content : Content} (found : contentAt contents name = some content) :
    ∃ field, kind.field? name = some field ∧ content.Fits field := by
  obtain ⟨entry, inContents, rfl⟩ := Option.map_eq_some_iff.1 found
  obtain ⟨field, known, fits⟩ := fit entry (List.mem_of_find?_eq_some inContents)
  obtain rfl : entry.1 = name := by simpa using List.find?_some inContents
  exact ⟨field, known, fits⟩

/-- What is found as an attribute is of the type of its field. -/
theorem attributeAt_fits
    (fit : ∀ entry ∈ contents, ∃ field, kind.field? entry.1 = some field ∧ entry.2.Fits field)
    {name : String} {value : Attribute}
    (found : (contentAt contents name).bind Content.attribute? = some value) :
    ∃ field, kind.field? name = some field ∧ value.Fits field.type := by
  obtain ⟨content, isContent, isAttribute⟩ := Option.bind_eq_some_iff.1 found
  obtain ⟨field, known, fits⟩ := contentAt_fits fit isContent
  cases content with
  | attr other =>
    obtain rfl := Option.some.inj isAttribute
    exact ⟨field, known, fits⟩
  | _ => cases isAttribute

/-- A head that is built from attributes of the right types is typed. -/
theorem build_fits {value? : String → Option Attribute}
    (fit : ∀ name value, value? name = some value →
      ∃ field, kind.field? name = some field ∧ value.Fits field.type) :
    (Head.build kind value?).isTyped = true ∧
      ∀ time ∈ (Head.build kind value?).createdOn?, time.Readable := by
  have isText : ∀ name field, kind.field? name = some field → field.type = .text →
      (((value? name).bind Attribute.scalar?).getD (.text "")).isText = true := by
    intro name field known type
    cases found : value? name with
    | none => rfl
    | some value =>
      obtain ⟨other, otherKnown, fits⟩ := fit name value found
      obtain rfl := Option.some.inj (known.symm.trans otherKnown)
      rw [type] at fits
      cases value with
      | scalar value => exact fits
      | _ => rfl
  cases kind with
  | «section» => exact ⟨isText "reference" _ rfl rfl, by simp [Head.build, Head.createdOn?]⟩
  | internalLink =>
    exact ⟨isText "section_reference" _ rfl rfl, by simp [Head.build, Head.createdOn?]⟩
  | document =>
    refine ⟨rfl, fun time isTime => ?_⟩
    simp only [Head.build, Head.createdOn?] at isTime
    split at isTime
    · rename_i found
      obtain ⟨field, known, fits⟩ := fit "created_on" _ found
      obtain rfl := Option.some.inj known
      exact fits time isTime
    · cases isTime
  | _ => exact ⟨rfl, by simp [Head.build, Head.createdOn?]⟩

/-- A slot that is left out is laid out as declared, and what stands there can be restored. -/
theorem defaultSlot_restorable {field : Field} (structural : field.type.isStructural = true) :
    (Kind.defaultSlot field).isList = field.type.isSequence ∧
      ∀ tree ∈ (Kind.defaultSlot field).toList, tree.Restorable := by
  have image : (Tree.node (.image "" "") [] []).Restorable := ⟨by decide, by decide⟩
  have text : (ofText "").Restorable := ⟨by decide, by decide⟩
  obtain ⟨name, type⟩ := field
  cases type with
  | many element => exact ⟨rfl, by simp [Kind.defaultSlot, Slot.toList]⟩
  | one element =>
    rw [Kind.defaultSlot.eq_def]
    split
    · exact ⟨rfl, List.forall_mem_singleton.2 image⟩
    · exact ⟨rfl, List.forall_mem_singleton.2 text⟩
    · rename_i _ notOne
      exact (notOne element rfl).elim
  | _ => cases structural

/-- Every slot of a node that is put together is laid out as declared, and what stands there can
be restored. -/
theorem slotAt_restorable
    (fit : ∀ entry ∈ contents, ∃ field, kind.field? entry.1 = some field ∧ entry.2.Fits field)
    {field : Field} (member : field ∈ kind.slots) {slot : Slot Tree}
    (stands : ((contentAt contents field.name).bind Content.slot?).getD (Kind.defaultSlot field) =
      slot) :
    slot.isList = field.type.isSequence ∧ ∀ tree ∈ slot.toList, tree.Restorable := by
  obtain ⟨known, structural⟩ := Kind.field?_of_mem_slots member
  have leftOut := defaultSlot_restorable structural
  rw [← stands]
  cases found : contentAt contents field.name with
  | none => exact leftOut
  | some content =>
    obtain ⟨other, otherKnown, fits⟩ := contentAt_fits fit found
    obtain rfl := Option.some.inj (known.symm.trans otherKnown)
    cases content with
    | slot content => exact fits
    | _ => exact leftOut

/-- The metadata of a node that is put together are declared and repeat no name. -/
theorem metadataAt_fits
    (fit : ∀ entry ∈ contents, ∃ field, kind.field? entry.1 = some field ∧ entry.2.Fits field)
    {metadata : Json.Members}
    (stand : ((contentAt contents Field.metadata.name).bind Content.metadata?).getD [] = metadata) :
    (metadata.isEmpty = true ∨ Field.metadata ∈ kind.fields) ∧ (Json.obj metadata).Distinct := by
  rw [← stand]
  cases found : (contentAt contents Field.metadata.name).bind Content.metadata? with
  | none => exact ⟨.inl rfl, Json.distinct_obj.2 (by simp)⟩
  | some members =>
    obtain ⟨content, isContent, isMetadata⟩ := Option.bind_eq_some_iff.1 found
    obtain ⟨field, known, fits⟩ := contentAt_fits fit isContent
    cases content with
    | metadata other =>
      obtain rfl := Option.some.inj isMetadata
      have name : field.name = Field.metadata.name := by simpa using List.find?_some known
      have same : field = Field.metadata := by
        rw [← show Field.mk field.name field.type = field from rfl, name, fits.1]
        rfl
      rw [← same]
      exact ⟨.inr (List.mem_of_find?_eq_some known), fits.2⟩
    | _ => cases isMetadata

/-- A node that is put together from contents that fit its fields can be restored. -/
theorem assemble_restorable
    (fit : ∀ entry ∈ contents, ∃ field, kind.field? entry.1 = some field ∧ entry.2.Fits field) :
    (kind.assemble contents).Restorable := by
  obtain ⟨references, readable⟩ := build_fits fun _ _ found => attributeAt_fits fit found
  obtain ⟨declared, names⟩ := metadataAt_fits fit rfl
  have below : ∀ child ∈ (kind.assemble contents).children, child.Restorable := by
    intro child inside
    obtain ⟨slot, inSlots, inSlot⟩ := List.mem_flatMap.1 inside
    obtain ⟨field, member, stands⟩ := List.mem_map.1 inSlots
    exact (slotAt_restorable fit member stands).2 child inSlot
  have layout : ∀ field ∈ kind.slots, _ := fun field member =>
    (slotAt_restorable fit member rfl).1
  constructor
  · refine everywhere_iff.2 ⟨⟨references, ?_, ?_, names⟩, fun child member =>
      (below child member).typed⟩
    · rw [Head.kind_build, List.map_map]
      exact List.map_congr_left layout
    · rw [Head.kind_build]
      exact declared
  · exact everywhere_iff.2 ⟨readable, fun child member => (below child member).readable⟩

/-- Every tree that was decoded from a value without repeated names can be restored. -/
theorem decode_restorable {value : Json} (distinct : value.Distinct) : DecodesRestorable value := by
  induction value using Json.induction with
  | scalar value =>
    exact ⟨fun tree decoded => (by cases decoded), fun items none => (by cases none)⟩
  | arr items hypothesis =>
    refine ⟨fun tree decoded => (by cases decoded), ?_⟩
    rintro others ⟨⟩ trees decoded
    rw [Json.distinct_arr] at distinct
    exact decodeAll_restorable
      (fun item member => (hypothesis item member (distinct item member)).1) decoded
  | obj members hypothesis =>
    refine ⟨fun tree decoded => ?_, fun items none => (by cases none)⟩
    rw [Json.distinct_obj] at distinct
    rw [decode] at decoded
    obtain ⟨kind, -, decoded⟩ := bind_eq_ok.1 decoded
    obtain ⟨contents, fields, decoded⟩ := bind_eq_ok.1 decoded
    have fit := decodeFields_fits (fun member inside =>
      ⟨distinct.2 member inside, hypothesis member inside (distinct.2 member inside)⟩) fields
    rw [Kind.assemble?] at decoded
    split at decoded
    · rename_i bound isBound
      obtain rfl := Except.ok.inj decoded
      rw [Signature.values_of_bind rfl isBound]
      exact assemble_restorable fit
    · cases decoded

/-- A document that was read from a text is one, and can be restored. -/
theorem ofJsonText_restorable {text : String} {document : Tree}
    (accepted : ofJsonText text = .ok document) :
    document.kind? = some .document ∧ document.Restorable := by
  rw [ofJsonText] at accepted
  split at accepted
  · cases accepted
  · rename_i value parsed
    split at accepted
    · cases accepted
    · rename_i tree decoded
      have restorable := (decode_restorable (Json.parse_distinct parsed)).1 tree decoded
      split at accepted
      · rename_i root
        obtain rfl := Except.ok.inj accepted
        exact ⟨root, restorable⟩
      · cases accepted
      · rename_i noKind
        cases tree with
        | stray value => cases (everywhere_iff.1 restorable.typed).1
        | node head metadata slots => cases noKind

end Tree

end Folio
