import Folio.Proofs.Json.RoundTrip
import Folio.Proofs.Tree.Codec

/-!
# Documents and their texts

A typed tree has no stray values, so it has a text; what is encoded holds no doubles and
repeats no name, so the text is parsed to it; and it decodes to the tree. Together: a
document is read back from its text, whatever the indentation.
-/

namespace Folio.Tree

/-- Trees without stray values have none together. -/
theorem straysAll_eq_nil {trees : List Tree} (each : ∀ tree ∈ trees, tree.strays = []) :
    straysAll trees = [] := by
  induction trees with
  | nil => rfl
  | cons tree rest hypothesis =>
    obtain ⟨first, others⟩ := List.forall_mem_cons.1 each
    rw [straysAll, first, hypothesis others, List.append_nil]

/-- Nor have slots with such trees. -/
theorem straysSlots_eq_nil {slots : List (Slot Tree)}
    (each : ∀ slot ∈ slots, ∀ tree ∈ slot.toList, tree.strays = []) :
    ∀ found ∈ straysSlots slots, found = [] := by
  induction slots with
  | nil => simp [straysSlots]
  | cons slot rest hypothesis =>
    obtain ⟨first, others⟩ := List.forall_mem_cons.1 each
    cases slot with
    | one tree =>
      rw [straysSlots, List.forall_mem_cons]
      exact ⟨first tree (List.mem_singleton_self tree), hypothesis others⟩
    | many trees =>
      rw [straysSlots, List.forall_mem_cons]
      exact ⟨straysAll_eq_nil first, hypothesis others⟩

/-- A typed tree consists of nodes only. -/
theorem strays_eq_nil {tree : Tree} (typed : tree.Typed) : tree.strays = [] := by
  induction tree using childInduction with
  | step tree below =>
    obtain ⟨here, inside⟩ := everywhere_iff.1 typed
    cases tree with
    | stray value => cases here
    | node head metadata slots =>
      have children : ∀ slot ∈ slots, ∀ tree ∈ slot.toList, tree.strays = [] := by
        intro slot inSlots tree inSlot
        have member := List.mem_flatMap.2 ⟨slot, inSlots, inSlot⟩
        exact below tree member (inside tree member)
      rw [strays, List.flatMap_eq_nil_iff]
      intro field _
      cases found : (head.kind.slots.zip (straysSlots slots)).find? fun entry =>
          entry.1.name == field.name with
      | none => rfl
      | some entry =>
        have member := (List.of_mem_zip (List.mem_of_find?_eq_some found)).2
        exact straysSlots_eq_nil children _ member

/-- A test that no text, list or empty value fails is passed by the encoded form of an attribute
that fits its field. -/
theorem all_encode_attribute {test : Json → Bool} (null : test .null = true)
    (str : ∀ text, test (.str text) = true) (arr : ∀ items, test (.arr items) = true)
    {value : Attribute} {type : FieldType} (fits : value.Fits type) :
    value.encode.all test = true := by
  cases value with
  | scalar value =>
    cases value with
    | text text => exact str text
    | _ => cases type <;> cases fits
  | words values =>
    simp [Attribute.encode, Json.all, arr, Json.allItems_iff, str]
  | moment time? =>
    cases time? with
    | none => exact null
    | some time => exact str time.text

/-- The names in an encoded node differ. -/
theorem encodedNames_nodup (head : Head) (metadata : Json.Members) (slots : List (Slot Tree)) :
    (((tagField, .str head.kind.tag) :: (fieldContents head metadata slots).map fun entry =>
      (entry.1, entry.2.encode) : Json.Members).map (·.1)).Nodup := by
  rw [List.map_cons, List.map_map, List.nodup_cons]
  refine ⟨fun member => ?_, fieldContents_nodup head metadata slots⟩
  obtain ⟨field, inFields, name⟩ :=
    List.mem_map.1 ((fieldContents_sublist head metadata slots).subset member)
  have known := Kind.field?_of_mem inFields
  rw [name, Kind.field?_tagField] at known
  cases known

/-- A test is passed by what a node adds to its encoded form: by the object itself, its tag, its
attributes and its metadata; by a stray value it is passed as a whole. -/
def EncodesWith (test : Json → Bool) : Tree → Prop
  | .node head metadata slots =>
    test (encode (.node head metadata slots)) = true ∧ test (.str head.kind.tag) = true ∧
      (∀ entry ∈ head.attributes, entry.2.encode.all test = true) ∧
      (Json.obj metadata).all test = true
  | .stray value => value.all test = true

/-- Everything in the encoded form of a tree passes a test that lists of children pass, if all that
the nodes add does. -/
theorem all_encode {test : Json → Bool} (arr : ∀ items, test (.arr items) = true) {tree : Tree}
    (parts : tree.Everywhere (EncodesWith test)) : tree.encode.all test = true := by
  induction tree using childInduction with
  | step tree below =>
    obtain ⟨here, inside⟩ := everywhere_iff.1 parts
    cases tree with
    | stray value => exact here
    | node head metadata slots =>
      obtain ⟨own, tag, attributes, members⟩ := here
      have children : ∀ slot ∈ slots, ∀ tree ∈ slot.toList, tree.encode.all test = true := by
        intro slot inSlots tree inSlot
        have member := List.mem_flatMap.2 ⟨slot, inSlots, inSlot⟩
        exact below tree member (inside tree member)
      have contents : ∀ entry ∈ fieldContents head metadata slots,
          entry.2.encode.all test = true := by
        rintro ⟨name, content⟩ member
        obtain ⟨field, inFields, rfl, stands⟩ := mem_fieldContents _ _ _ member
        obtain ⟨slot, inZip, rfl⟩ | ⟨type, rfl⟩ | ⟨value, listed, rfl⟩ :=
          fieldContent?_cases inFields stands
        · have inSlot := children slot (List.of_mem_zip inZip).2
          cases slot with
          | one tree => exact inSlot tree (List.mem_singleton_self tree)
          | many trees =>
            rw [Content.encode, encodeAll_eq, Json.all, arr, Bool.true_and, Json.allItems_iff,
              List.forall_mem_map]
            exact inSlot
        · exact members
        · exact attributes _ listed
      rw [encode_node] at own ⊢
      rw [Json.all, own, Bool.true_and, Json.allMembers_iff, List.forall_mem_cons,
        List.forall_mem_map]
      exact ⟨tag, contents⟩

/-- What a typed tree adds passes a test that asks nothing but that the names in an object differ,
if the metadata pass it. -/
theorem encodesWith_of_typed {test : Json → Bool} (null : test .null = true)
    (str : ∀ text, test (.str text) = true) (arr : ∀ items, test (.arr items) = true)
    (obj : ∀ members : Json.Members, (members.map (·.1)).Nodup → test (.obj members) = true)
    {tree : Tree} (typed : tree.IsTyped) (readable : tree.HasReadableTime)
    (metadata : ∀ head metadata slots, tree = .node head metadata slots →
      (Json.obj metadata).all test = true) : tree.EncodesWith test := by
  cases tree with
  | stray value => cases typed
  | node head members slots =>
    refine ⟨?_, str head.kind.tag, fun entry listed => ?_, metadata head members slots rfl⟩
    · rw [encode_node]
      exact obj _ (encodedNames_nodup head members slots)
    · obtain ⟨other, -, fits⟩ := Head.attributes_fit typed.references readable _ listed
      exact all_encode_attribute null str arr fits

/-- The names in the encoded form of a typed tree differ, at any depth. -/
theorem encode_distinct {tree : Tree} (typed : tree.Typed)
    (readable : tree.Everywhere HasReadableTime) : tree.encode.Distinct := by
  refine all_encode (fun _ => rfl) fun visited met => ?_
  refine encodesWith_of_typed rfl (fun _ => rfl) (fun _ => rfl)
    (fun _ differ => decide_eq_true differ) (typed _ met) (readable _ met) ?_
  rintro head metadata slots rfl
  exact (typed _ met).names

/-- A typed tree is encoded without doubles and with distinct names, if its metadata hold no
doubles. -/
theorem encode_exact_distinct {tree : Tree} (typed : tree.Typed)
    (exact : tree.Everywhere HasExactMetadata) (readable : tree.Everywhere HasReadableTime) :
    tree.encode.Exact ∧ tree.encode.Distinct := by
  refine ⟨all_encode (fun _ => rfl) fun visited met => ?_, encode_distinct typed readable⟩
  refine encodesWith_of_typed rfl (fun _ => rfl) (fun _ => rfl) (fun _ _ => rfl) (typed _ met)
    (readable _ met) ?_
  rintro head metadata slots rfl
  exact exact _ met

/-- A typed document has a text, whatever the indentation, and is read back from it: provided that
its metadata hold no doubles and that its timestamps are read back from theirs. -/
theorem ofJsonText_toJsonText (document : Tree) (root : document.kind? = some .document)
    (typed : document.Typed) (exact : document.Everywhere HasExactMetadata)
    (readable : document.Everywhere HasReadableTime) (indent : Option Int) :
    ∃ text, document.toJsonText indent = .ok text ∧ ofJsonText text = .ok document := by
  obtain ⟨encodedExact, encodedDistinct⟩ := encode_exact_distinct typed exact readable
  refine ⟨document.encode.render indent, ?_, ?_⟩
  · rw [toJsonText, encodeChecked, strays_eq_nil typed]
    rfl
  · rw [ofJsonText, Json.parse_render _ _ encodedExact encodedDistinct]
    simp only [decode_encode typed readable, root]

/-- A document with escapes, a timestamp, nested metadata, an empty list and a definition. -/
def annotatedNotes : Tree :=
  .node
    (.document
      { title := "Notes \"one\"\\\x01\n", keywords := ["", "k"],
        createdOn := some ⟨2024, 2, 29, 23, 59, 0, 5, some (-19800000000)⟩ })
    []
    [.many
      [.node (.section (.text "s"))
        [("z", .arr []), ("a", .obj [("n", .int (-12345678901234567890)), ("e", .obj [])])]
        [.one (ofText "T" [("k", .null)]),
          .many [.node .definition [] [.one (ofText "x"), .one (internalLink (.text "s") [])]]]]]

/-- The document with all of these is read back from its text. -/
theorem ofJsonText_annotatedNotes :
    annotatedNotes.kind? = some .document ∧ annotatedNotes.Typed ∧
      annotatedNotes.Everywhere HasExactMetadata ∧ annotatedNotes.Everywhere HasReadableTime ∧
      ∃ text, annotatedNotes.toJsonText (some (-1)) = .ok text ∧
        ofJsonText text = .ok annotatedNotes :=
  ⟨rfl, by decide +kernel, by decide +kernel, by decide +kernel,
    ofJsonText_toJsonText annotatedNotes rfl (by decide +kernel) (by decide +kernel)
      (by decide +kernel) (some (-1))⟩

end Folio.Tree
