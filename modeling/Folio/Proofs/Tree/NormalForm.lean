import Folio.Proofs.Tree.Decoded
import Folio.Proofs.Tree.RoundTrip

/-!
# Normal forms of encoded trees

Many values encode one tree: fields can be left out, stand in any order, and a timestamp has
several spellings. The value that the encoder writes for a tree is its normal form. It is
decoded to the tree it was written for, whatever nodes the tree has at which places, so the
decoder loses nothing; and since all that the decoder yields is typed, encoding what was decoded
brings every accepted value into normal form in one step.
-/

namespace Folio.Tree

/-- The value is the encoded form of the tree that it encodes. -/
def IsNormal (value : Json) : Prop :=
  ∃ tree, decode value = .ok tree ∧ tree.encodeChecked = .ok value

/-- A tree that can be restored is encoded, with different names in every object, and decoded
from that. -/
theorem Restorable.encodes {tree : Tree} (restorable : tree.Restorable) :
    tree.encodeChecked = .ok tree.encode ∧ tree.encode.Distinct ∧
      decode tree.encode = .ok tree := by
  obtain ⟨typed, readable⟩ := restorable
  refine ⟨?_, encode_distinct typed readable, decode_encode typed readable⟩
  rw [encodeChecked, strays_eq_nil typed]

/-- Every typed tree is decoded from its encoded form, if its timestamps are read back from their
texts. Every tree that is decoded is typed, and its encoded form is a normal form that decodes to
it, whichever value it was decoded from. -/
theorem codec_normalizes :
    (∀ tree : Tree, tree.Typed → tree.Everywhere HasReadableTime →
      ∃ value, tree.encodeChecked = .ok value ∧ value.Distinct ∧ decode value = .ok tree) ∧
    ∀ (value : Json) (tree : Tree), value.Distinct → decode value = .ok tree →
      tree.Typed ∧ ∃ normal, tree.encodeChecked = .ok normal ∧ normal.Distinct ∧
        decode normal = .ok tree ∧ IsNormal normal := by
  refine ⟨fun tree typed readable => ?_, fun value tree distinct decoded => ?_⟩
  · exact ⟨_, Restorable.encodes ⟨typed, readable⟩⟩
  · have restorable := (decode_restorable distinct).1 tree decoded
    obtain ⟨encoded, names, decodes⟩ := restorable.encodes
    exact ⟨restorable.typed, _, encoded, names, decodes, tree, decodes, encoded⟩

/-- A section whose title is a document, with a figure that has text in both descriptions. -/
def nestedDocument : Tree :=
  .node (.section (.text "s")) [("k", .obj [("n", .int 1), ("a", .arr [])])]
    [.one (.node (.document
        { keywords := ["x", ""], createdOn := some ⟨2024, 2, 29, 0, 0, 0, 5, none⟩ })
        [] [.many []]),
      .many [.node .figure [] [.one (.node (.image "i.png" "alt") [] []), .many [ofText "c"]]]]

/-- A document with its tag in the last place, an unusual timestamp, the parts of a definition in
the wrong order, and a figure and a section without anything of their own. -/
def looseDocument : Json :=
  .obj
    [("created_on", .str "20240229 2359Z"),
      ("children", .arr
        [.obj
          [("definition", .obj [("text", .str "d"), ("node_type", .str "text")]),
            ("node_type", .str "definition"), ("term", .obj [("node_type", .str "section")])],
          .obj [("node_type", .str "figure"), ("metadata", .obj [])]]),
      ("node_type", .str "document")]

/-- The tree that the loose document encodes. -/
def tidyDocument : Tree :=
  .node (.document { createdOn := some ⟨2024, 2, 29, 23, 59, 0, 0, some 0⟩ }) []
    [.many
      [.node .definition [] [.one (ofSection (ofText "") []), .one (ofText "d")],
        .node .figure [] [.one (.node (.image "" "") [] []), .many []]]]

/-- A typed document is decoded from its encoded form. A loose value is decoded to a tidy document,
whose encoded form is the normal one. -/
theorem codec_normalizes_loose :
    (nestedDocument.Typed ∧ nestedDocument.Everywhere HasReadableTime ∧
      ∃ value, nestedDocument.encodeChecked = .ok value ∧ value.Distinct ∧
        decode value = .ok nestedDocument) ∧
    looseDocument.Distinct ∧ decode looseDocument = .ok tidyDocument ∧ tidyDocument.Typed ∧
    ¬IsNormal looseDocument ∧ ∃ normal, tidyDocument.encodeChecked = .ok normal ∧
      normal.Distinct ∧ decode normal = .ok tidyDocument ∧ IsNormal normal := by
  have typed : nestedDocument.Typed := by decide +kernel
  have readable : nestedDocument.Everywhere HasReadableTime := by decide +kernel
  have distinct : looseDocument.Distinct := by decide +kernel
  have decoded : decode looseDocument = .ok tidyDocument := by rfl
  obtain ⟨restores, normalizes⟩ := codec_normalizes
  obtain ⟨tidy, normal, encoded, names, decodes, isNormal⟩ :=
    normalizes looseDocument tidyDocument distinct decoded
  refine ⟨⟨typed, readable, restores nestedDocument typed readable⟩, distinct, decoded, tidy,
    ?_, normal, encoded, names, decodes, isNormal⟩
  rintro ⟨tree, again, loose⟩
  obtain rfl := Except.ok.inj (decoded.symm.trans again)
  rw [encoded] at loose
  obtain rfl := Except.ok.inj loose
  have tagFirst := Except.ok.inj
    ((Restorable.encodes ⟨tidy, by decide +kernel⟩).1.symm.trans encoded)
  rw [tidyDocument, encode_node, looseDocument] at tagFirst
  simp [tagField] at tagFirst

end Folio.Tree
