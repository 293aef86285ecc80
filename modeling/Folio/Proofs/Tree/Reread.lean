import Folio.Proofs.Tree.Grammar
import Folio.Proofs.Tree.RoundTrip

/-!
# Trees read again from their texts

A tree may hold doubles, in its metadata. What its text is read as has these read again, so it
need not be the tree; but it follows the grammar of encoded trees just as well, since metadata
may be any object. So every document with a text is accepted again.
-/

namespace Folio.Tree

open Json (reread rereadItems_eq rereadMembers rereadMembers_eq)

/-- A name has its value read again. -/
theorem get?_reread (members : Json.Members) (name : String) :
    Json.Members.get? (rereadMembers members) name = (members.get? name).map reread := by
  rw [Json.Members.get?, rereadMembers_eq, List.find?_map, Json.Members.get?, Option.map_map,
    Option.map_map]
  rfl

mutual

/-- What encodes a tree still does so with its doubles read again. -/
theorem Encodes.reread : ∀ {value : Json}, Encodes value → Encodes value.reread
  | _, @Encodes.node members kind tagged known held complete => by
    refine @Encodes.node _ kind ?_ ?_ ?_ ?_
    · rw [get?_reread, tagged]
      rfl
    · rw [rereadMembers_eq, List.forall_mem_map]
      exact known
    · rw [rereadMembers_eq, List.forall_mem_map]
      exact fun member inside field listed same =>
        (held member inside field listed same).reread
    · rwa [Json.names_rereadMembers]

/-- What a field can hold it still can with its doubles read again. -/
theorem Holds.reread : ∀ {type : FieldType} {value : Json}, Holds type value →
    Holds type value.reread
  | _, _, .text text => .text text
  | _, _, .words words => by
    rw [Json.reread, rereadItems_eq, List.map_map]
    exact .words words
  | _, _, .metadata members => .metadata (rereadMembers members)
  | _, _, .noMoment => .noMoment
  | _, _, .moment reads => .moment reads
  | _, _, .many each => by
    rw [Json.reread, rereadItems_eq]
    exact .many (List.forall_mem_map.2 fun item member => (each item member).reread)
  | _, _, .one encodes => .one encodes.reread

end

/-- A tree that is decoded is of the kind with the tag. -/
theorem kind?_of_decode {members : Json.Members} {kind : Kind} {tree : Tree}
    (tagged : members.get? tagField = some (.str kind.tag))
    (decoded : decode (.obj members) = .ok tree) : tree.kind? = some kind := by
  rw [decode] at decoded
  obtain ⟨other, found, decoded⟩ := bind_eq_ok.1 decoded
  obtain ⟨contents, -, built⟩ := bind_eq_ok.1 decoded
  have same := Option.some.inj ((decodeKind_eq_ok.1 found).1.symm.trans tagged)
  obtain rfl : other = kind := by
    have known := Kind.ofTag?_tag other
    rw [Scalar.text.inj (Json.scalar.inj same), Kind.ofTag?_tag] at known
    exact (Option.some.inj known).symm
  rw [Kind.assemble?] at built
  split at built
  · obtain rfl := Except.ok.inj built
    exact congrArg some (Head.kind_build _ _)
  · cases built

/-- A typed tree whose timestamps are read back has an encoded form that still decodes to a tree
of its kind when its doubles are read again. -/
theorem decode_reread {tree : Tree} (typed : tree.Typed)
    (readable : tree.Everywhere HasReadableTime) :
    ∃ again, decode tree.encode.reread = .ok again ∧ again.kind? = tree.kind? := by
  have distinct := encode_distinct typed readable
  have encodes := (decode_byGrammar distinct).1 ⟨tree, decode_encode typed readable⟩
  obtain ⟨again, decoded⟩ := (decode_byGrammar (Json.distinct_reread distinct)).2 encodes.reread
  refine ⟨again, decoded, ?_⟩
  cases tree with
  | stray value => cases (everywhere_iff.1 typed).1
  | node head metadata slots =>
    rw [encode_node, Json.reread] at decoded
    exact kind?_of_decode (by rw [get?_reread]; rfl) decoded

/-- The text of a typed document whose timestamps are read back, with blanks behind it, is that
of a document. -/
theorem ofJsonText_render {document : Tree} (root : document.kind? = some .document)
    (typed : document.Typed) (readable : document.Everywhere HasReadableTime)
    (indent : Option Int) {after : String} (blank : Json.AllBlank after.toList)
    (ends : Json.EndsNumber after.toList) :
    ∃ again, ofJsonText (document.encode.render indent ++ after) = .ok again := by
  obtain ⟨again, decoded, kind⟩ := decode_reread typed readable
  have parsed := Json.parse_render_reread document.encode indent (encode_distinct typed readable)
    after blank ends
  refine ⟨again, ?_⟩
  rw [ofJsonText, parsed]
  simp only [decoded, kind, root]

end Folio.Tree
