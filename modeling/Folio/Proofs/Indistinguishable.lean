import Folio.Proofs.Contents.Congruence
import Folio.Proofs.References.Shape

/-!
# Trees that compare equal cannot be told apart

Comparison leaves metadata out. Every other operation reads trees that compare equal in step:
their texts are the same, the nodes collected from them compare equal pair by pair, runs that
give references leave trees behind that compare equal again, and tables of contents are either
refused for the same cause or compare equal.
-/

namespace Folio

open References Contents

namespace Tree

/-- Well-shaped trees alike compare equal. -/
theorem Alike.equal {left right : Tree} (alike : Alike left right) (leftShaped : left.Shaped)
    (rightShaped : right.Shaped) : left.equal right = .ok true :=
  (equal_iff ⟨left, leftShaped⟩ ⟨right, rightShaped⟩).2 alike

/-- What is collected from a well-shaped tree is well-shaped. -/
theorem shaped_of_mem_collect {tree visited : Tree} (shaped : tree.Shaped)
    {categories : List Category} (member : visited ∈ tree.collect categories) :
    visited.Shaped :=
  shaped.of_mem (List.mem_of_mem_filter member)

/-- The nodes collected from well-shaped trees alike compare equal, pair by pair. -/
theorem Alike.collect_equal {left right : Tree} (alike : Alike left right)
    (leftShaped : left.Shaped) (rightShaped : right.Shaped) (categories : List Category) :
    List.Forall₂ (fun first second => first.equal second = .ok true)
      (left.collect categories) (right.collect categories) := by
  have pairs := alike.collect categories
  refine List.forall₂_iff_zip.2 ⟨pairs.length_eq, fun {first second} pair => ?_⟩
  obtain ⟨inLeft, inRight⟩ := List.of_mem_zip pair
  exact (List.forall₂_zip pairs pair).equal (shaped_of_mem_collect leftShaped inLeft)
    (shaped_of_mem_collect rightShaped inRight)

/-- Trees that compare equal have the same text, and nodes collected from them compare equal
pair by pair. Runs with the same options meet the same fault, if any, and give their sections
the same references; what they leave behind compares equal, provided that the fallback for
titles without words is a text, as references are. Tables of contents are refused for the same
cause, or both are built and compare equal. -/
theorem equal_indistinguishable (left right : ShapedTree)
    (same : left.1.equal right.1 = .ok true) :
    left.1.text = right.1.text ∧
    (∀ categories : List Category,
      List.Forall₂ (fun first second => first.equal second = .ok true)
        (left.1.collect categories) (right.1.collect categories)) ∧
    (∀ options : ReferenceOptions,
      (assign options left.1).fault = (assign options right.1).fault ∧
      (assign options left.1).tree.references = (assign options right.1).tree.references ∧
      ((∃ fallback : String, options.fallbackSlug = .text fallback) →
        (assign options left.1).tree.equal (assign options right.1).tree = .ok true)) ∧
    ∀ options : ContentsOptions,
      (∃ cause, (build options left.1).value = .error cause ∧
        (build options right.1).value = .error cause) ∨
      ∃ first second, (build options left.1).value = .ok first ∧
        (build options right.1).value = .ok second ∧ first.equal second = .ok true := by
  have alike := (equal_iff left right).1 same
  refine ⟨alike.text_eq, alike.collect_equal left.2 right.2, fun options => ?references,
    fun options => ?contents⟩
  case references =>
    obtain ⟨after, faults⟩ := assign_alike options alike
    refine ⟨faults, after.references_eq, fun texts => ?_⟩
    exact after.equal (shaped_assign texts left.2) (shaped_assign texts right.2)
  case contents =>
    rcases build_congr options (entries_alike options alike) with refused | ⟨first, second⟩
    · exact .inl refused
    · exact .inr ⟨_, _, first, second, (table_alike options alike).equal
        (shaped_table options 0 left.2) (shaped_table options 0 right.2)⟩

/-- A document whose sections have one title and no references yet, with some metadata on the
words of the first. -/
def twoNotes (metadata : Json.Members) : Tree :=
  .node (.document {}) [] [.many
    [ofSection (ofText "Note" metadata) [], ofSection (ofText "Note") []]]

/-- A remark in the metadata changes nothing: the sections of both documents get the same two
references, and the tables of contents compare equal. -/
theorem equal_indistinguishable_remark :
    let left := twoNotes []
    let right := twoNotes [("remark", .str "check this")]
    left.Shaped ∧ right.Shaped ∧ left.equal right = .ok true ∧ left.text = right.text ∧
    (assign {} left).tree.references = [.text "note", .text "note-2"] ∧
    (assign {} right).tree.references = [.text "note", .text "note-2"] ∧
    (assign {} left).tree.equal (assign {} right).tree = .ok true ∧
    ∃ first second, (build {} left).value = .ok first ∧ (build {} right).value = .ok second ∧
      first.equal second = .ok true := by
  intro left right
  have leftShaped : left.Shaped := by decide
  have rightShaped : right.Shaped := by decide
  have alike : Alike left right :=
    .node (.same _) (.cons (.many (.cons (.node (.same _)
      (.cons (.one (.node (.same _) .nil)) (.cons (.many .nil) .nil)))
      (.cons (.refl (by decide)) .nil))) .nil)
  have same := alike.equal leftShaped rightShaped
  obtain ⟨texts, _, runs, tables⟩ :=
    equal_indistinguishable ⟨left, leftShaped⟩ ⟨right, rightShaped⟩ same
  obtain ⟨_, references, equalAfter⟩ := runs {}
  have given : (assign {} left).tree.references = [.text "note", .text "note-2"] := by rfl
  refine ⟨leftShaped, rightShaped, same, texts, given, references ▸ given,
    equalAfter ⟨_, rfl⟩, ?_⟩
  rcases tables {} with ⟨cause, refused, _⟩ | built
  · cases refused
  · exact built

end Tree

end Folio
