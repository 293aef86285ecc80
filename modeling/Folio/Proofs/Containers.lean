import Folio.Proofs.Contents.Wrapping
import Folio.Proofs.References.Wrapping

/-!
# Containers are transparent

A content node that only holds other nodes has no influence on what is derived from a document:
its text, the references that its sections get, its table of contents and what is collected from
it. Each of the laws holds for one container more, and so for trees that differ in any number of
them.
-/

namespace Folio

open References Contents

namespace Tree

/-- Trees that differ in containers only have the same text. Runs with the same options meet the
same fault, if any, and give their sections the same references, one after another. With the
same options their tables of contents are equal, or refused for the same cause, and so they are
after runs. The figures, tables and links to the web collected from them differ in containers
only, one by one. -/
theorem containers_transparent {left right : Tree} (same : SameButContainers left right) :
    left.text = right.text ∧
    (∀ options : ReferenceOptions,
      (assign options left).tree.references = (assign options right).tree.references ∧
      (assign options left).fault = (assign options right).fault) ∧
    (∀ options : ContentsOptions,
      (build options left).value = (build options right).value ∧
      ∀ before : ReferenceOptions,
        (build options (assign before left).tree).value =
          (build options (assign before right).tree).value) ∧
    List.Forall₂ SameButContainers left.figures right.figures ∧
    List.Forall₂ SameButContainers left.tables right.tables ∧
    List.Forall₂ SameButContainers left.webLinks right.webLinks := by
  refine ⟨same.eq_of fun _ _ wraps => wraps.text_eq, fun options => ⟨?references, ?fault⟩,
    fun options => ⟨?contents, fun before => ?later⟩,
    same.collect (by decide), same.collect (by decide), same.collect (by decide)⟩
  case references =>
    exact same.eq_of fun _ _ wraps => (assign_wraps options wraps).1.references_eq
  case fault =>
    exact same.eq_of fun _ _ wraps => (assign_wraps options wraps).2
  case contents =>
    exact same.eq_of fun _ _ wraps => build_wraps options wraps
  case later =>
    exact same.eq_of fun _ _ wraps => build_wraps options (assign_wraps before wraps).1

/-- A document with these children. -/
def documentOf (children : List Tree) : Tree := .node (.document {}) [] [.many children]

/-- Two sections with one title, the second one inside of two containers, and an empty container
behind them: the references and the table are those of the two sections alone. -/
theorem containers_transparent_layers :
    let section' := ofSection (ofText "Note") []
    let plain := documentOf [section', section']
    let layered := documentOf [wrapper [] [section', wrapper [] [section']], wrapper [] []]
    SameButContainers plain layered ∧ plain.text = layered.text ∧
    (assign {} layered).tree.references = [.text "note", .text "note-2"] ∧
    (build {} (assign {} plain).tree).value = (build {} (assign {} layered).tree).value := by
  intro section' plain layered
  have outer : Wraps plain (documentOf [wrapper [] [section', section']]) :=
    .of_list [] (by decide) (.run [] [section', section'] [] [])
  have inner : Wraps (wrapper [] [section', section'])
      (wrapper [] [section', wrapper [] [section']]) :=
    .of_list [] (by decide) (.run [section'] [section'] [] [])
  have around : Wraps (documentOf [wrapper [] [section', section']])
      (documentOf [wrapper [] [section', wrapper [] [section']]]) :=
    .of_list [] (by decide) (.many [] [] inner)
  have empty : Wraps (documentOf [wrapper [] [section', wrapper [] [section']]]) layered :=
    .of_list [] (by decide) (.run [wrapper [] [section', wrapper [] [section']]] [] [] [])
  have same : SameButContainers plain layered :=
    .trans _ _ _ (.rel _ _ outer) (.trans _ _ _ (.rel _ _ around) (.rel _ _ empty))
  obtain ⟨texts, runs, tables, _⟩ := containers_transparent same
  have given : (assign {} plain).tree.references = [.text "note", .text "note-2"] :=
    (assign_give ReferenceOptions.wellTyped_default plain).1.trans rfl
  exact ⟨same, texts, (runs {}).1 ▸ given, (tables {}).2 {}⟩

end Tree

end Folio
