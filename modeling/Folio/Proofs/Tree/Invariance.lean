import Folio.CommandLine.Report
import Folio.Proofs.Tree.Relabelling
import Folio.Proofs.Tree.Typed
import Folio.Tree.Validation

/-!
# What does not depend on references

Validation reads the kinds of nodes only, and collected rows read no references. So two trees
that agree without references have the same violations and the same rows; and apart from
references being texts, one is typed if the other is.
-/

namespace Folio.Tree

section Validation

variable {change : Head → Head} (keeps : ∀ head, (change head).kind = head.kind)

include keeps

/-- Where kinds stay, categories stay. -/
theorem isA_mapHeads (category : Category) (tree : Tree) :
    (mapHeads change tree).isA category = tree.isA category := by
  cases tree with
  | stray value => rfl
  | node head metadata slots => rw [mapHeads, isA, isA, keeps]

/-- Where kinds stay, so do the words for them. -/
theorem typeName_mapHeads (tree : Tree) : (mapHeads change tree).typeName = tree.typeName := by
  cases tree with
  | stray value => rfl
  | node head metadata slots => rw [mapHeads, typeName, typeName, keeps]

/-- The kind of the root stays. -/
theorem kind?_mapHeads (tree : Tree) : (mapHeads change tree).kind? = tree.kind? := by
  cases tree with
  | stray value => rfl
  | node head metadata slots => rw [mapHeads, kind?, kind?, keeps]

/-- A check of a place reads kinds only. -/
theorem checkPlace_mapHeads (strict : Bool) (path : String) (category : Category)
    (found : List Violation) (tree : Tree) :
    checkPlace strict path category found (mapHeads change tree) =
      checkPlace strict path category found tree := by
  rw [checkPlace, checkPlace, isA_mapHeads keeps, typeName_mapHeads keeps]

mutual

/-- A check reads kinds only. -/
theorem check_mapHeads (strict : Bool) (path : String) (found : List Violation) :
    ∀ tree : Tree, check strict path found (mapHeads change tree) = check strict path found tree
  | .stray value => rfl
  | .node head metadata slots => by
    rw [mapHeads, check, check, keeps, checkSlots_mapHeads strict path found _ slots]

/-- So does a check of slots. -/
theorem checkSlots_mapHeads (strict : Bool) (path : String) (found : List Violation) :
    ∀ (fields : List Field) (slots : List (Slot Tree)),
      checkSlots strict path found fields (mapHeadsSlots change slots) =
        checkSlots strict path found fields slots
  | [], slots => by
    cases slots with
    | nil => rfl
    | cons slot rest => cases slot <;> simp [mapHeadsSlots, checkSlots]
  | field :: fields, [] => rfl
  | field :: fields, .one tree :: rest => by
    have here := fun place before => check_mapHeads strict place before tree
    have later := fun before => checkSlots_mapHeads strict path before fields rest
    simp only [mapHeadsSlots, checkSlots, here, later, checkPlace_mapHeads keeps,
      isA_mapHeads keeps, typeName_mapHeads keeps]
  | field :: fields, .many trees :: rest => by
    have here := fun place category before =>
      checkItems_mapHeads strict place category 0 before trees
    have later := fun before => checkSlots_mapHeads strict path before fields rest
    simp only [mapHeadsSlots, checkSlots, here, later]

/-- So does a check of a list. -/
theorem checkItems_mapHeads (strict : Bool) (path : String) (category : Category) (index : Nat)
    (found : List Violation) :
    ∀ trees : List Tree,
      checkItems strict path category index found (mapHeadsAll change trees) =
        checkItems strict path category index found trees
  | [] => rfl
  | tree :: rest => by
    have here := fun place before => check_mapHeads strict place before tree
    have later := fun before =>
      checkItems_mapHeads strict path category (index + 1) before rest
    simp only [mapHeadsAll, checkItems, here, later, checkPlace_mapHeads keeps,
      isA_mapHeads keeps]

end

/-- Where kinds stay, violations stay. -/
theorem firstViolation?_mapHeads (tree : Tree) :
    (mapHeads change tree).firstViolation? = tree.firstViolation? := by
  rw [firstViolation?, firstViolation?, check_mapHeads keeps, rootPath, rootPath,
    kind?_mapHeads keeps, typeName_mapHeads keeps]

end Validation

/-- References have no influence on violations. -/
theorem firstViolation?_withoutReferences (tree : Tree) :
    tree.withoutReferences.firstViolation? = tree.firstViolation? :=
  firstViolation?_mapHeads Head.kind_withoutReference tree

/-- Nodes are collected by their kinds. -/
theorem collect_withoutReferences (categories : List Category) (tree : Tree) :
    tree.withoutReferences.collect categories =
      (tree.collect categories).map withoutReferences := by
  rw [collect, collectWhere, collect, collectWhere, withoutReferences, preorder_mapHeads,
    List.filter_map]
  congr 1
  refine List.filter_congr fun visited _ => ?_
  simp only [Function.comp_apply, isA_mapHeads Head.kind_withoutReference]

/-- A condition that no reference changes holds everywhere in a tree if it holds everywhere in
the tree without references. -/
theorem everywhere_withoutReferences {condition : Tree → Prop}
    (unchanged : ∀ tree : Tree, condition tree.withoutReferences ↔ condition tree) (tree : Tree) :
    tree.withoutReferences.Everywhere condition ↔ tree.Everywhere condition := by
  rw [Everywhere, Everywhere, withoutReferences, preorder_mapHeads, List.forall_mem_map]
  exact forall₂_congr fun visited _ => unchanged visited

/-- References are no metadata. -/
theorem hasExactMetadata_withoutReferences (tree : Tree) :
    tree.withoutReferences.HasExactMetadata ↔ tree.HasExactMetadata := by
  cases tree with
  | stray value => rfl
  | node head metadata slots => rfl

/-- References are no timestamps. -/
theorem hasReadableTime_withoutReferences (tree : Tree) :
    tree.withoutReferences.HasReadableTime ↔ tree.HasReadableTime := by
  cases tree with
  | stray value => rfl
  | node head metadata slots => cases head <;> rfl

/-- A slot without references is a list if it was one. -/
theorem isList_mapHeadsSlots (change : Head → Head) (slots : List (Slot Tree)) :
    (mapHeadsSlots change slots).map Slot.isList = slots.map Slot.isList := by
  rw [mapHeadsSlots_eq, List.map_map]
  refine List.map_congr_left fun slot _ => ?_
  cases slot <;> rfl

/-- A node is typed if it is so without its reference, which is a text if it is a section. -/
theorem isTyped_iff (tree : Tree) :
    tree.IsTyped ↔
      tree.withoutReferences.IsTyped ∧
        (tree.isA (.of .section) = true → tree.reference.isText = true) := by
  cases tree with
  | stray value => simp [IsTyped, withoutReferences, mapHeads]
  | node head metadata slots =>
    have layout := isList_mapHeadsSlots Head.withoutReference slots
    rw [isA_section]
    constructor
    · intro typed
      refine ⟨⟨?_, ?_, ?_, typed.names⟩, ?_⟩
      · cases head <;> first | exact typed.references | rfl
      · rw [layout, Head.kind_withoutReference]
        exact typed.layout
      · rw [Head.kind_withoutReference]
        exact typed.declared
      · intro isSection
        cases head with
        | «section» reference => exact typed.references
        | _ => simp [kind?, Head.kind] at isSection
    · rintro ⟨typed, text⟩
      have typed : NodeTyped head.withoutReference metadata
          (mapHeadsSlots Head.withoutReference slots) := typed
      have declared := typed.declared
      have sameLayout := typed.layout
      rw [layout] at sameLayout
      rw [Head.kind_withoutReference] at declared sameLayout
      refine ⟨?_, sameLayout, declared, typed.names⟩
      cases head with
      | «section» reference => exact text rfl
      | _ => exact typed.references

/-- A condition that asks of references only what it asks of each of them by itself holds everywhere
in a tree if it does without references, and all of them are as it asks. -/
theorem everywhere_iff_references {condition : Tree → Prop} {holds : Scalar → Prop}
    (apart : ∀ tree : Tree, condition tree ↔ condition tree.withoutReferences ∧
      (tree.isA (.of .section) = true → holds tree.reference)) (tree : Tree) :
    tree.Everywhere condition ↔ tree.withoutReferences.Everywhere condition ∧
      ∀ reference ∈ tree.references, holds reference := by
  have sections : ∀ reference : Scalar, reference ∈ tree.references ↔
      ∃ visited ∈ tree.preorder, visited.isA (.of .section) = true ∧
        visited.reference = reference := by
    intro reference
    simp [references, Tree.sections, collect, collectWhere, and_assoc]
  have without : tree.withoutReferences.Everywhere condition ↔
      ∀ visited ∈ tree.preorder, condition visited.withoutReferences := by
    rw [Everywhere, withoutReferences, preorder_mapHeads, List.forall_mem_map]
    rfl
  rw [without]
  constructor
  · intro everywhere
    refine ⟨fun visited met => ((apart visited).1 (everywhere visited met)).1,
      fun reference listed => ?_⟩
    obtain ⟨visited, met, isSection, rfl⟩ := (sections reference).1 listed
    exact ((apart visited).1 (everywhere visited met)).2 isSection
  · rintro ⟨rest, each⟩ visited met
    refine (apart visited).2 ⟨rest visited met, fun isSection => ?_⟩
    exact each _ ((sections _).2 ⟨visited, met, isSection, rfl⟩)

/-- A tree is typed if it is so without references, and these are texts. -/
theorem typed_iff (tree : Tree) :
    tree.Typed ↔
      tree.withoutReferences.Typed ∧ ∀ reference ∈ tree.references, reference.isText = true :=
  everywhere_iff_references isTyped_iff tree

end Folio.Tree

namespace Folio.CommandLine

open Folio.Tree

/-- A structural field holds the same without references. -/
theorem contentsOf_withoutReferences (name : String) (tree : Tree) :
    contentsOf name tree.withoutReferences = (contentsOf name tree).map withoutReferences := by
  cases tree with
  | stray value => rfl
  | node head metadata slots =>
    have found : (node head metadata slots).withoutReferences.slot? name =
        ((node head metadata slots).slot? name).map (Slot.map withoutReferences) := by
      rw [withoutReferences, mapHeads, mapHeadsSlots_eq, slot?, slot?,
        Head.kind_withoutReference, List.zip_map_right, List.find?_map, Option.map_map,
        Option.map_map]
      rfl
    rw [contentsOf, contentsOf, found]
    cases (node head metadata slots).slot? name with
    | none => rfl
    | some slot => simp

/-- The row of a figure shows no references. -/
theorem figureRow_withoutReferences (figure : Tree) :
    figureRow figure.withoutReferences = figureRow figure := by
  have caption : (contentsOf "description" figure.withoutReferences).map Tree.text =
      (contentsOf "description" figure).map Tree.text := by
    rw [contentsOf_withoutReferences, List.map_map]
    exact List.map_congr_left fun tree _ => text_withoutReferences tree
  rw [figureRow, figureRow, caption, contentsOf_withoutReferences]
  congr 1
  cases contentsOf "image" figure with
  | nil => rfl
  | cons image others =>
    cases image with
    | stray value => rfl
    | node head metadata slots => cases head <;> rfl

/-- Nor does that of a table. -/
theorem tableRow_withoutReferences (index : Nat) (table : Tree) :
    tableRow index table.withoutReferences = tableRow index table := by
  rw [tableRow, tableRow, contentsOf_withoutReferences, List.length_map]

/-- Nor does that of a link. -/
theorem linkRow_withoutReferences (link : Tree) :
    linkRow link.withoutReferences = linkRow link := by
  have label := text_withoutReferences link
  cases link with
  | stray value => rfl
  | node head metadata slots =>
    cases head <;> simp only [linkRow, label] <;> rfl

/-- No row reads references. -/
theorem rows_withoutReferences (kind : Collected) (document : Tree) :
    kind.rows document.withoutReferences = kind.rows document := by
  cases kind with
  | figures =>
    rw [Collected.rows, Collected.rows, figures, collect_withoutReferences, List.map_map]
    exact List.map_congr_left fun figure _ => figureRow_withoutReferences figure
  | tables =>
    refine List.ext_getElem ?_ fun index inside inside' => ?_
    · simp [Collected.rows, tables, collect_withoutReferences]
    · simp [Collected.rows, tables, collect_withoutReferences, tableRow_withoutReferences]
  | links =>
    rw [Collected.rows, Collected.rows, webLinks, collect_withoutReferences, List.map_map]
    exact List.map_congr_left fun link _ => linkRow_withoutReferences link

end Folio.CommandLine
