import Folio.Proofs.Building.Readings
import Folio.Proofs.Signature

/-!
# What factories build

A factory that is given what it takes builds a well-formed node of its kind, with the words of
its arguments, in order, as the text. The entries of lists and rows are laid out one for each
argument.
-/

namespace Folio.Building

open Folio.Tree (Stands Fill)

section Taken

variable {bound : Bound Reading} {test : Role → Bool}

/-- A test that the role under a name passes is one of a reading under that name. -/
theorem exists_given {name : String}
    (given : ((bound.map Reading.role).get? name).any test = true) :
    ∃ reading, bound.get? name = some reading ∧ test reading.role = true := by
  rw [Bound.get?_map] at given
  cases found : bound.get? name with
  | none => simp [found] at given
  | some reading => exact ⟨reading, rfl, by simpa [found] using given⟩

/-- A test that all roles behind the named ones pass is one of all readings there. -/
theorem forall_rest (all : (bound.map Reading.role).rest.all test = true) :
    ∀ reading ∈ bound.rest, test reading.role = true := by
  rw [Bound.rest_map, List.all_map] at all
  exact List.all_eq_true.1 all

end Taken

/-- The slot of an argument that stands where a node is wanted. -/
theorem slot_of_isInline {reading : Reading} (isInline : reading.role.isInline = true) :
    reading.argument.slot = .one reading.argument.node := by
  rcases reading.inline_cases isInline with isText | ⟨tree, isTree, -⟩
  · rw [isText]
    rfl
  · rw [isTree]
    rfl

/-- A pair is a term and its definition. -/
theorem asDefinition_pair {reading : Reading} (isPair : reading.role.isPair = true) :
    ∃ tree, Factory.asDefinition reading.argument = .ok tree ∧
      Stands (.of .definition) reading.words tree := by
  unfold Role.isPair at isPair
  split at isPair
  · rename_i isList
    obtain ⟨termInline, bodyInline⟩ := Bool.and_eq_true_iff.1 isPair
    obtain ⟨readings, roles, isArgument, isWords⟩ := reading.items_of_isList isList
    obtain ⟨term, rest, rfl, rfl, later⟩ := List.map_eq_cons_iff.1 roles
    obtain ⟨body, others, rfl, rfl, last⟩ := List.map_eq_cons_iff.1 later
    obtain rfl := List.map_eq_nil_iff.1 last
    have fill : Fill Kind.definition.slots [term.words, body.words]
        [.one term.argument.node, .one body.argument.node] :=
      .one (term.stands_node termInline) (.one (body.stands_node bodyInline) .nil)
    refine ⟨.node .definition [] [.one term.argument.node, .one body.argument.node], ?_,
      fill.stands rfl (isWords ▸ String.empty_append)⟩
    rw [isArgument, ← slot_of_isInline termInline, ← slot_of_isInline bodyInline]
    rfl
  · cases isPair

/-- Pairs are the definitions of a list. -/
theorem mapM_asDefinition {readings : List Reading}
    (isPair : ∀ reading ∈ readings, reading.role.isPair = true) :
    ∃ trees, (readings.map Reading.argument).mapM Factory.asDefinition = .ok trees ∧
      List.Forall₂ (Stands (.of .definition)) (readings.map Reading.words) trees := by
  induction readings with
  | nil => exact ⟨[], rfl, .nil⟩
  | cons reading rest hypothesis =>
    obtain ⟨here, later⟩ := List.forall_mem_cons.1 isPair
    obtain ⟨tree, isTree, stands⟩ := asDefinition_pair here
    obtain ⟨trees, areTrees, stand⟩ := hypothesis later
    refine ⟨tree :: trees, ?_, .cons stands stand⟩
    rw [List.map_cons, List.mapM_cons, isTree, areTrees]
    rfl

/-- The values that an argument lists; without the argument there are none. -/
def listed : Option Argument → List Argument
  | some (.list items) => items
  | _ => []

/-- The cells of what is listed, one for each value. -/
theorem cellsOf_listed {bound : Bound Reading} {name : String}
    (isEntries : ((bound.map Reading.role).get? name).all Role.isEntries = true) :
    ∃ readings : List Reading, (∀ reading ∈ readings, reading.role.isInline = true) ∧
      listed ((bound.map Reading.argument).get? name) = readings.map Reading.argument ∧
      Factory.cellsOf ((bound.map Reading.argument).get? name) =
        .ok ((readings.map Reading.argument).map (Factory.asEntry .cell)) ∧
      String.join ((bound.map Reading.words).get? name).toList =
        String.join (readings.map Reading.words) := by
  simp only [Bound.get?_map] at isEntries ⊢
  generalize bound.get? name = given at isEntries ⊢
  cases given with
  | none => exact ⟨[], by simp, rfl, rfl, rfl⟩
  | some reading =>
    rw [Option.map_some, Option.all_some] at isEntries
    unfold Role.isEntries at isEntries
    split at isEntries
    · rename_i isNull
      obtain ⟨isArgument, isWords⟩ := reading.argument_of_isNull isNull
      simp only [Option.map_some, isArgument, isWords]
      exact ⟨[], by simp, rfl, rfl, rfl⟩
    · rename_i items isList
      obtain ⟨readings, rfl, isArgument, isWords⟩ := reading.items_of_isList isList
      rw [List.all_map, List.all_eq_true] at isEntries
      simp only [Option.map_some, isArgument, isWords]
      refine ⟨readings, isEntries, rfl, ?_, by simp⟩
      rw [Factory.cellsOf]
      cases readings <;> rfl
    · cases isEntries

/-- The entries of a list or a row, one for each argument and in their order. -/
inductive LaidOut (bound : Bound Argument) : Factory → Tree → Prop where
  | orderedList {items : List Tree}
      (entries : List.Forall₂ (EntryFor .listItem) bound.rest items) :
      LaidOut bound .orderedList (Tree.orderedList items)
  | unorderedList {items : List Tree}
      (entries : List.Forall₂ (EntryFor .listItem) bound.rest items) :
      LaidOut bound .unorderedList (Tree.ofList .unorderedList items)
  | row {header cells footer : List Tree}
      (above : List.Forall₂ (EntryFor .cell) (listed (bound.get? "header")) header)
      (entries : List.Forall₂ (EntryFor .cell) bound.rest cells)
      (below : List.Forall₂ (EntryFor .cell) (listed (bound.get? "footer")) footer) :
      LaidOut bound .row (.node .row [] [.many header, .many cells, .many footer])

/-- The factory builds a well-formed node of its kind, and the text of the node is made of the words
of the arguments. -/
def Builds (factory : Factory) (bound : Bound Reading) : Prop :=
  ∃ tree, factory.build (bound.map Reading.argument) = .ok tree ∧
    tree.kind? = some factory.kind ∧
    Stands (.of factory.kind) (String.join (factory.told (bound.map Reading.words))) tree

section Build

variable {bound : Bound Reading}

/-- A text is built from a text. -/
theorem builds_text (takes : Factory.text.takes (bound.map Reading.role) = true) :
    Builds .text bound := by
  obtain ⟨reading, found, isText⟩ := exists_given (Bool.and_eq_true_iff.1 takes).1
  refine ⟨_, rfl, rfl, ?_⟩
  simp only [Factory.told, Bound.get?_map, found, Option.map_some, Option.getD_some,
    reading.argument_of_isText isText, Option.toList_some, String.join_cons, String.join_nil,
    String.append_empty]
  exact Tree.stands_ofText reading.words _

/-- A code block is built from its text and its language. -/
theorem builds_codeBlock (takes : Factory.codeBlock.takes (bound.map Reading.role) = true) :
    Builds .codeBlock bound := by
  obtain ⟨reading, found, isText⟩ := exists_given (Bool.and_eq_true_iff.1 takes).1
  refine ⟨_, rfl, rfl, Tree.stands_ofList rfl rfl rfl ?_⟩
  simp only [Factory.told, Bound.get?_map, found, Option.map_some, Option.getD_some,
    reading.argument_of_isText isText]
  exact .cons ((Tree.stands_ofText reading.words).node rfl) .nil

/-- A link without a label shows where it leads. -/
theorem builds_webLink (takes : Factory.webLink.takes (bound.map Reading.role) = true) :
    Builds .webLink bound := by
  obtain ⟨given, rest⟩ := Bool.and_eq_true_iff.1 takes
  obtain ⟨reading, found, isText⟩ := exists_given given
  have isInline := forall_rest rest
  refine ⟨_, rfl, rfl, Tree.stands_ofList rfl rfl rfl ?_⟩
  simp only [Factory.told, Bound.get?_map, found, Option.map_some, Option.getD_some,
    reading.argument_of_isText isText, Bound.rest_map, List.isEmpty_map]
  split
  · exact .cons ((Tree.stands_ofText reading.words).node rfl) .nil
  · exact Reading.stand fun label member => label.stands_node (isInline label member)

/-- A section is built from a title, its children and a reference. -/
theorem builds_section (takes : Factory.section.takes (bound.map Reading.role) = true) :
    Builds .section bound := by
  obtain ⟨given, -⟩ := Bool.and_eq_true_iff.1 takes
  obtain ⟨given, rest⟩ := Bool.and_eq_true_iff.1 given
  obtain ⟨title, found, isInline⟩ := exists_given given
  have isNode := forall_rest rest
  refine ⟨_, rfl, rfl, ?_⟩
  simp only [Factory.told, Bound.get?_map, found, Option.map_some, Option.getD_some,
    slot_of_isInline isInline, Bound.rest_map]
  have body := Reading.stand fun reading member => reading.stands_of_isNode (isNode reading member)
  refine Fill.stands (.one (title.stands_node isInline) (.many body .nil)) rfl ?_
  simp [Tree.ownText]

/-- The text of a figure is that of its caption, as an image has none. -/
theorem builds_figure (takes : Factory.figure.takes (bound.map Reading.role) = true) :
    Builds .figure bound := by
  obtain ⟨given, -⟩ := Bool.and_eq_true_iff.1 takes
  have isInline := forall_rest (Bool.and_eq_true_iff.1 given).2
  have image (source description : String) :
      Stands (.of .image) "" (.node (.image source description) [] []) := by
    have fill : Fill Kind.image.slots [] [] := .nil
    exact fill.stands rfl rfl
  have caption := Reading.stand fun reading member => reading.stands_node (isInline reading member)
  refine ⟨_, rfl, rfl, Fill.stands (.one (image _ _) (.many caption .nil)) rfl ?_⟩
  simp [Tree.ownText, Factory.told]

/-- A list of definitions is built from pairs of terms and definitions. -/
theorem builds_definitionList
    (takes : Factory.definitionList.takes (bound.map Reading.role) = true) :
    Builds .definitionList bound := by
  obtain ⟨trees, areTrees, stand⟩ := mapM_asDefinition (forall_rest takes)
  refine ⟨Tree.ofList .definitionList trees, ?_, rfl, Tree.stands_ofList rfl rfl rfl stand⟩
  rw [Factory.build, Bound.rest_map, areTrees]
  rfl

/-- A row is built from cells and from what becomes a cell. -/
theorem builds_row (takes : Factory.row.takes (bound.map Reading.role) = true) :
    Builds .row bound := by
  obtain ⟨perhaps, below⟩ := Bool.and_eq_true_iff.1 takes
  obtain ⟨above, rest⟩ := Bool.and_eq_true_iff.1 perhaps
  obtain ⟨headers, headersInline, -, header, headerWords⟩ := cellsOf_listed above
  obtain ⟨footers, footersInline, -, footer, footerWords⟩ := cellsOf_listed below
  have cells {readings : List Reading}
      (isInline : ∀ reading ∈ readings, reading.role.isInline = true) :
      List.Forall₂ (Stands .node) (readings.map Reading.words)
        ((readings.map Reading.argument).map (Factory.asEntry .cell)) :=
    Reading.stand fun reading member =>
      (entry_asEntry (.inr rfl) (isInline reading member)).2.node rfl
  refine ⟨.node .row [] [.many _, .many _, .many _], ?_, rfl, Fill.stands (.many
    (cells headersInline) (.many (cells (forall_rest rest)) (.many (cells footersInline) .nil)))
    rfl ?_⟩
  · rw [Factory.build, header, footer]
    rfl
  · simp only [Tree.ownText, Factory.told, Bound.rest_map, String.join_append, headerWords,
      footerWords, List.append_nil, String.empty_append, String.append_assoc]

variable {factory : Factory} (takes : factory.takes (bound.map Reading.role) = true)

include takes

/-- A factory that is given what it takes builds what it should. -/
theorem builds_of_takes : Builds factory bound := by
  cases factory with
  | paragraph | bold | italic | group | listItem =>
    have isInline := forall_rest takes
    exact ⟨_, rfl, rfl, Tree.stands_ofList rfl rfl rfl
      (Reading.stand fun reading member => reading.stands_node (isInline reading member))⟩
  | orderedList | unorderedList =>
    have isInline := forall_rest takes
    exact ⟨_, rfl, rfl, Tree.stands_ofList rfl rfl rfl (Reading.stand fun reading member =>
      (entry_asEntry (.inl rfl) (isInline reading member)).2)⟩
  | table =>
    have isRow := forall_rest takes
    exact ⟨_, rfl, rfl, Tree.stands_ofList rfl rfl rfl
      (Reading.stand fun reading member => reading.stands_of_isNodeOf (isRow reading member))⟩
  | text => exact builds_text takes
  | codeBlock => exact builds_codeBlock takes
  | webLink => exact builds_webLink takes
  | «section» => exact builds_section takes
  | figure => exact builds_figure takes
  | definitionList => exact builds_definitionList takes
  | row => exact builds_row takes

/-- The entries of lists and rows are laid out, one for each argument. -/
theorem laidOut_of_build {tree : Tree}
    (build : factory.build (bound.map Reading.argument) = .ok tree)
    (lays : factory ∈ [Factory.orderedList, .unorderedList, .row]) :
    LaidOut (bound.map Reading.argument) factory tree := by
  have entries {head : Head} (isEntry : head = .listItem ∨ head = .cell)
      {readings : List Reading} (isInline : ∀ reading ∈ readings, reading.role.isInline = true) :
      List.Forall₂ (EntryFor head) (readings.map Reading.argument)
        ((readings.map Reading.argument).map (Factory.asEntry head)) := by
    rw [List.forall₂_map_right_iff, List.forall₂_map_left_iff, List.forall₂_map_right_iff,
      List.forall₂_same]
    exact fun reading member => (entry_asEntry isEntry (isInline reading member)).1
  cases factory with
  | orderedList =>
    obtain rfl := Except.ok.inj build
    exact .orderedList (entries (.inl rfl) (forall_rest takes))
  | unorderedList =>
    obtain rfl := Except.ok.inj build
    exact .unorderedList (entries (.inl rfl) (forall_rest takes))
  | row =>
    obtain ⟨perhaps, below⟩ := Bool.and_eq_true_iff.1 takes
    obtain ⟨above, rest⟩ := Bool.and_eq_true_iff.1 perhaps
    obtain ⟨headers, headersInline, headersListed, header, -⟩ := cellsOf_listed above
    obtain ⟨footers, footersInline, footersListed, footer, -⟩ := cellsOf_listed below
    rw [Factory.build, header, footer] at build
    obtain rfl := Except.ok.inj build
    refine .row ?_ (entries (.inr rfl) (forall_rest rest)) ?_
    · exact headersListed ▸ entries (.inr rfl) headersInline
    · exact footersListed ▸ entries (.inr rfl) footersInline
  | _ => exact absurd lays (by decide)

end Build

end Folio.Building
