import Folio.Proofs.Building.Roles
import Folio.Proofs.Validation.Slots

/-!
# Readings of arguments

A reading is an argument together with a role that it has and the words that it stands for. What
stands where nodes are wanted is a text or a node, and the tree that is made of it is well-formed
and has its words as the text: as a node, or as an entry of a list or a row.
-/

namespace Folio.Building

open Folio.Tree (Stands)

/-- An argument with a role and with words of its own. -/
inductive Fits : Role → Argument → String → Prop where
  | text (value : String) : Fits .text (.plain (.str value)) value
  | null : Fits .null (.plain .null) ""
  | value (value : Json) : Fits .value (.plain value) ""
  | node {tree : Tree} {kind : Kind} {words : String} (isNode : tree.kind? = some kind)
      (noDocument : kind ≠ .document) (wellFormed : tree.WellFormed) (text_eq : tree.text = words) :
      Fits (.node kind) (.tree tree) words
  | nil : Fits (.list []) (.list []) ""
  | cons {role : Role} {roles : List Role} {argument : Argument} {arguments : List Argument}
      {words others : String} (first : Fits role argument words)
      (rest : Fits (.list roles) (.list arguments) others) :
      Fits (.list (role :: roles)) (.list (argument :: arguments)) (words ++ others)

/-- An argument, its role and its words. -/
structure Reading where
  argument : Argument
  role : Role
  words : String
  fits : Fits role argument words

/-- Readings, taken as a list, fit the list of their roles. -/
theorem Fits.ofReadings (readings : List Reading) :
    Fits (.list (readings.map Reading.role)) (.list (readings.map Reading.argument))
      (String.join (readings.map Reading.words)) := by
  induction readings with
  | nil => exact .nil
  | cons first rest hypothesis =>
    rw [List.map_cons, List.map_cons, List.map_cons, String.join_cons]
    exact .cons first.fits hypothesis

namespace Reading

variable {reading : Reading} {readings : List Reading}

/-- A list is made of what it lists. -/
theorem items_of_isList {roles : List Role} (isList : reading.role = .list roles) :
    ∃ readings : List Reading, readings.map Reading.role = roles ∧
      reading.argument = .list (readings.map Reading.argument) ∧
      reading.words = String.join (readings.map Reading.words) := by
  obtain ⟨argument, role, words, fits⟩ := reading
  dsimp only at isList ⊢
  induction fits generalizing roles with
  | nil =>
    cases isList
    exact ⟨[], rfl, rfl, rfl⟩
  | cons first _ _ hypothesis =>
    cases isList
    obtain ⟨readings, rfl, isArgument, rfl⟩ := hypothesis rfl
    cases isArgument
    exact ⟨⟨_, _, _, first⟩ :: readings, rfl, rfl, String.join_cons.symm⟩
  | _ => cases isList

/-- What has the role of a text is the text of its words. -/
theorem argument_of_isText (isText : reading.role.isText = true) :
    reading.argument = .plain (.str reading.words) := by
  obtain ⟨argument, role, words, fits⟩ := reading
  cases fits with
  | text value => rfl
  | _ => cases isText

/-- What has the role of nothing is nothing, without words. -/
theorem argument_of_isNull (isNull : reading.role = .null) :
    reading.argument = .plain .null ∧ reading.words = "" := by
  obtain ⟨argument, role, words, fits⟩ := reading
  cases fits with
  | null => exact ⟨rfl, rfl⟩
  | _ => cases isNull

/-- What has the role of a node is a node of that kind, with its words for a text. -/
theorem tree_of_isNode {kind : Kind} (isNode : reading.role = .node kind) :
    ∃ tree, reading.argument = .tree tree ∧ tree.kind? = some kind ∧
      Stands .node reading.words tree := by
  obtain ⟨argument, role, words, fits⟩ := reading
  cases fits with
  | node isKind noDocument wellFormed text_eq =>
    cases isNode
    exact ⟨_, rfl, isKind, Tree.isA_node_iff.2 ⟨_, isKind, noDocument⟩, wellFormed, text_eq⟩
  | _ => cases isNode

/-- What stands where a node is wanted is a text or a node. -/
theorem inline_cases (isInline : reading.role.isInline = true) :
    reading.argument = .plain (.str reading.words) ∨
      ∃ tree, reading.argument = .tree tree ∧ Stands .node reading.words tree := by
  rcases Bool.or_eq_true_iff.1 isInline with isText | isNode
  · exact .inl (argument_of_isText isText)
  · obtain ⟨kind, isKind⟩ := Role.exists_kind isNode
    obtain ⟨tree, isTree, -, stands⟩ := tree_of_isNode isKind
    exact .inr ⟨tree, isTree, stands⟩

/-- What may stand inline does so, as a node, with its words. -/
theorem stands_node (isInline : reading.role.isInline = true) :
    Stands .node reading.words reading.argument.node := by
  rcases inline_cases isInline with isText | ⟨tree, isTree, stands⟩
  · rw [isText]
    exact (Tree.stands_ofText reading.words).node rfl
  · rw [isTree]
    exact stands

/-- A node stands where any node may. -/
theorem stands_of_isNode (isNode : reading.role.isNode = true) :
    Stands .node reading.words reading.argument.bare := by
  obtain ⟨kind, isKind⟩ := Role.exists_kind isNode
  obtain ⟨tree, isTree, -, stands⟩ := tree_of_isNode isKind
  exact isTree ▸ stands

/-- A node of a kind stands where one of that kind must. -/
theorem stands_of_isNodeOf {kind : Kind} (isNode : reading.role.isNodeOf kind = true) :
    Stands (.of kind) reading.words reading.argument.bare := by
  obtain ⟨tree, isTree, isKind, stands⟩ := tree_of_isNode (Role.eq_node isNode)
  rw [isTree]
  exact ⟨Tree.isA_of_kind? isKind, stands.wellFormed, stands.text_eq⟩

/-- Properties of the trees that are made of arguments, one by one. -/
theorem stand {category : Category} {build : Argument → Tree}
    (each : ∀ reading ∈ readings, Stands category reading.words (build reading.argument)) :
    List.Forall₂ (Stands category) (readings.map Reading.words)
      ((readings.map Reading.argument).map build) := by
  rw [List.map_map, List.forall₂_map_left_iff, List.forall₂_map_right_iff, List.forall₂_same]
  exact each

end Reading

/-- The entry for an argument where nodes of one kind are wanted: such nodes are entries as they
are, and everything else is the only child of one. -/
inductive EntryFor (head : Head) : Argument → Tree → Prop where
  | kept {tree : Tree} (same : tree.kind? = some head.kind) : EntryFor head (.tree tree) tree
  | wrapped {tree : Tree} (other : tree.kind? ≠ some head.kind) :
      EntryFor head (.tree tree) (Tree.ofList head [tree])
  | text (value : String) :
      EntryFor head (.plain (.str value)) (Tree.ofList head [Tree.ofText value])

section Entries

variable {head : Head} (isEntry : head = .listItem ∨ head = .cell) {reading : Reading}
  (isInline : reading.role.isInline = true)

include isEntry

/-- Only nodes of the kind of an entry belong to its category. -/
theorem isA_entry_iff (tree : Tree) :
    tree.isA (.of head.kind) = true ↔ tree.kind? = some head.kind := by
  cases tree with
  | stray value => simp [Tree.isA, Tree.kind?]
  | node other metadata slots =>
    rw [Tree.isA, Tree.kind?, Option.some.injEq]
    generalize other.kind = kind
    rcases isEntry with rfl | rfl <;> cases kind <;> decide

/-- What is wrapped in an entry gives it its words. -/
theorem stands_wrapped {words : String} {tree : Tree} (stands : Stands .node words tree) :
    Stands (.of head.kind) words (Tree.ofList head [tree]) := by
  have single : String.join [words] = words := by simp
  rw [← single]
  rcases isEntry with rfl | rfl <;> exact Tree.stands_ofList rfl rfl rfl (.cons stands .nil)

include isInline

/-- What stands where a node is wanted becomes an entry with its words. -/
theorem entry_asEntry : EntryFor head reading.argument (Factory.asEntry head reading.argument) ∧
    Stands (.of head.kind) reading.words (Factory.asEntry head reading.argument) := by
  rcases Reading.inline_cases isInline with isText | ⟨tree, isTree, stands⟩
  · rw [isText]
    exact ⟨.text reading.words,
      stands_wrapped isEntry ((Tree.stands_ofText reading.words).node rfl)⟩
  · rw [isTree, Factory.asEntry]
    by_cases same : tree.isA (.of head.kind) = true
    · rw [if_pos same]
      exact ⟨.kept ((isA_entry_iff isEntry tree).1 same), same, stands.wellFormed, stands.text_eq⟩
    · rw [if_neg same]
      exact ⟨.wrapped fun isKind => same ((isA_entry_iff isEntry tree).2 isKind),
        stands_wrapped isEntry stands⟩

end Entries

end Folio.Building
