import Folio.Proofs.Validation.Checks

/-!
# What the lenient check finds

The lenient check comes to an end without an error, and finds the misfits of a tree: each once, in
the order of their places, and under a path that leads back to the slot. It finds nothing exactly
in trees that are well-formed.
-/

namespace Folio

/-- The category that a field for nodes asks for: lists, tables and figures hold what belongs
into them, and everything else holds any node. -/
def Kind.requires : Kind → String → Category
  | .unorderedList, "items" | .orderedList, "items" => .of .listItem
  | .definitionList, "items" => .of .definition
  | .table, "rows" => .of .row
  | .figure, "image" => .of .image
  | _, _ => .node

/-- Each slot of a kind declares what it requires. -/
theorem Kind.element_slots (kind : Kind) :
    ∀ field ∈ kind.slots, field.type.element? = some (kind.requires field.name) := by
  cases kind <;> decide

namespace Tree

/-- Documents are no nodes, and neither is anything without a kind. -/
theorem isA_node_iff {tree : Tree} :
    tree.isA .node = true ↔ ∃ kind, tree.kind? = some kind ∧ kind ≠ .document := by
  cases tree with
  | stray value => simp [isA, kind?]
  | node head metadata slots => simp [isA, kind?, Category.node_includes]

section Entries

variable {tree content : Tree} {field : Field} {slot : Slot Tree} {category : Category}
  {descent : Descent}

/-- The entries of a node are slots of its kind. -/
theorem mem_slots_of_entry {kind : Kind} (isNode : tree.kind? = some kind)
    (entry : (field, slot) ∈ tree.entries) : field ∈ kind.slots := by
  cases tree with
  | stray value => cases entry
  | node head metadata slots =>
    obtain rfl : head.kind = kind := Option.some.inj isNode
    exact (List.of_mem_zip entry).1

/-- Only nodes have entries. -/
theorem exists_kind_of_entry (entry : (field, slot) ∈ tree.entries) :
    ∃ kind, tree.kind? = some kind := by
  cases tree with
  | stray value => cases entry
  | node head metadata slots => exact ⟨head.kind, rfl⟩

/-- No field asks for documents, so what is as it asks is a node. -/
theorem isA_node_of_entry (entry : (field, slot) ∈ tree.entries)
    (declared : field.type.element? = some category) (member : content.isA category = true) :
    content.isA .node = true := by
  obtain ⟨kind, isNode⟩ := exists_kind_of_entry entry
  have nodes := List.all_eq_true.1 kind.slots_holdNodes field (mem_slots_of_entry isNode entry)
  have others : category.includes .document = false := by
    simpa [Field.holdsNodes, declared] using nodes
  exact isA_node_of_isA others member

/-- A step leads to what lies in a field that is laid out as declared. -/
theorem Leads.exists_entry (leads : Leads tree descent category content) :
    ∃ field slot, (field, slot) ∈ tree.entries ∧ slot.isList = field.type.isSequence ∧
      field.type.element? = some category ∧ content ∈ slot.toList ∧
      descent.field = field.name := by
  cases leads with
  | @single field _ _ entry declared =>
    exact ⟨field, _, entry, by rw [declared]; rfl, by rw [declared]; rfl,
      List.mem_singleton_self _, rfl⟩
  | @item field _ _ _ _ entry declared stands =>
    exact ⟨field, _, entry, by rw [declared]; rfl, by rw [declared]; rfl,
      List.mem_of_getElem? stands, rfl⟩

/-- Whatever lies in a field that is laid out as declared is led to. -/
theorem exists_leads (entry : (field, slot) ∈ tree.entries)
    (layout : slot.isList = field.type.isSequence)
    (declared : field.type.element? = some category) (held : content ∈ slot.toList) :
    ∃ descent, Leads tree descent category content := by
  cases standing_of_entry entry with
  | single one =>
    obtain rfl := List.mem_singleton.1 held
    obtain rfl : _ = category := by simpa [one, FieldType.element?] using declared
    exact ⟨_, .single entry one⟩
  | items many =>
    obtain ⟨index, stands⟩ := List.mem_iff_getElem?.1 held
    obtain rfl : _ = category := by simpa [many, FieldType.element?] using declared
    exact ⟨_, .item entry many stands⟩
  | noList many => simp [many, Slot.isList, FieldType.isSequence] at layout
  | list one => simp [one, Slot.isList, FieldType.isSequence] at layout

end Entries

/-- Every field of a node and of the nodes in its fields is laid out as declared and holds what
its kind asks for. -/
inductive WellFormed : Tree → Prop where
  | intro {tree : Tree} {kind : Kind} (isNode : tree.kind? = some kind)
      (layout : ∀ field slot, (field, slot) ∈ tree.entries → slot.isList = field.type.isSequence)
      (required : ∀ field slot, (field, slot) ∈ tree.entries →
        ∀ content ∈ slot.toList, content.isA (kind.requires field.name) = true)
      (below : ∀ field slot, (field, slot) ∈ tree.entries →
        ∀ content ∈ slot.toList, WellFormed content) : WellFormed tree

/-- Nothing offends in the fields of a node if they are laid out as declared and hold what its
kind asks for. -/
theorem not_offends_iff {tree : Tree} {kind : Kind} (isNode : tree.kind? = some kind) :
    (∀ descent expected found, ¬Offends tree descent expected found) ↔
      ∀ field slot, (field, slot) ∈ tree.entries → slot.isList = field.type.isSequence ∧
        ∀ content ∈ slot.toList, content.isA (kind.requires field.name) = true := by
  constructor
  · intro fine field slot entry
    have declared := kind.element_slots field (mem_slots_of_entry isNode entry)
    have layout : slot.isList = field.type.isSequence := by
      cases standing_of_entry entry with
      | single one => rw [one]; rfl
      | items many => rw [many]; rfl
      | noList many => exact absurd (Offends.noList entry many) (fine _ _ _)
      | list one => exact absurd (Offends.list entry one) (fine _ _ _)
    refine ⟨layout, fun content held => ?_⟩
    obtain ⟨descent, leads⟩ := exists_leads entry layout declared held
    by_contra other
    exact fine _ _ _ (.category leads (Bool.not_eq_true _ ▸ other))
  · rintro fine descent expected found (⟨leads, other⟩ | ⟨entry, declared⟩ | ⟨entry, declared⟩)
    · obtain ⟨field, slot, entry, -, declared, held, -⟩ := leads.exists_entry
      have asked := kind.element_slots field (mem_slots_of_entry isNode entry)
      rw [asked, Option.some.injEq] at declared
      rw [← declared, (fine field slot entry).2 _ held] at other
      cases other
    · have layout := (fine _ _ entry).1
      rw [declared] at layout
      cases layout
    · have layout := (fine _ _ entry).1
      rw [declared] at layout
      cases layout

/-- There are no misfits if nothing offends in the fields of the node, and none in the nodes that
these lead to. -/
theorem misfits_eq_nil_iff {tree : Tree} :
    tree.misfits = [] ↔ (∀ descent expected found, ¬Offends tree descent expected found) ∧
      ∀ descent category child, Leads tree descent category child → child.isA .node = true →
        child.misfits = [] := by
  simp only [List.eq_nil_iff_forall_not_mem]
  constructor
  · intro none
    refine ⟨fun descent expected found offends => ?_,
      fun descent category child leads isNode inner listed => ?_⟩
    · exact none ⟨[descent], expected, found⟩ (mem_misfits_cases.2 (.inl ⟨descent, offends, rfl⟩))
    · exact none (inner.below descent)
        (mem_misfits_cases.2 (.inr ⟨descent, category, child, leads, isNode, inner, listed, rfl⟩))
  · rintro ⟨fine, below⟩ misfit listed
    rcases mem_misfits_cases.1 listed with ⟨descent, offends, -⟩ |
      ⟨descent, category, child, leads, isNode, inner, inside, -⟩
    · exact fine _ _ _ offends
    · exact below descent category child leads isNode inner inside

/-- A node has no misfits if it is well-formed. -/
theorem misfits_eq_nil_iff_wellFormed {tree : Tree} {kind : Kind}
    (isNode : tree.kind? = some kind) : tree.misfits = [] ↔ tree.WellFormed := by
  induction tree using childInduction generalizing kind with
  | step tree below =>
    rw [misfits_eq_nil_iff, not_offends_iff isNode]
    constructor
    · rintro ⟨fine, none⟩
      refine .intro isNode (fun field slot entry => (fine field slot entry).1)
        (fun field slot entry => (fine field slot entry).2) fun field slot entry content held => ?_
      have declared := kind.element_slots field (mem_slots_of_entry isNode entry)
      obtain ⟨layout, required⟩ := fine field slot entry
      obtain ⟨descent, leads⟩ := exists_leads entry layout declared held
      have contentNode := isA_node_of_entry entry declared (required content held)
      obtain ⟨contentKind, isContent, -⟩ := isA_node_iff.1 contentNode
      exact (below content (mem_children_of_entry entry held) isContent).1
        (none descent _ content leads contentNode)
    · rintro ⟨sameNode, layout, required, inside⟩
      obtain rfl := Option.some.inj (isNode.symm.trans sameNode)
      refine ⟨fun field slot entry => ⟨layout field slot entry, required field slot entry⟩,
        fun descent category child leads childNode => ?_⟩
      obtain ⟨field, slot, entry, -, -, held, -⟩ := leads.exists_entry
      obtain ⟨childKind, isChild, -⟩ := isA_node_iff.1 childNode
      exact (below child leads.mem_children isChild).2 (inside field slot entry child held)

/-- In a well-shaped tree that is well-formed, everything is in its place. -/
theorem WellFormed.everywhere_placed {tree : Tree} (wellFormed : tree.WellFormed)
    (shaped : tree.Shaped) : tree.Everywhere IsPlaced := by
  induction wellFormed with
  | @intro tree kind isNode _ required _ below =>
    obtain ⟨here, inside⟩ := everywhere_iff.1 shaped
    cases tree with
    | stray value => exact here.elim
    | node head metadata slots =>
      obtain rfl : head.kind = kind := Option.some.inj isNode
      refine everywhere_iff.2 ⟨fun entry member child held category declared => ?_,
        fun child member => ?_⟩
      · have asked := head.kind.element_slots entry.1 (List.of_mem_zip member).1
        rw [asked, Option.mem_some_iff] at declared
        exact declared ▸ required _ _ member child held
      · obtain ⟨entry, inZip, held⟩ := exists_entry here.length_slots member
        exact below _ _ inZip child held (inside child member)

/-- In a well-shaped tree in which nothing is wrong, everything is in its place. -/
theorem placed_of_valid {tree : Tree} (shaped : tree.Shaped)
    (valid : tree.firstViolation? = none) : tree.Everywhere IsPlaced := by
  rw [firstViolation?_eq, List.head?_eq_none_iff, violations_eq, List.map_eq_nil_iff] at valid
  cases tree with
  | stray value => exact (everywhere_iff.1 shaped).1.elim
  | node head metadata slots =>
    exact ((misfits_eq_nil_iff_wellFormed rfl).1 valid).everywhere_placed shaped

/-- A step by the name of a field and the number of an item can be read back. -/
theorem plain_of_entry {tree : Tree} {field : Field} {slot : Slot Tree}
    (entry : (field, slot) ∈ tree.entries) (index : Option Nat) :
    Descent.Plain ⟨field.name, index.map Int.ofNat⟩ := by
  obtain ⟨kind, isNode⟩ := exists_kind_of_entry entry
  obtain ⟨point, bracket⟩ := kind.slots_plain field (mem_slots_of_entry isNode entry)
  refine ⟨point, bracket, fun number given => ?_⟩
  obtain ⟨count, -, rfl⟩ := Option.map_eq_some_iff.1 given
  exact Int.natCast_nonneg count

/-- A step on the way down is told by a plain name. -/
theorem Leads.plain {tree content : Tree} {descent : Descent} {category : Category}
    (leads : Leads tree descent category content) : descent.Plain := by
  cases leads with
  | single entry _ => exact plain_of_entry entry none
  | @item _ _ _ index _ entry _ _ => exact plain_of_entry entry (some index)

/-- So is the step to what does not belong. -/
theorem Offends.plain {tree : Tree} {descent : Descent} {expected found : String}
    (offends : Offends tree descent expected found) : descent.Plain := by
  cases offends with
  | category leads _ => exact leads.plain
  | noList entry _ | list entry _ => exact plain_of_entry entry none

/-- So is each step of a way. -/
theorem Reaches.plain {tree node : Tree} {place : Place} (reaches : Reaches tree place node) :
    ∀ descent ∈ place, descent.Plain := by
  induction reaches with
  | here => exact fun _ member => absurd member List.not_mem_nil
  | step leads _ _ hypothesis => exact List.forall_mem_cons.2 ⟨leads.plain, hypothesis⟩

/-- The path under which a misfit is reported gives its place away. -/
theorem HasMisfit.readPlace?_path {root : Tree} {misfit : Misfit} (has : root.HasMisfit misfit)
    (kind : Kind) :
    readPlace? (misfit.violation kind.tag).path = some (kind.tag, misfit.place) := by
  obtain ⟨place, node, descent, reaches, offends, isPlace⟩ := has
  refine readPlace?_placeText kind.tag_plain ?_
  rw [isPlace]
  exact List.forall_mem_append.2 ⟨reaches.plain, List.forall_mem_singleton.2 offends.plain⟩

/-- Misfits are reported under different paths, as they are at different places. -/
theorem nodup_paths (root : Tree) (kind : Kind) :
    (root.misfits.map fun misfit => (misfit.violation kind.tag).path).Nodup := by
  refine List.pairwise_map.2 (root.pairwise_misfits.imp_of_mem
    fun {first second} inFirst inSecond smaller same => ?_)
  have readFirst := (mem_misfits_iff.1 inFirst).readPlace?_path kind
  have readSecond := (mem_misfits_iff.1 inSecond).readPlace?_path kind
  rw [same, readSecond, Option.some.injEq, Prod.mk.injEq] at readFirst
  rw [readFirst.2] at smaller
  exact List.lt_irrefl _ smaller

/-- The lenient check comes to an end, and finds each misfit of the tree once: field by field, and
what is wrong with a slot before what is wrong below it. The paths differ, and each leads from
the root to the slot. Nothing is found exactly in well-formed trees. Which categories the fields
ask for, and that documents are no nodes, is said last. -/
theorem violations_exact {root : Tree} {kind : Kind} (isNode : root.kind? = some kind) :
    ∃ misfits : List Misfit,
      root.check false root.rootPath [] = .ok (misfits.map (Misfit.violation kind.tag)) ∧
      root.violations = misfits.map (Misfit.violation kind.tag) ∧
      (∀ misfit, misfit ∈ misfits ↔ root.HasMisfit misfit) ∧
      (misfits.Pairwise fun first second => root.rank first.place < root.rank second.place) ∧
      (root.violations.map Violation.path).Nodup ∧
      (∀ misfit ∈ misfits, ∃ place node descent,
        readPlace? (misfit.violation kind.tag).path = some (kind.tag, place ++ [descent]) ∧
          root.find? place = some node ∧
          Offends node descent misfit.expected misfit.found) ∧
      (root.violations = [] ↔ root.WellFormed) ∧
      (∀ (kind : Kind), ∀ field ∈ kind.slots,
        field.type.element? = some (kind.requires field.name)) ∧
      ∀ tree : Tree, tree.isA .node = true ↔ ∃ kind, tree.kind? = some kind ∧ kind ≠ .document := by
  have rootPath : root.rootPath = kind.tag := by rw [Tree.rootPath, isNode]; rfl
  have found := root.violations_eq
  rw [rootPath] at found
  refine ⟨root.misfits, ?check, found, fun _ => mem_misfits_iff, root.pairwise_misfits, ?distinct,
    ?leads, ?empty, Kind.element_slots, fun _ => isA_node_iff⟩
  case check => rw [check_lenient, rootPath]
  case distinct =>
    rw [found, List.map_map]
    exact root.nodup_paths kind
  case leads =>
    intro misfit listed
    have has := mem_misfits_iff.1 listed
    obtain ⟨place, node, descent, reaches, offends, isPlace⟩ := id has
    exact ⟨place, node, descent, isPlace ▸ has.readPlace?_path kind, reaches.find?_eq, offends⟩
  case empty =>
    rw [found, List.map_eq_nil_iff]
    exact misfits_eq_nil_iff_wellFormed isNode

/-- A section with a list for a title, and in its body a list whose item holds a number, a
document with nothing in its place, and no node at all. -/
def disordered : Tree :=
  .node (.section (.text "")) [] [.many [], .many
    [.node .orderedList [] [.many [ofList .bold [.stray (.int 7)]]],
      .node (.document {}) [] [.one (.stray .null)], .stray .null]]

/-- Nothing in the document is reported, and the item is, together with what it holds. -/
theorem violations_disordered :
    disordered.kind? = some .section ∧
    disordered.violations.map Violation.message =
      ["section.title: expected a single Node, got list",
        "section.children[0].items[0]: expected ListItem, got Bold",
        "section.children[0].items[0].children[0]: expected Node, got int",
        "section.children[1]: expected Node, got Document",
        "section.children[2]: expected Node, got NoneType"] ∧
    (disordered.violations.map Violation.path).Nodup ∧ ¬disordered.WellFormed := by
  have isSection : disordered.kind? = some .section := rfl
  obtain ⟨misfits, -, found, -, -, distinct, -, wellFormed, -⟩ := violations_exact isSection
  refine ⟨isSection, rfl, distinct, fun fine => ?_⟩
  exact List.cons_ne_nil _ _ (wellFormed.2 fine)

end Tree

end Folio
