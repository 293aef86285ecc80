import Folio.Proofs.Tree.Codec
import Folio.Proofs.Tree.Placement
import Folio.Tree.Place

/-!
# Misfits

A misfit is a slot of a node that is not as the kind of the node declares: a field laid out in
the wrong way, or something in a place for a node of another category. `HasMisfit` says which
misfits a tree has, without a check: it follows the fields that are laid out as declared, and
enters every node in them, whatever its kind. `misfits` lists them field by field, and
`mem_misfits_iff` says that the list leaves none out and holds nothing else.
-/

namespace Folio.Tree

/-- The structural fields of a node, each with the slot that stands for it. -/
def entries : Tree → List (Field × Slot Tree)
  | .node head _ slots => head.kind.slots.zip slots
  | .stray _ => []

/-- A step down leads to a place for nodes of a category, and to what stands there: the value of
a field for one node, or an item of a list. A field that is not laid out as declared leads
nowhere. -/
inductive Leads (tree : Tree) : Descent → Category → Tree → Prop where
  | single {field : Field} {category : Category} {content : Tree}
      (entry : (field, .one content) ∈ tree.entries) (declared : field.type = .one category) :
      Leads tree ⟨field.name, none⟩ category content
  | item {field : Field} {category : Category} {contents : List Tree} {index : Nat}
      {content : Tree} (entry : (field, .many contents) ∈ tree.entries)
      (declared : field.type = .many category) (stands : contents[index]? = some content) :
      Leads tree ⟨field.name, some index⟩ category content

/-- Steps that lead from a node to a node, through nodes of whatever kind. Documents are none, so
nothing below the root leads through a document. -/
inductive Reaches : Tree → Place → Tree → Prop where
  | here {tree : Tree} : Reaches tree [] tree
  | step {tree child node : Tree} {descent : Descent} {category : Category} {place : Place}
      (leads : Leads tree descent category child) (isNode : child.isA .node = true)
      (later : Reaches child place node) : Reaches tree (descent :: place) node

/-- A slot of a node is not as declared: with the step that leads to it, what is expected there
and what is found instead. -/
inductive Offends (tree : Tree) : Descent → String → String → Prop where
  | category {descent : Descent} {category : Category} {content : Tree}
      (leads : Leads tree descent category content) (other : content.isA category = false) :
      Offends tree descent category.name content.typeName
  | noList {field : Field} {category : Category} {content : Tree}
      (entry : (field, .one content) ∈ tree.entries) (declared : field.type = .many category) :
      Offends tree ⟨field.name, none⟩ "a list" content.typeName
  | list {field : Field} {category : Category} {contents : List Tree}
      (entry : (field, .many contents) ∈ tree.entries) (declared : field.type = .one category) :
      Offends tree ⟨field.name, none⟩ ("a single " ++ category.name) "list"

/-- A slot at a place of a tree, with what is expected there and what is found. -/
structure Misfit where
  place : Place
  expected : String
  found : String
  deriving DecidableEq, Repr

/-- The tree has the misfit: it is a slot of a node that a check comes to, and not as declared. -/
def HasMisfit (tree : Tree) (misfit : Misfit) : Prop :=
  ∃ place node descent, Reaches tree place node ∧
    Offends node descent misfit.expected misfit.found ∧ misfit.place = place ++ [descent]

/-- A misfit of a tree as one of the tree that has it a step below. -/
def Misfit.below (descent : Descent) (misfit : Misfit) : Misfit :=
  { misfit with place := descent :: misfit.place }

/-- The misfits at a place for nodes of a category and in what stands there, the misfits of which
are given. -/
def misfitsAt (descent : Descent) (category : Category) (content : Tree) (inside : List Misfit) :
    List Misfit :=
  (if content.isA category then [] else [⟨[descent], category.name, content.typeName⟩]) ++
    if content.isA .node then inside.map (.below descent) else []

mutual

/-- The misfits of a tree, field by field; those of a slot stand in front of those in it. -/
def misfits : Tree → List Misfit
  | .node head _ slots => misfitsSlots head.kind.slots slots
  | .stray _ => []

/-- The misfits in some slots, against the fields that they belong to. -/
def misfitsSlots : List Field → List (Slot Tree) → List Misfit
  | field :: fields, .one content :: rest =>
    (match field.type with
      | .one category => misfitsAt ⟨field.name, none⟩ category content (misfits content)
      | .many _ => [⟨[⟨field.name, none⟩], "a list", content.typeName⟩]
      | _ => []) ++ misfitsSlots fields rest
  | field :: fields, .many contents :: rest =>
    (match field.type with
      | .one category => [⟨[⟨field.name, none⟩], "a single " ++ category.name, "list"⟩]
      | .many category => misfitsItems field.name category 0 contents
      | _ => []) ++ misfitsSlots fields rest
  | _, _ => []

/-- The misfits in the items of a list from number `index` on. -/
def misfitsItems (name : String) (category : Category) (index : Nat) : List Tree → List Misfit
  | [] => []
  | content :: rest =>
    misfitsAt ⟨name, some index⟩ category content (misfits content) ++
      misfitsItems name category (index + 1) rest

end

/-- The misfits of one field and the slot that stands for it. -/
def entryMisfits : Field × Slot Tree → List Misfit
  | (field, .one content) =>
    match field.type with
    | .one category => misfitsAt ⟨field.name, none⟩ category content content.misfits
    | .many _ => [⟨[⟨field.name, none⟩], "a list", content.typeName⟩]
    | _ => []
  | (field, .many contents) =>
    match field.type with
    | .one category => [⟨[⟨field.name, none⟩], "a single " ++ category.name, "list"⟩]
    | .many category =>
      contents.zipIdx.flatMap fun item =>
        misfitsAt ⟨field.name, some item.2⟩ category item.1 item.1.misfits
    | _ => []

section Entries

variable {field : Field} {category : Category}

/-- A single content is checked in its place. -/
theorem entryMisfits_one (declared : field.type = .one category) (content : Tree) :
    entryMisfits (field, .one content) =
      misfitsAt ⟨field.name, none⟩ category content content.misfits := by
  rw [entryMisfits, declared]

/-- A single content in the place of a list is a misfit. -/
theorem entryMisfits_noList (declared : field.type = .many category) (content : Tree) :
    entryMisfits (field, .one content) =
      [⟨[⟨field.name, none⟩], "a list", content.typeName⟩] := by
  rw [entryMisfits, declared]

/-- A list in the place of a single content is one, too. -/
theorem entryMisfits_list (declared : field.type = .one category) (contents : List Tree) :
    entryMisfits (field, .many contents) =
      [⟨[⟨field.name, none⟩], "a single " ++ category.name, "list"⟩] := by
  rw [entryMisfits, declared]

/-- The contents of a list are checked in their places. -/
theorem entryMisfits_many (declared : field.type = .many category) (contents : List Tree) :
    entryMisfits (field, .many contents) = contents.zipIdx.flatMap fun item =>
      misfitsAt ⟨field.name, some item.2⟩ category item.1 item.1.misfits := by
  rw [entryMisfits, declared]

end Entries

/-- Items are checked with their numbers. -/
theorem misfitsItems_eq (name : String) (category : Category) (index : Nat)
    (contents : List Tree) :
    misfitsItems name category index contents =
      (contents.zipIdx index).flatMap fun item =>
        misfitsAt ⟨name, some item.2⟩ category item.1 item.1.misfits := by
  induction contents generalizing index with
  | nil => rfl
  | cons content rest hypothesis =>
    rw [misfitsItems, hypothesis, List.zipIdx_cons, List.flatMap_cons]

/-- Slots are checked field by field. -/
theorem misfitsSlots_eq (fields : List Field) (slots : List (Slot Tree)) :
    misfitsSlots fields slots = (fields.zip slots).flatMap entryMisfits := by
  induction fields generalizing slots with
  | nil => cases slots <;> rfl
  | cons field fields hypothesis =>
    cases slots with
    | nil => rfl
    | cons slot rest =>
      rw [List.zip_cons_cons, List.flatMap_cons, ← hypothesis]
      cases slot with
      | one content => rw [misfitsSlots, entryMisfits]
      | many contents =>
        rw [misfitsSlots, entryMisfits]
        simp only [misfitsItems_eq]

/-- The misfits of a tree are those of its fields, one field after another. -/
theorem misfits_eq (tree : Tree) : tree.misfits = tree.entries.flatMap entryMisfits := by
  cases tree with
  | node head metadata slots => rw [misfits, entries, misfitsSlots_eq]
  | stray value => rfl

/-- How a slot stands to its field: as declared, with one thing for a list, or with a list for one
node. -/
inductive Standing (field : Field) : Slot Tree → Prop where
  | single {category : Category} {content : Tree} (declared : field.type = .one category) :
      Standing field (.one content)
  | items {category : Category} {contents : List Tree} (declared : field.type = .many category) :
      Standing field (.many contents)
  | noList {category : Category} {content : Tree} (declared : field.type = .many category) :
      Standing field (.one content)
  | list {category : Category} {contents : List Tree} (declared : field.type = .one category) :
      Standing field (.many contents)

/-- Structural fields are declared for one node or for a list of them. -/
theorem standing_of_entry {tree : Tree} {field : Field} {slot : Slot Tree}
    (entry : (field, slot) ∈ tree.entries) : Standing field slot := by
  cases tree with
  | stray value => cases entry
  | node head metadata slots =>
    have structural := (Kind.field?_of_mem_slots (List.of_mem_zip entry).1).2
    cases type : field.type with
    | one category =>
      cases slot with
      | one content => exact .single type
      | many contents => exact .list type
    | many category =>
      cases slot with
      | one content => exact .noList type
      | many contents => exact .items type
    | _ => simp [type, FieldType.isStructural] at structural

/-- A misfit at a place is the content itself, or one inside of it if it is a node. -/
theorem mem_misfitsAt {descent : Descent} {category : Category} {content : Tree}
    {inside : List Misfit} {misfit : Misfit} :
    misfit ∈ misfitsAt descent category content inside ↔
      (content.isA category = false ∧ misfit = ⟨[descent], category.name, content.typeName⟩) ∨
        (content.isA .node = true ∧ ∃ inner ∈ inside, inner.below descent = misfit) := by
  rw [misfitsAt, List.mem_append]
  refine or_congr ?_ ?_
  · cases content.isA category <;> simp
  · cases content.isA .node <;> simp

/-- Wherever a step leads, the list holds what is wrong there. -/
theorem mem_misfits_of_leads {tree child : Tree} {descent : Descent} {category : Category}
    {misfit : Misfit} (leads : Leads tree descent category child)
    (wrong : misfit ∈ misfitsAt descent category child child.misfits) :
    misfit ∈ tree.misfits := by
  rw [misfits_eq, List.mem_flatMap]
  cases leads with
  | single entry declared =>
    exact ⟨_, entry, by rwa [entryMisfits_one declared]⟩
  | @item _ _ _ index _ entry declared stands =>
    refine ⟨_, entry, ?_⟩
    rw [entryMisfits_many declared]
    exact List.mem_flatMap.2 ⟨(child, index), List.mem_zipIdx_iff_getElem?.2 stands, wrong⟩

/-- The list holds what offends in the fields of the node itself, and behind each step the list
of the node there. -/
theorem mem_misfits_cases {tree : Tree} {misfit : Misfit} :
    misfit ∈ tree.misfits ↔
      (∃ descent, Offends tree descent misfit.expected misfit.found ∧
        misfit.place = [descent]) ∨
      ∃ descent category child, Leads tree descent category child ∧ child.isA .node = true ∧
        ∃ inner ∈ child.misfits, inner.below descent = misfit := by
  have behind {descent : Descent} {category : Category} {child : Tree}
      (leads : Leads tree descent category child)
      (wrong : misfit ∈ misfitsAt descent category child child.misfits) :
      (∃ descent, Offends tree descent misfit.expected misfit.found ∧
        misfit.place = [descent]) ∨
      ∃ descent category child, Leads tree descent category child ∧ child.isA .node = true ∧
        ∃ inner ∈ child.misfits, inner.below descent = misfit := by
    rcases mem_misfitsAt.1 wrong with ⟨other, rfl⟩ | ⟨isNode, inside⟩
    · exact .inl ⟨descent, .category leads other, rfl⟩
    · exact .inr ⟨descent, category, child, leads, isNode, inside⟩
  constructor
  · intro listed
    rw [misfits_eq, List.mem_flatMap] at listed
    obtain ⟨⟨field, slot⟩, entry, listed⟩ := listed
    cases standing_of_entry entry with
    | single one =>
      rw [entryMisfits_one one] at listed
      exact behind (.single entry one) listed
    | items many =>
      rw [entryMisfits_many many] at listed
      obtain ⟨item, stands, listed⟩ := List.mem_flatMap.1 listed
      exact behind (.item entry many (List.mem_zipIdx_iff_getElem?.1 stands)) listed
    | noList many =>
      rw [entryMisfits_noList many] at listed
      obtain rfl := List.mem_singleton.1 listed
      exact .inl ⟨_, .noList entry many, rfl⟩
    | list one =>
      rw [entryMisfits_list one] at listed
      obtain rfl := List.mem_singleton.1 listed
      exact .inl ⟨_, .list entry one, rfl⟩
  · rintro (⟨descent, offends, place⟩ | ⟨descent, category, child, leads, isNode, inside⟩)
    · obtain ⟨_, expected, found⟩ := misfit
      obtain rfl : _ = [descent] := place
      cases offends with
      | category leads other =>
        exact mem_misfits_of_leads leads (mem_misfitsAt.2 (.inl ⟨other, rfl⟩))
      | noList entry declared =>
        rw [misfits_eq, List.mem_flatMap]
        exact ⟨_, entry, by rw [entryMisfits_noList declared]; exact List.mem_singleton_self _⟩
      | list entry declared =>
        rw [misfits_eq, List.mem_flatMap]
        exact ⟨_, entry, by rw [entryMisfits_list declared]; exact List.mem_singleton_self _⟩
    · exact mem_misfits_of_leads leads (mem_misfitsAt.2 (.inr ⟨isNode, inside⟩))

/-- What an entry holds is a child. -/
theorem mem_children_of_entry {tree content : Tree} {field : Field} {slot : Slot Tree}
    (entry : (field, slot) ∈ tree.entries) (held : content ∈ slot.toList) :
    content ∈ tree.children := by
  cases tree with
  | stray value => cases entry
  | node head metadata slots =>
    exact List.mem_flatMap.2 ⟨slot, (List.of_mem_zip entry).2, held⟩

/-- A step leads to a child. -/
theorem Leads.mem_children {tree child : Tree} {descent : Descent} {category : Category}
    (leads : Leads tree descent category child) : child ∈ tree.children := by
  cases leads with
  | single entry _ => exact mem_children_of_entry entry (List.mem_singleton_self _)
  | item entry _ stands => exact mem_children_of_entry entry (List.mem_of_getElem? stands)

/-- The list of misfits holds those of the tree and nothing else. -/
theorem mem_misfits_iff {tree : Tree} {misfit : Misfit} :
    misfit ∈ tree.misfits ↔ tree.HasMisfit misfit := by
  induction tree using childInduction generalizing misfit with
  | step tree below =>
    rw [mem_misfits_cases]
    constructor
    · rintro (⟨descent, offends, place⟩ |
        ⟨descent, category, child, leads, isNode, inner, inside, rfl⟩)
      · exact ⟨[], tree, descent, .here, offends, place⟩
      · obtain ⟨place, node, last, reaches, offends, isPlace⟩ :=
          (below child leads.mem_children).1 inside
        exact ⟨descent :: place, node, last, .step leads isNode reaches, offends,
          congrArg (descent :: ·) isPlace⟩
    · rintro ⟨place, node, last, reaches, offends, isPlace⟩
      cases reaches with
      | here => exact .inl ⟨last, offends, isPlace⟩
      | @step _ child _ descent category place leads isNode later =>
        refine .inr ⟨descent, category, child, leads, isNode,
          ⟨place ++ [last], misfit.expected, misfit.found⟩, ?_, ?_⟩
        · exact (below child leads.mem_children).2 ⟨place, node, last, later, offends, rfl⟩
        · rw [Misfit.below, ← List.cons_append, ← isPlace]

end Folio.Tree
