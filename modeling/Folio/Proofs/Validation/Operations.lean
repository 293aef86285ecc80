import Folio.Proofs.CommandLine.Checked
import Folio.Proofs.Tree.Invariance
import Folio.Proofs.Validation.Exact

/-!
# Operations keep trees well-formed

Giving references changes no kind and no layout, so the same is wrong with a tree before and
after. A table of contents is made of a few kinds of nodes and of titles, and these are as
well-formed as the tree they are taken from. What it is made of is said by `ItemAt`: every item
stands at a level that is not beyond the limit, and lists are nested in items only where they
hold items of the next level. Lists and sections inside a title are no part of this, as a title
lies below a link.
-/

namespace Folio

namespace Tree

/-- In a well-shaped tree that is well-formed, everything is. -/
theorem WellFormed.everywhere {tree : Tree} (wellFormed : tree.WellFormed)
    (shaped : tree.Shaped) : tree.Everywhere WellFormed := by
  induction tree using childInduction with
  | step tree inside =>
    obtain ⟨here, shapedBelow⟩ := everywhere_iff.1 shaped
    refine everywhere_iff.2 ⟨wellFormed, fun child member => ?_⟩
    obtain ⟨isNode, -, -, below⟩ := wellFormed
    cases tree with
    | stray value => exact here.elim
    | node head metadata slots =>
      obtain ⟨entry, inZip, held⟩ := exists_entry here.length_slots member
      exact inside child member (below _ _ inZip child held) (shapedBelow child member)

/-- What may stand as a title: a well-formed node. -/
structure IsTitle (title : Tree) : Prop where
  isNode : title.isA .node = true
  wellFormed : title.WellFormed

/-- Titles of well-formed sections may stand as titles. -/
theorem isTitle_title {visited : Tree} (shaped : visited.IsShaped)
    (wellFormed : visited.WellFormed) (isSection : visited.isA (.of .section) = true) :
    visited.title.IsTitle := by
  obtain ⟨reference, metadata, title, body, rfl⟩ := shaped.of_section isSection
  obtain ⟨isKind, -, required, below⟩ := wellFormed
  obtain rfl := Option.some.inj isKind
  have entry : (Field.one "title", .one title) ∈
      (Tree.node (.section (.text reference)) metadata [.one title, .many body]).entries :=
    List.mem_cons_self
  exact ⟨required _ _ entry title (List.mem_singleton_self title),
    below _ _ entry title (List.mem_singleton_self title)⟩

/-- A node with a single field, for a list, is well-formed if what it holds is as the field asks
and well-formed itself. -/
theorem wellFormed_ofList {head : Head} {field : Field} {contents : List Tree}
    (single : head.kind.slots = [field]) (isList : field.type.isSequence = true)
    (required : ∀ content ∈ contents, content.isA (head.kind.requires field.name) = true)
    (below : ∀ content ∈ contents, content.WellFormed) : (ofList head contents).WellFormed := by
  have only : ∀ other slot, (other, slot) ∈ (ofList head contents).entries →
      other = field ∧ slot = .many contents := by
    intro other slot entry
    rw [ofList, entries, single] at entry
    simpa using entry
  refine .intro rfl (fun other slot entry => ?_) (fun other slot entry => ?_)
    fun other slot entry => ?_
  · obtain ⟨rfl, rfl⟩ := only other slot entry
    exact isList.symm
  · obtain ⟨rfl, rfl⟩ := only other slot entry
    exact required
  · obtain ⟨rfl, rfl⟩ := only other slot entry
    exact below

end Tree

namespace Contents

open Folio.Tree

/-- An item at a level that is not beyond the limit: a link to a section of the document, and
behind it a list of items of the next level, if there are any. -/
inductive ItemAt (options : ContentsOptions) (document : Tree) : Nat → Tree → Prop where
  | of {level : Nat} {visited : Tree} {below : List Tree} (listed : visited ∈ document.sections)
      (within : options.beyond level = false)
      (nested : ∀ item ∈ below, ItemAt options document (level + 1) item) :
      ItemAt options document level (itemOf visited below)

/-- The items for a part of a document stand at the level they are asked for. -/
theorem itemAt_forestWithin {options : ContentsOptions} {document tree : Tree}
    (part : ∀ visited ∈ tree.sections, visited ∈ document.sections) (level : Nat) :
    ∀ item ∈ forestWithin options level tree, ItemAt options document level item := by
  induction tree using childInduction generalizing level with
  | step tree below =>
    rw [sections_eq, List.forall_mem_append, List.forall_mem_flatMap] at part
    obtain ⟨here, later⟩ := part
    have inside (level : Nat) :
        ∀ item ∈ tree.children.flatMap (forestWithin options level),
          ItemAt options document level item := by
      intro item member
      obtain ⟨child, isChild, inChild⟩ := List.mem_flatMap.1 member
      exact below child isChild (later child isChild) level item inChild
    by_cases isListed : isListed options level tree = true
    · have within : options.beyond level = false := by
        rw [Contents.isListed, Bool.and_eq_true, Bool.not_eq_true'] at isListed
        exact isListed.2
      rw [if_pos (isSection_of_isListed isListed), List.forall_mem_singleton] at here
      rw [forestWithin_of_listed isListed, List.forall_mem_singleton]
      exact .of here within (inside (level + 1))
    · have notListed : Contents.isListed options level tree = false := by simpa using isListed
      rw [forestWithin_of_not_listed notListed]
      exact inside level

/-- A numbered list of well-formed items is well-formed. -/
theorem wellFormed_orderedList {items : List Tree}
    (areItems : ∀ item ∈ items, item.isA (.of .listItem) = true)
    (wellFormed : ∀ item ∈ items, item.WellFormed) : (orderedList items).WellFormed :=
  wellFormed_ofList rfl rfl areItems wellFormed

/-- Items are well-formed, as the titles of sections are. -/
theorem ItemAt.wellFormed {options : ContentsOptions} {document : Tree}
    (titles : ∀ visited ∈ document.sections, visited.title.IsTitle) {level : Nat} {item : Tree}
    (itemAt : ItemAt options document level item) :
    item.isA (.of .listItem) = true ∧ item.WellFormed := by
  induction itemAt with
  | @of level visited below listed _ _ hypothesis =>
    have isTitle := titles visited listed
    have link : (linkTo visited).WellFormed :=
      wellFormed_ofList rfl rfl (List.forall_mem_singleton.2 isTitle.isNode)
        (List.forall_mem_singleton.2 isTitle.wellFormed)
    have list : (orderedList below).WellFormed :=
      wellFormed_orderedList (fun item member => (hypothesis item member).1)
        fun item member => (hypothesis item member).2
    refine ⟨rfl, wellFormed_ofList rfl rfl (List.forall_mem_cons.2 ⟨rfl, fun nested member => ?_⟩)
      (List.forall_mem_cons.2 ⟨link, fun nested member => ?_⟩)⟩
    · split at member
      · cases member
      · exact List.mem_singleton.1 member ▸ rfl
    · split at member
      · cases member
      · exact List.mem_singleton.1 member ▸ list

/-- The lists that a table of contents consists of, with their depth: the table itself, and what
stands as a numbered list right below an item of one of them. -/
inductive OwnList (table : Tree) : Nat → Tree → Prop where
  | table : OwnList table 1 table
  | nested {depth : Nat} {list item nested : Tree} (own : OwnList table depth list)
      (isItem : item ∈ list.children) (isNested : nested ∈ item.children)
      (isList : nested.isA (.of .orderedList) = true) : OwnList table (depth + 1) nested

/-- What an item holds: a link to a section of the document, with the title for its one label, and
perhaps a list that is not empty. -/
def LaidOut (document item : Tree) : Prop :=
  ∃ visited ∈ document.sections, ∃ nested,
    item = listItem (internalLink visited.reference [visited.title] :: nested) ∧
      (nested = [] ∨ ∃ items, items ≠ [] ∧ nested = [orderedList items])

/-- An item at a level is laid out as those of a table of contents are. -/
theorem ItemAt.laidOut {options : ContentsOptions} {document : Tree} {level : Nat} {item : Tree}
    (itemAt : ItemAt options document level item) : LaidOut document item := by
  cases itemAt with
  | @of _ visited below listed _ _ =>
    refine ⟨visited, listed, _, rfl, ?_⟩
    cases below with
    | nil => exact .inl rfl
    | cons first rest => exact .inr ⟨first :: rest, List.cons_ne_nil _ _, rfl⟩

/-- The lists of a table hold items of the level that belongs to their depth, and every list but
the table itself holds some. -/
theorem OwnList.items {options : ContentsOptions} {document : Tree} {items : List Tree}
    (itemsAt : ∀ item ∈ items, ItemAt options document 0 item) {depth : Nat} {list : Tree}
    (own : OwnList (orderedList items) depth list) :
    ∃ level held, depth = level + 1 ∧ list = orderedList held ∧ (level ≠ 0 → held ≠ []) ∧
      ∀ item ∈ held, ItemAt options document level item := by
  induction own with
  | table => exact ⟨0, items, rfl, rfl, fun notTop => absurd rfl notTop, itemsAt⟩
  | @nested depth list item nested own isItem isNested isList hypothesis =>
    obtain ⟨level, held, rfl, rfl, -, itemsAt⟩ := hypothesis
    rw [orderedList, children_ofList] at isItem
    cases itemsAt item isItem with
    | @of _ visited below _ _ belowAt =>
      rw [itemOf, listItem, children_ofList] at isNested
      rcases List.mem_cons.1 isNested with rfl | behind
      · cases isList
      · split at behind
        · cases behind
        · rename_i notEmpty
          obtain rfl := List.mem_singleton.1 behind
          refine ⟨level + 1, below, rfl, rfl, fun _ none => notEmpty ?_, belowAt⟩
          rw [none, List.isEmpty_nil]

section Limits

variable {options : ContentsOptions} {limit : Int}
  (limited : options.maxDepth.scalar?.bind Scalar.whole? = some limit)

include limited

/-- Beyond a limit are the levels from it on. -/
theorem beyond_eq (level : Nat) : options.beyond level = decide (limit ≤ (level : Int)) := by
  unfold ContentsOptions.beyond
  split
  · rename_i double isDouble
    rw [isDouble] at limited
    cases limited
  · rw [limited]

/-- Limits below 1 are not accepted. -/
theorem one_le_limit (accepted : options.check = .ok options) : 1 ≤ limit := by
  obtain ⟨value, isScalar, isWhole⟩ := Option.bind_eq_some_iff.1 limited
  have compared : options.maxDepth.below? 1 = some (decide (limit < 1)) := by
    rw [Setting.below?, isScalar, Option.bind_some]
    cases value with
    | bool flag =>
      obtain rfl := Option.some.inj isWhole
      rfl
    | int whole =>
      obtain rfl := Option.some.inj isWhole
      rfl
    | _ => cases isWhole
  by_contra small
  have isBelow : decide (limit < 1) = true := by simpa using small
  unfold ContentsOptions.check at accepted
  split at accepted
  · rename_i unlimited
    rw [unlimited] at limited
    cases limited
  · rw [checkBound, compared, isBelow] at accepted
    cases accepted

end Limits

/-- What is wrong with a tree does not depend on references. -/
theorem violations_assign (options : ReferenceOptions) (tree : Tree) :
    (References.assign options tree).tree.violations = tree.violations := by
  have without (tree : Tree) : tree.withoutReferences.violations = tree.violations := by
    rw [violations, violations, rootPath, rootPath, withoutReferences,
      check_mapHeads Head.kind_withoutReference, kind?_mapHeads Head.kind_withoutReference,
      typeName_mapHeads Head.kind_withoutReference]
  rw [← without, References.withoutReferences_assign, without]

/-- A node has no violations exactly if it is well-formed. -/
theorem violations_eq_nil_iff {tree : Tree} {kind : Kind} (isNode : tree.kind? = some kind) :
    tree.violations = [] ↔ tree.WellFormed := by
  rw [violations_eq, List.map_eq_nil_iff, misfits_eq_nil_iff_wellFormed isNode]

/-- The sections of a well-shaped tree in which nothing is wrong have titles. -/
theorem isTitle_of_valid {document : Tree} (shaped : document.Shaped)
    (valid : document.violations = []) :
    ∀ visited ∈ document.sections, visited.title.IsTitle := by
  have wellFormed : document.WellFormed := by
    cases document with
    | stray value => exact (everywhere_iff.1 shaped).1.elim
    | node head metadata slots => exact (violations_eq_nil_iff rfl).1 valid
  intro visited listed
  obtain ⟨member, isSection⟩ := mem_collect_singleton.1 listed
  exact isTitle_title (shaped visited member) (wellFormed.everywhere shaped visited member)
    isSection

/-- Giving references to a typed tree ends without a fault and leaves what is wrong with it as it
is. If nothing is, then nothing is wrong with any table of contents that is built, before or
after. Every item of its own lists holds one link to a section, with one label, and perhaps one
list behind it, which is not empty, and these lists are no deeper nested than the limit
allows. -/
theorem validation_operations {references : ReferenceOptions} (wellTyped : references.WellTyped)
    {tree : Tree} (typed : tree.Typed) :
    ((References.assign references tree).fault = none ∧
      (References.assign references tree).tree.violations = tree.violations) ∧
    (tree.violations = [] →
      ∀ document ∈ [tree, (References.assign references tree).tree],
        ∀ (options : ContentsOptions) (table : Tree),
          (build options document).value = .ok table →
          table.violations = [] ∧ table.firstViolation? = none ∧
          ∀ depth list, OwnList table depth list →
            list.kind? = some .orderedList ∧
            (∀ item ∈ list.children, LaidOut document item) ∧
            (options.check = .ok options → ∀ limit : Int,
              options.maxDepth.scalar?.bind Scalar.whole? = some limit →
                (depth : Int) ≤ limit)) := by
  refine ⟨⟨(References.assign_give wellTyped tree).2, violations_assign references tree⟩,
    fun valid document among options table built => ?_⟩
  obtain ⟨fallback, isText, -⟩ := wellTyped.fallback
  have shapedAfter := References.shaped_assign ⟨fallback, isText⟩ typed.shaped
  have validAfter := (violations_assign references tree).trans valid
  obtain ⟨shaped, fine⟩ : document.Shaped ∧ document.violations = [] := by
    simp only [List.mem_cons, List.not_mem_nil, or_false] at among
    rcases among with rfl | rfl
    · exact ⟨typed.shaped, valid⟩
    · exact ⟨shapedAfter, validAfter⟩
  obtain rfl := Contents.eq_of_build built
  have titles := isTitle_of_valid shaped fine
  have itemsAt : ∀ item ∈ forestWithin options 0 document, ItemAt options document 0 item :=
    itemAt_forestWithin (fun _ member => member) 0
  have wellFormed : (orderedList (forestWithin options 0 document)).WellFormed :=
    wellFormed_orderedList (fun item member => ((itemsAt item member).wellFormed titles).1)
      fun item member => ((itemsAt item member).wellFormed titles).2
  have nothing := (violations_eq_nil_iff rfl).2 wellFormed
  refine ⟨nothing, by rw [firstViolation?_eq, nothing]; rfl, fun depth list own => ?_⟩
  obtain ⟨level, held, rfl, rfl, some, heldAt⟩ := own.items itemsAt
  refine ⟨rfl, fun item member => ?laidOut, fun accepted limit limited => ?limit⟩
  case laidOut =>
    rw [orderedList, children_ofList] at member
    exact (heldAt item member).laidOut
  case limit =>
    have least := one_le_limit limited accepted
    by_cases top : level = 0
    · omega
    · obtain ⟨item, member⟩ := List.exists_mem_of_ne_nil held (some top)
      have within : options.beyond level = false := by
        cases heldAt item member with
        | of _ within _ => exact within
      rw [beyond_eq limited, decide_eq_false_iff_not] at within
      omega

/-- A section whose title holds a list with a section in it, and one more section. -/
def listedTitle : Tree :=
  .node (.document {}) [] [.many [
    ofSection (ofList .bold [orderedList [listItem [ofSection (ofText "b") []]]])
      [ofSection (ofText "c") []]]]

/-- Both inner sections are listed below the outer one, whose title is a label with its list. -/
theorem validation_listedTitle :
    ReferenceOptions.WellTyped {} ∧ listedTitle.Typed ∧ listedTitle.violations = [] ∧
    (References.assign {} listedTitle).tree.violations = [] ∧
    ∃ table below, (build { maxDepth := .int 2 } listedTitle).value = .ok table ∧
      table.violations = [] ∧ OwnList table 2 (orderedList below) ∧ below.length = 2 ∧
      ∀ depth list, OwnList table depth list → depth ≤ 2 := by
  have wellTyped := ReferenceOptions.wellTyped_default
  have typed : listedTitle.Typed := by decide
  have valid : listedTitle.violations = [] := by decide
  let label := ofList .bold [orderedList [listItem [ofSection (ofText "b") []]]]
  let below := [listItem [internalLink (.text "") [ofText "b"]],
    listItem [internalLink (.text "") [ofText "c"]]]
  have built : (build { maxDepth := .int 2 } listedTitle).value =
      .ok (orderedList [listItem [internalLink (.text "") [label], orderedList below]]) := by
    with_unfolding_all rfl
  obtain ⟨⟨-, same⟩, tables⟩ := validation_operations wellTyped typed
  obtain ⟨nothing, -, lists⟩ := tables valid listedTitle List.mem_cons_self _ _ built
  refine ⟨wellTyped, typed, valid, same.trans valid, _, below, built, nothing, ?_, rfl,
    fun depth list own => ?_⟩
  · exact .nested .table (List.mem_singleton_self _) (List.mem_cons_of_mem _ List.mem_cons_self) rfl
  · have limited := (lists depth list own).2.2 (by rfl) 2 rfl
    omega

end Contents

end Folio
