import Folio.Proofs.Contents.InPlace

/-!
# The stack of a table built in place

A builder that adds to its table at every visit sees depths only, but what is on its stack is told
by the tree: on the entry of the table, which is never taken off, there is one entry for each listed
section around the visited node (`OpenAround`). Their items are in the table, and the nested lists
that they have are the last children of the items. That the sections are those around the node is
`close_stack`; here their entries are followed into the table.
-/

namespace Folio.Contents

open Folio.Tree OpenSection

/-- An entry stands for the section at a position: it has the depth of the section's visit and an
item in the table, which links to the section and has the nested list of the entry, if there is
one, as its last child. -/
def StandsFor (tree table : Tree) (entry : OpenPlace) (place : Position) : Prop :=
  entry.depth = place.length ∧
    ∃ visited item below, tree.at? place = some visited ∧ entry.item = some item ∧
      table.at? item = some (listItem (linkTo visited :: below)) ∧
      ∀ list, entry.nested = some list →
        list = item ++ [below.length] ∧ ∃ items, below.getLast? = some (orderedList items)

/-- What is on the stack at the visit of a position, once the sections are taken off that it lies
outside of. -/
structure OpenAround (options : ContentsOptions) (tree : Tree) (place : Position) (table : Tree)
    (stack : List OpenPlace) : Prop where
  lowest : stack.getLast? = some .root
  deepening : stack.Pairwise fun inner outer => outer.depth < inner.depth
  sections : List.Forall₂ (StandsFor tree table) stack.dropLast.reverse
    (listedAbove options 0 tree place)

variable {options : ContentsOptions} {tree : Tree} {place : Position}

/-- The entry of an open section stands for what the section does. -/
theorem Opens.standsFor {table : Tree} {entry parent : OpenSection} {rest : List OpenSection}
    (opens : Opens tree 0 entry place) {hasList : Bool} (nested : List Tree)
    (inTable : table.at? (listPlace (parent :: rest) ++ [parent.items.length]) =
      some (listItem (entry.link.toList ++ nested)))
    (isNested : hasList = true → ∃ items, nested = [orderedList items]) :
    StandsFor tree table (placeOf hasList entry (parent :: rest)) place := by
  obtain ⟨atDepth, visited, stands, isLink⟩ := opens
  refine ⟨by rw [depth_placeOf, atDepth, Int.zero_add], visited, _, nested, stands, rfl,
    by rw [inTable, isLink]; rfl, fun list isList => ?_⟩
  cases hasList with
  | false => cases isList
  | true =>
    cases isList
    obtain ⟨items, rfl⟩ := isNested rfl
    exact ⟨rfl, items, rfl⟩

/-- Sections around an open one have their lists in the table. -/
theorem exists_placesBelow {opened : List OpenSection} {lowest : OpenSection}
    {sections : List Position} (based : Based (opened ++ [lowest]))
    (opens : List.Forall₂ (Opens tree 0) opened sections) (items : List Tree) :
    ∃ inner, placesBelow (opened ++ [lowest]) = inner ++ [⟨lowest.depth, none, some []⟩] ∧
      List.Forall₂ (StandsFor tree (around (opened ++ [lowest]) (orderedList items))) inner
        sections := by
  induction opens generalizing items with
  | nil => exact ⟨[], rfl, .nil⟩
  | @cons entry place opened sections opensHere others hypothesis =>
    rw [List.cons_append] at based ⊢
    cases below : opened ++ [lowest] with
    | nil => simp at below
    | cons parent rest =>
      rw [below] at based hypothesis
      obtain ⟨inner, isInner, stand⟩ := hypothesis based.2.2
        (parent.items ++ [listItem (entry.link.toList ++ [orderedList items])])
      -- The section inside is the last item of the list of the one around it.
      refine ⟨_ :: inner, by rw [placesBelow, isInner]; rfl, .cons ?_ stand⟩
      refine opensHere.standsFor [orderedList items] ?_ fun _ => ⟨items, rfl⟩
      exact at?_around_last based.2.2 parent.items _

/-- The entries of open sections stand for them, whether the innermost one has a list or not. -/
theorem exists_places {opened : List OpenSection} {lowest : OpenSection}
    {sections : List Position} (based : Based (opened ++ [lowest]))
    (opens : List.Forall₂ (Opens tree 0) opened sections) :
    ∃ inner, places (opened ++ [lowest]) = inner ++ [⟨lowest.depth, none, some []⟩] ∧
      List.Forall₂ (StandsFor tree (drawn (opened ++ [lowest]))) inner sections := by
  cases opens with
  | nil => exact ⟨[], rfl, .nil⟩
  | @cons entry place opened sections opensHere others =>
    rw [List.cons_append] at based ⊢
    cases below : opened ++ [lowest] with
    | nil => simp at below
    | cons parent rest =>
      rw [below] at based
      obtain ⟨inner, isInner, stand⟩ := exists_placesBelow (below ▸ based.2.2) others
        (parent.items ++ [entry.item])
      rw [below] at isInner stand
      refine ⟨_ :: inner, by rw [places, isInner]; rfl, .cons ?_ stand⟩
      refine opensHere.standsFor
        (if entry.items.isEmpty then [] else [orderedList entry.items]) ?_ fun hasList =>
          ⟨entry.items, by simpa using hasList⟩
      exact at?_around_last based.2.2 parent.items entry.item

/-- What is listed around a position is met on the way down to it. -/
theorem pairwise_listedAbove (options : ContentsOptions) (level : Nat) (tree : Tree)
    (place : Position) :
    (listedAbove options level tree place).Pairwise fun outer inner =>
      outer.length < inner.length := by
  have ascending : place.inits.Pairwise fun outer inner => outer.length < inner.length := by
    induction place with
    | nil => simp
    | cons number place hypothesis =>
      rw [List.inits_cons, List.pairwise_cons, List.pairwise_map]
      refine ⟨fun inner member => ?_, hypothesis.imp fun shorter => Nat.succ_lt_succ shorter⟩
      obtain ⟨before, _, rfl⟩ := List.mem_map.1 member
      exact Nat.succ_pos _
  exact (ascending.sublist (List.dropLast_sublist _)).filter _

/-- Open places have the depths of the sections that they stand for. -/
theorem depths_eq {table : Tree} {entries : List OpenPlace} {sections : List Position}
    (stand : List.Forall₂ (StandsFor tree table) entries sections) :
    entries.map (·.depth) = sections.map fun place => (place.length : Int) := by
  induction stand with
  | nil => rfl
  | cons here _ hypothesis => rw [List.map_cons, List.map_cons, hypothesis, here.1]

/-- Entries for the sections around a position, on the entry of the table. -/
theorem OpenAround.of_inner {table : Tree} {inner : List OpenPlace}
    (stand : List.Forall₂ (StandsFor tree table) inner
      (listedAbove options 0 tree place).reverse) :
    OpenAround options tree place table (inner ++ [.root]) where
  lowest := List.getLast?_concat
  deepening := by
    have depths : inner.map (·.depth) = _ := depths_eq stand
    have ascending : (inner.map (·.depth)).Pairwise fun inner outer => outer < inner := by
      rw [depths, List.map_reverse, List.pairwise_reverse, List.pairwise_map]
      exact (pairwise_listedAbove options 0 tree place).imp Int.ofNat_lt.2
    refine List.pairwise_append.2 ⟨List.pairwise_map.1 ascending, List.pairwise_singleton _ _,
      fun entry member root isRoot => ?_⟩
    obtain rfl := List.mem_singleton.1 isRoot
    have isDepth : entry.depth ∈ inner.map (·.depth) := List.mem_map_of_mem member
    rw [depths] at isDepth
    obtain ⟨section', _, isLength⟩ := List.mem_map.1 isDepth
    have below : OpenPlace.root.depth = -1 := rfl
    omega
  sections := by
    rw [List.dropLast_concat]
    exact List.forall₂_reverse_iff.1 (by rwa [List.reverse_reverse])

/-- The places of open sections have their depths. -/
theorem depths_places (stack : List OpenSection) :
    (places stack).map (·.depth) = stack.map (·.depth) := by
  have below (stack : List OpenSection) :
      (placesBelow stack).map (·.depth) = stack.map (·.depth) := by
    induction stack with
    | nil => rfl
    | cons entry rest hypothesis =>
      rw [placesBelow, List.map_cons, List.map_cons, depth_placeOf, hypothesis]
  cases stack with
  | nil => rfl
  | cons entry rest => rw [places, List.map_cons, List.map_cons, depth_placeOf, below]

/-- A table that is built in place is the table, so the stack never runs empty, and there always is
a list to add to. At every visit that is reached, once the sections are taken off that it lies
outside of, the stack holds the entry of the table, and on it one entry for each listed section
around the visited node, from the outermost to the innermost and with growing depths. The stack of
sections with their items has the same depths. -/
theorem grow_stack (options : ContentsOptions) (tree : Tree) :
    grow options tree = some (build options tree) ∧
    ∀ (index : Nat) (depth : Int) (visited : Tree) (growing : Growing),
      (tree.visits 0)[index]? = some (depth, visited) →
      growAll options .start ((tree.visits 0).take index) = some (.ok growing) →
      ∃ place state parent rest, tree.positions[index]? = some place ∧
        tree.at? place = some visited ∧ depth = place.length ∧
        visitAll options { stack := [bottom] } ((tree.visits 0).take index) = .ok state ∧
        pop depth growing.stack = some (parent, rest) ∧
        (parent :: rest).map (·.depth) = (close depth state.stack).map (·.depth) ∧
        OpenAround options tree place growing.table (parent :: rest) := by
  refine ⟨grow_eq options tree, fun index depth visited growing isVisit passed => ?_⟩
  obtain ⟨place, isPlace, stands, atDepth⟩ := exists_place isVisit
  rw [Int.zero_add] at atDepth
  have visible : ∀ call ∈ (tree.visits 0).take index, 0 ≤ call.1 := fun call member =>
    visible_visits tree call (List.mem_of_mem_take member)
  obtain ⟨agree, based⟩ := growAll_start options visible
  rw [agree] at passed
  cases ran : visitAll options { stack := [bottom] } ((tree.visits 0).take index) with
  | error refusal => simp [ran, Except.map] at passed
  | ok state =>
    obtain rfl : state.inPlace = growing := by simpa [ran, Except.map] using passed
    obtain ⟨opened, items, closed, opens⟩ :=
      close_stack isPlace rfl (close_of_settled trivial : close 0 [bottom] = [bottom]) ran
    obtain ⟨parent, rest, isStack, basedHere, popped⟩ :=
      pop_places (by omega : 0 ≤ depth) (based state ran)
    have isTable : state.inPlace.table = drawn (parent :: rest) := by
      rw [← isStack, drawn_close]
      rfl
    rw [Int.zero_add, ← atDepth, isStack] at closed
    refine ⟨place, state, _, _, isPlace, stands, atDepth, rfl, popped, ?_, ?_⟩
    · rw [isStack]
      exact depths_places (parent :: rest)
    · rw [isTable, ← places, closed]
      obtain ⟨inner, isInner, stand⟩ := exists_places (closed ▸ basedHere)
        (List.forall₂_reverse_iff.1 (by rwa [List.reverse_reverse]) :
          List.Forall₂ (Opens tree 0) opened (listedAbove options 0 tree place).reverse)
      rw [isInner]
      exact .of_inner stand

/-- A section with two inside. The first of them holds a section that two levels leave out. -/
def branching : Tree :=
  ofSection (ofText "A") [
    ofSection (ofText "B") [ofSection (ofText "C") [] (.text "c")] (.text "b"),
    ofSection (ofText "D") [] (.text "d")] (.text "a")

/-- The visit after that of the title of C is two levels higher. It takes off the entry of B, and
there has been none for C. -/
theorem grow_stack_branching :
    let options : ContentsOptions := { maxDepth := .int 2 }
    (branching.visits 0)[6]? = some (1, ofSection (ofText "D") [] (.text "d")) ∧
    ∃ growing, growAll options .start ((branching.visits 0).take 6) = some (.ok growing) ∧
      growing.stack =
        [⟨1, some [0, 1, 0], none⟩, ⟨0, some [0], some [0, 1]⟩, ⟨-1, none, some []⟩] ∧
      OpenAround options branching [2] growing.table
        [⟨0, some [0], some [0, 1]⟩, ⟨-1, none, some []⟩] := by
  intro options
  have isVisit : (branching.visits 0)[6]? = some (1, ofSection (ofText "D") [] (.text "d")) := rfl
  refine ⟨isVisit, _, rfl, rfl, ?_⟩
  obtain ⟨place, _, parent, rest, isPlace, _, _, _, popped, _, open'⟩ :=
    (grow_stack options branching).2 6 1 _ _ isVisit rfl
  obtain rfl : [2] = place := Option.some.inj isPlace
  obtain ⟨rfl, rfl⟩ := Prod.mk.inj (Option.some.inj popped)
  exact open'

end Folio.Contents
