import Folio.Proofs.Contents.Required
import Folio.Proofs.Tree.Relabelling
import Folio.Proofs.Tree.Visits

/-!
# Numbers of listed sections

An outline numbers neighbours as it goes through nested lists. The numbers can be told from the
tree itself, without any list: the number of a listed section is its rank among the listed
sections with the same parent, which is the innermost listed section around it
(`Contents.rankAt`), and it is indented by the number of listed sections around it. Positions of
sections with one parent are a family; a family of a tree is found in one of its children, or it
is made of what the children have without a parent (`Contents.family_parentOfRoots`), and that is
what counters go through.
-/

namespace Folio.Contents

open Folio.Tree

variable (options : ContentsOptions)

/-- The number of listed sections around the children of a tree that lies inside `level` of
them. -/
def levelBelow (level : Nat) (tree : Tree) : Nat :=
  if isListed options level tree then level + 1 else level

/-- The number of listed sections around a position in a tree that lies inside `level` of them. -/
def levelAt : Nat → Tree → Position → Nat
  | level, _, [] => level
  | level, tree, index :: rest =>
    match tree.children[index]? with
    | some child => levelAt (levelBelow options level tree) child rest
    | none => levelBelow options level tree

/-- At a position of a tree that lies inside `level` listed sections stands a listed one. -/
def listedAt (level : Nat) (tree : Tree) (place : Position) : Bool :=
  match tree.at? place with
  | some visited => isListed options (levelAt options level tree place) visited
  | none => false

/-- The positions of the listed sections, in the order of a visit. -/
def listedPlaces (level : Nat) (tree : Tree) : List Position :=
  tree.positions.filter (listedAt options level tree)

/-- The positions of the listed sections around a position, the outermost first. -/
def listedAbove (level : Nat) (tree : Tree) (place : Position) : List Position :=
  place.inits.dropLast.filter (listedAt options level tree)

/-- The position of the innermost listed section around a position. -/
def parentAt (level : Nat) (tree : Tree) (place : Position) : Option Position :=
  (listedAbove options level tree place).getLast?

/-- The positions of the listed sections with a parent, or without one. -/
def family (level : Nat) (tree : Tree) (parent : Option Position) : List Position :=
  (listedPlaces options level tree).filter fun place => parentAt options level tree place == parent

/-- The rank of a listed section among those with the same parent, counted from 1. -/
def rankAt (level : Nat) (tree : Tree) (place : Position) : Nat :=
  (family options level tree (parentAt options level tree place)).idxOf place + 1

section Children

variable {options} {level index : Nat} {tree child : Tree} {place : Position}

/-- Below a child, a place is listed as in that child. -/
theorem listedAt_cons (isChild : tree.children[index]? = some child) :
    listedAt options level tree (index :: place) =
      listedAt options (levelBelow options level tree) child place := by
  simp only [listedAt, levelAt, at?, isChild, Option.bind_some]

/-- The tree comes first, if it is listed, and then what is listed in its children. -/
theorem listedPlaces_eq (level : Nat) (tree : Tree) : listedPlaces options level tree =
    (if isListed options level tree then [[]] else []) ++
      tree.children.zipIdx.flatMap fun entry =>
        (listedPlaces options (levelBelow options level tree) entry.1).map (entry.2 :: ·) := by
  have inChildren : (tree.children.zipIdx.flatMap fun entry =>
      entry.1.positions.map (entry.2 :: ·)).filter (listedAt options level tree) =
      tree.children.zipIdx.flatMap fun entry =>
        (listedPlaces options (levelBelow options level tree) entry.1).map (entry.2 :: ·) := by
    rw [List.filter_flatMap]
    refine List.flatMap_congr fun entry member => ?_
    rw [List.filter_map, listedPlaces]
    refine congrArg _ (List.filter_congr fun place _ => ?_)
    exact listedAt_cons (List.mem_zipIdx_iff_getElem?.1 member)
  rw [listedPlaces, positions_eq, List.filter_cons, inChildren]
  have root : listedAt options level tree [] = isListed options level tree := rfl
  rw [root]
  split <;> rfl

/-- What is listed around a position is the tree, if it is listed, and then what is listed around
the position in the child. -/
theorem listedAbove_cons (isChild : tree.children[index]? = some child) :
    listedAbove options level tree (index :: place) =
      (if isListed options level tree then [[]] else []) ++
        (listedAbove options (levelBelow options level tree) child place).map (index :: ·) := by
  have inits : (index :: place).inits.dropLast = [] :: place.inits.dropLast.map (index :: ·) := by
    rw [List.inits_cons, List.dropLast_cons_of_ne_nil (by cases place <;> simp), List.map_dropLast]
  have below : (place.inits.dropLast.map (index :: ·)).filter (listedAt options level tree) =
      (listedAbove options (levelBelow options level tree) child place).map (index :: ·) := by
    rw [List.filter_map, listedAbove]
    exact congrArg _ (List.filter_congr fun before _ => listedAt_cons isChild)
  have root : listedAt options level tree [] = isListed options level tree := rfl
  rw [listedAbove, inits, List.filter_cons, below, root]
  split <;> rfl

/-- The parent of what has none in a child. -/
def parentOfRoots (options : ContentsOptions) (level : Nat) (tree : Tree) : Option Position :=
  if isListed options level tree then some [] else none

/-- The parent of a place below a child is found there, or else is the root if that is listed. -/
theorem parentAt_cons (isChild : tree.children[index]? = some child) :
    parentAt options level tree (index :: place) =
      ((parentAt options (levelBelow options level tree) child place).map (index :: ·)).or
        (parentOfRoots options level tree) := by
  rw [parentAt, listedAbove_cons isChild, List.getLast?_append, List.getLast?_map, parentOfRoots]
  split <;> rfl

/-- The level of a position is the number of listed sections around it. -/
theorem levelAt_eq {visited : Tree} (stands : tree.at? place = some visited) :
    levelAt options level tree place = level + (listedAbove options level tree place).length := by
  induction place generalizing level tree with
  | nil => rfl
  | cons index rest hypothesis =>
    obtain ⟨child, isChild, stands⟩ := Option.bind_eq_some_iff.1 stands
    have inChild : levelAt options (levelBelow options level tree) child rest = _ :=
      hypothesis stands
    have deeper : levelBelow options level tree =
        level + (if isListed options level tree then [([] : Position)] else []).length := by
      rw [levelBelow]
      split <;> rfl
    rw [listedAbove_cons isChild, List.length_append, List.length_map, levelAt, isChild]
    dsimp only
    omega

/-- A family is made of what the children have for it, behind the tree itself if that is listed and
the family has no parent. -/
theorem family_eq (level : Nat) (tree : Tree) (parent : Option Position) :
    family options level tree parent =
      (if isListed options level tree ∧ parent = none then [[]] else []) ++
        tree.children.zipIdx.flatMap fun entry =>
          ((listedPlaces options (levelBelow options level tree) entry.1).filter fun place =>
            ((parentAt options (levelBelow options level tree) entry.1 place).map
              (entry.2 :: ·)).or (parentOfRoots options level tree) == parent).map
                (entry.2 :: ·) := by
  rw [family, listedPlaces_eq, List.filter_append, List.filter_flatMap]
  congr 1
  · have root : parentAt options level tree [] = none := rfl
    cases isListed options level tree <;> cases parent <;> simp [root]
  · refine List.flatMap_congr fun entry member => ?_
    rw [List.filter_map]
    refine congrArg _ (List.filter_congr fun place _ => ?_)
    rw [Function.comp_apply, parentAt_cons (List.mem_zipIdx_iff_getElem?.1 member)]

/-- What is in a child has a parent in a child exactly if it has it there. -/
theorem or_parentOfRoots_in_child (inChild : Option Position) (other : Nat) (parent : Position) :
    ((inChild.map (other :: ·)).or (parentOfRoots options level tree) == some (index :: parent)) =
      (other == index && inChild == some parent) := by
  have root : parentOfRoots options level tree ≠ some (index :: parent) := by
    rw [parentOfRoots]
    split <;> simp
  cases inChild with
  | none => simpa using root
  | some found => simp

/-- What is in a child has the parent of roots exactly if it has none there. -/
theorem or_parentOfRoots_of_root (inChild : Option Position) :
    ((inChild.map (index :: ·)).or (parentOfRoots options level tree) ==
      parentOfRoots options level tree) = (inChild == none) := by
  cases inChild with
  | none => simp
  | some found =>
    rw [parentOfRoots]
    split <;> simp

/-- A family with a parent in a child is a family of that child. -/
theorem family_in_child {before after : List Tree}
    (split : tree.children = before ++ child :: after) (parent : Position) :
    family options level tree (some (before.length :: parent)) =
      (family options (levelBelow options level tree) child (some parent)).map
        (before.length :: ·) := by
  have elsewhere (trees : List Tree) (start : Nat)
      (apart : ∀ entry ∈ trees.zipIdx start, entry.2 ≠ before.length) :
      ((trees.zipIdx start).flatMap fun entry =>
        ((listedPlaces options (levelBelow options level tree) entry.1).filter fun place =>
          entry.2 == before.length &&
            parentAt options (levelBelow options level tree) entry.1 place == some parent).map
              (entry.2 :: ·)) = [] := by
    refine List.flatMap_eq_nil_iff.2 fun entry member => ?_
    simp [apart entry member]
  rw [family_eq]
  simp only [or_parentOfRoots_in_child, split, List.zipIdx_append, List.flatMap_append,
    List.zipIdx_cons, List.flatMap_cons]
  rw [elsewhere, elsewhere]
  · simp [family]
  · intro entry member
    have := List.le_snd_of_mem_zipIdx member
    omega
  · intro entry member
    have := List.snd_lt_of_mem_zipIdx member
    omega

/-- A family whose parent is the tree, or which has none, is made of what has no parent in the
children. -/
theorem family_parentOfRoots (level : Nat) (tree : Tree) :
    family options level tree (parentOfRoots options level tree) =
      tree.children.zipIdx.flatMap fun entry =>
        (family options (levelBelow options level tree) entry.1 none).map (entry.2 :: ·) := by
  rw [family_eq]
  simp only [or_parentOfRoots_of_root]
  rw [if_neg]
  · rfl
  · rw [parentOfRoots]
    split <;> simp_all

/-- A listed tree is the only one in it without a parent. -/
theorem family_none_of_listed (isListed : isListed options level tree = true) :
    family options level tree none = [[]] := by
  rw [family_eq, if_pos ⟨isListed, rfl⟩, List.flatMap_eq_nil_iff.2]
  · rfl
  · intro entry _
    simp [parentOfRoots, isListed]

/-- The listed sections without a parent in several trees are as many as the items, if they are in
each. -/
theorem length_roots {trees : List Tree} (each : ∀ tree ∈ trees,
      (family options level tree none).length = (forestWithin options level tree).length)
    (start : Nat) :
    ((trees.zipIdx start).flatMap fun entry =>
      (family options level entry.1 none).map (entry.2 :: ·)).length =
        (trees.flatMap (forestWithin options level)).length := by
  induction trees generalizing start with
  | nil => rfl
  | cons tree rest hypothesis =>
    obtain ⟨here, each⟩ := List.forall_mem_cons.1 each
    rw [List.zipIdx_cons, List.flatMap_cons, List.flatMap_cons, List.length_append,
      List.length_append, List.length_map, here, hypothesis each]

/-- A tree has as many items as listed sections without a parent. -/
theorem length_family_none (options : ContentsOptions) (level : Nat) (tree : Tree) :
    (family options level tree none).length = (forestWithin options level tree).length := by
  induction tree using childInduction generalizing level with
  | step tree below =>
    by_cases isListed : isListed options level tree = true
    · rw [family_none_of_listed isListed, forestWithin_of_listed isListed]
      rfl
    · have notListed : Contents.isListed options level tree = false := by simpa using isListed
      have root : parentOfRoots options level tree = none := by rw [parentOfRoots, if_neg isListed]
      have same : levelBelow options level tree = level := by rw [levelBelow, if_neg isListed]
      rw [← root, family_parentOfRoots, forestWithin_of_not_listed notListed, same]
      exact length_roots (fun child member => below child member level) 0

/-- The number of a listed section in a tree whose items are numbered from a number on. -/
def numberAt (options : ContentsOptions) (level start : Nat) (tree : Tree) (place : Position) :
    Nat :=
  let parent := parentAt options level tree place
  (family options level tree parent).idxOf place + if parent.isNone then start else 1

/-- Items that are numbered from 1 on have their rank as number. -/
theorem numberAt_one (level : Nat) (tree : Tree) (place : Position) :
    numberAt options level 1 tree place = rankAt options level tree place := by
  rw [numberAt, rankAt, ite_self]

/-- The number of the first item in the children of a tree whose own items are numbered from a
number on. -/
def startBelow (options : ContentsOptions) (level start : Nat) (tree : Tree) : Nat :=
  if isListed options level tree then 1 else start

/-- Numbers start anew below a listed section, and go on below any other tree. -/
theorem startBelow_eq (level start : Nat) (tree : Tree) : startBelow options level start tree =
    if (parentOfRoots options level tree).isNone then start else 1 := by
  rw [startBelow, parentOfRoots]
  split <;> rfl

/-- What is listed in a child is numbered from the number on that follows the items of the
children before. -/
theorem numberAt_cons {before after : List Tree} (start : Nat)
    (split : tree.children = before ++ child :: after)
    (isListed : place ∈ listedPlaces options (levelBelow options level tree) child) :
    numberAt options level start tree (before.length :: place) =
      numberAt options (levelBelow options level tree)
        (startBelow options level start tree +
          (before.flatMap (forestWithin options (levelBelow options level tree))).length)
        child place := by
  have isChild : tree.children[before.length]? = some child := by simp [split]
  have sameIndex (places : List Position) :
      (places.map (before.length :: ·)).idxOf (before.length :: place) = places.idxOf place := by
    induction places with
    | nil => rfl
    | cons first rest hypothesis => simp [List.idxOf_cons, hypothesis]
  rw [numberAt, numberAt, parentAt_cons isChild]
  cases parent : parentAt options (levelBelow options level tree) child place with
  | some found =>
    simp [family_in_child split, sameIndex]
  | none =>
    have inFamily : place ∈ family options (levelBelow options level tree) child none :=
      List.mem_filter.2 ⟨isListed, by simp [parent]⟩
    have notBefore : before.length :: place ∉ (before.zipIdx 0).flatMap fun entry =>
        (family options (levelBelow options level tree) entry.1 none).map (entry.2 :: ·) := by
      intro member
      obtain ⟨entry, inBefore, inEntry⟩ := List.mem_flatMap.1 member
      obtain ⟨other, -, same⟩ := List.mem_map.1 inEntry
      have := List.snd_lt_of_mem_zipIdx inBefore
      have := (List.cons.inj same).1
      omega
    rw [Option.map_none, Option.none_or, Option.isNone_none, if_pos rfl, family_parentOfRoots,
      split, List.zipIdx_append, List.flatMap_append, List.zipIdx_cons, List.flatMap_cons,
      startBelow_eq, List.idxOf_append_of_notMem notBefore, Nat.zero_add,
      List.idxOf_append_of_mem (List.mem_map_of_mem inFamily), sameIndex,
      length_roots fun _ _ => length_family_none ..]
    omega

end Children

/-- The text of the title at a position. -/
def titleAt (tree : Tree) (place : Position) : String :=
  ((tree.at? place).map titleText).getD ""

/-- The reference at a position, as text. -/
def referenceAt (tree : Tree) (place : Position) : String :=
  ((tree.at? place).map fun visited => visited.reference.plain).getD ""

/-- A line of an outline. -/
def line (level number : Nat) (title reference : String) : String :=
  String.join (List.replicate level "  ") ++ s!"{number}. " ++ title ++ " (#" ++ reference ++ ")"

/-- The line for a listed section, in a tree whose items are numbered from a number on. -/
def lineAt (level start : Nat) (tree : Tree) (place : Position) : String :=
  line (levelAt options level tree place) (numberAt options level start tree place)
    (titleAt tree place) (referenceAt tree place)

variable {options}

/-- The line for a place below a child is its line there, numbered behind those of the children
before. -/
theorem lineAt_cons {level start : Nat} {tree child : Tree} {before after : List Tree}
    {place : Position} (split : tree.children = before ++ child :: after)
    (isListed : place ∈ listedPlaces options (levelBelow options level tree) child) :
    lineAt options level start tree (before.length :: place) =
      lineAt options (levelBelow options level tree) (startBelow options level start tree +
        (before.flatMap (forestWithin options (levelBelow options level tree))).length)
        child place := by
  have isChild : tree.children[before.length]? = some child := by simp [split]
  have stands : tree.at? (before.length :: place) = child.at? place := by
    rw [at?, isChild, Option.bind_some]
  have level : levelAt options level tree (before.length :: place) =
      levelAt options (levelBelow options level tree) child place := by
    rw [levelAt, isChild]
  rw [lineAt, lineAt, numberAt_cons start split isListed, level, titleAt, titleAt, referenceAt,
    referenceAt, stands]

/-- Joined outlines have their lines one after the other, with the numbers going on. -/
theorem linesFrom_append (level number : Nat) (first second : List Outline) :
    Outline.linesFrom level number (first ++ second) =
      Outline.linesFrom level number first ++
        Outline.linesFrom level (number + first.length) second := by
  induction first generalizing number with
  | nil => rfl
  | cons entry rest hypothesis =>
    rw [List.cons_append, Outline.linesFrom, Outline.linesFrom, hypothesis, List.append_assoc,
      List.length_cons, Nat.add_comm rest.length, Nat.add_assoc]

/-- Each item has one entry. -/
theorem length_ofItems (items : List Tree) : (Outline.ofItems items).length = items.length := by
  induction items with
  | nil => rfl
  | cons item rest hypothesis =>
    rw [Outline.ofItems, List.length_cons, List.length_cons, hypothesis]

/-- The label of a link is the title of its section. -/
theorem text_linkTo (visited : Tree) : (linkTo visited).text = visited.titleText := by
  have isLabel : (linkTo visited).children = [visited.title] := rfl
  have unlabelled : (linkTo visited).ownText = "" := rfl
  rw [text_eq, unlabelled, isLabel, titleText]
  simp

/-- The lines of the item of a section: its own, and those of the items below it. -/
theorem linesFrom_itemOf (level number : Nat) (visited : Tree) (below : List Tree) :
    Outline.linesFrom level number (Outline.ofItems [itemOf visited below]) =
      line level number visited.titleText visited.reference.plain ::
        Outline.linesFrom (level + 1) 1 (Outline.ofItems below) := by
  rw [Outline.ofItems, Outline.ofItems, Outline.linesFrom, Outline.linesFrom,
    Outline.ofItem_itemOf, Outline.lines, text_linkTo, List.append_nil, line]

/-- A listed tree has the first number. -/
theorem lineAt_root {level start : Nat} {tree : Tree}
    (isListed : isListed options level tree = true) : lineAt options level start tree [] =
      line level start tree.titleText tree.reference.plain := by
  have root : parentAt options level tree [] = none := rfl
  have number : numberAt options level start tree [] = start := by
    rw [numberAt, root, family_none_of_listed isListed]
    exact Nat.zero_add start
  rw [lineAt, number]
  rfl

/-- The lines of some children of a tree, if each of them has its own lines. -/
theorem linesFrom_children (level start : Nat) {tree : Tree}
    (below : ∀ child ∈ tree.children, ∀ level start,
      Outline.linesFrom level start (Outline.ofItems (forestWithin options level child)) =
        (listedPlaces options level child).map (lineAt options level start child))
    {before after : List Tree} (split : tree.children = before ++ after) :
    Outline.linesFrom (levelBelow options level tree) (startBelow options level start tree +
        (before.flatMap (forestWithin options (levelBelow options level tree))).length)
        (Outline.ofItems (after.flatMap (forestWithin options (levelBelow options level tree)))) =
      (after.zipIdx before.length).flatMap fun entry =>
        ((listedPlaces options (levelBelow options level tree) entry.1).map (entry.2 :: ·)).map
          (lineAt options level start tree) := by
  induction after generalizing before with
  | nil => rfl
  | cons child rest hypothesis =>
    have isChild : child ∈ tree.children := by simp [split]
    have next := @hypothesis (before ++ [child]) (by simp [split])
    rw [List.flatMap_append, List.flatMap_singleton, List.length_append, List.length_append,
      List.length_singleton, ← Nat.add_assoc] at next
    rw [List.flatMap_cons, Outline.ofItems_append, linesFrom_append, length_ofItems,
      below child isChild, next, List.zipIdx_cons, List.flatMap_cons, List.map_map]
    congr 1
    exact List.map_congr_left fun place member => (lineAt_cons split member).symm

/-- The lines of an outline of a tree are those of its listed sections, in the order of a visit. -/
theorem linesFrom_forestWithin (level start : Nat) (tree : Tree) :
    Outline.linesFrom level start (Outline.ofItems (forestWithin options level tree)) =
      (listedPlaces options level tree).map (lineAt options level start tree) := by
  induction tree using childInduction generalizing level start with
  | step tree below =>
    have inside := linesFrom_children level start below (List.nil_append tree.children).symm
    rw [List.length_nil, List.flatMap_nil, List.length_nil, Nat.add_zero] at inside
    rw [listedPlaces_eq, List.map_append, List.map_flatMap, ← inside]
    by_cases isListed : isListed options level tree = true
    · have inner : levelBelow options level tree = level + 1 := by rw [levelBelow, if_pos isListed]
      have first : startBelow options level start tree = 1 := by rw [startBelow, if_pos isListed]
      rw [forestWithin_of_listed isListed, if_pos isListed, inner, first, List.map_singleton,
        lineAt_root isListed]
      exact linesFrom_itemOf level start tree _
    · have notListed : Contents.isListed options level tree = false := by simpa using isListed
      rw [forestWithin_of_not_listed notListed, if_neg isListed, levelBelow, if_neg isListed,
        startBelow, if_neg isListed]
      rfl

/-- The lines of the table of contents of a tree. -/
theorem lines_table (options : ContentsOptions) (tree : Tree) :
    Outline.linesFrom 0 1 (Outline.ofContents (orderedList (forestWithin options 0 tree))) =
      (listedPlaces options 0 tree).map fun place =>
        line (listedAbove options 0 tree place).length (rankAt options 0 tree place)
          (titleAt tree place) (referenceAt tree place) := by
  have items : Outline.ofContents (orderedList (forestWithin options 0 tree)) =
      Outline.ofItems (forestWithin options 0 tree) := rfl
  rw [items, linesFrom_forestWithin]
  refine List.map_congr_left fun place member => ?_
  obtain ⟨visited, stands⟩ := mem_positions_iff.1 (List.mem_filter.1 member).1
  rw [lineAt, numberAt_one, levelAt_eq stands, Nat.zero_add]

/-- References have no influence on what is listed. -/
theorem isListed_withoutReferences (level : Nat) (tree : Tree) :
    isListed options level tree.withoutReferences = isListed options level tree := by
  rw [isListed, isListed, isA_section, isA_section, kind?_withoutReferences]

/-- At each place stands the same tree without its references. -/
theorem at?_withoutReferences (tree : Tree) (place : Position) :
    tree.withoutReferences.at? place = (tree.at? place).map withoutReferences := by
  induction place generalizing tree with
  | nil => rfl
  | cons index rest hypothesis =>
    rw [at?, at?, withoutReferences, children_mapHeads, List.getElem?_map]
    cases tree.children[index]? with
    | none => rfl
    | some child => exact hypothesis child

/-- Levels stay without references. -/
theorem levelAt_withoutReferences (level : Nat) (tree : Tree) (place : Position) :
    levelAt options level tree.withoutReferences place = levelAt options level tree place := by
  induction place generalizing level tree with
  | nil => rfl
  | cons index rest hypothesis =>
    rw [levelAt, levelAt, levelBelow, isListed_withoutReferences, ← levelBelow, withoutReferences,
      children_mapHeads, List.getElem?_map]
    cases tree.children[index]? with
    | none => rfl
    | some child => exact hypothesis _ child

/-- References have no influence on what is listed. -/
theorem listedAt_withoutReferences (level : Nat) (tree : Tree) :
    listedAt options level tree.withoutReferences = listedAt options level tree := by
  funext place
  rw [listedAt, listedAt, at?_withoutReferences, levelAt_withoutReferences]
  cases tree.at? place with
  | none => rfl
  | some visited => exact isListed_withoutReferences _ visited

/-- Positions stay without references. -/
theorem positions_withoutReferences (tree : Tree) :
    tree.withoutReferences.positions = tree.positions := by
  induction tree using childInduction with
  | step tree below =>
    rw [positions_eq, positions_eq tree, withoutReferences, children_mapHeads, List.zipIdx_map,
      List.flatMap_map]
    refine congrArg _ (List.flatMap_congr fun entry member => ?_)
    exact congrArg _ (below entry.1 (List.fst_mem_of_mem_zipIdx member))

/-- The text of a title stays without references. -/
theorem titleText_withoutReferences (visited : Tree) :
    visited.withoutReferences.titleText = visited.titleText := by
  cases visited with
  | stray value => rfl
  | node head metadata slots =>
    rcases slots with _ | ⟨title | body, rest⟩
    · rfl
    · exact text_withoutReferences title
    · rfl

/-- So does the title at a place. -/
theorem titleAt_withoutReferences (tree : Tree) (place : Position) :
    titleAt tree.withoutReferences place = titleAt tree place := by
  rw [titleAt, titleAt, at?_withoutReferences]
  cases tree.at? place with
  | none => rfl
  | some visited => exact titleText_withoutReferences visited

end Folio.Contents
