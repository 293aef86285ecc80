import Folio.Proofs.Contents.Layout

/-!
# Tables with a limited depth

A limit on the depth prunes the table of contents: `prune` cuts every branch of a table at one
level, and a limited table is the table without a limit, pruned. The reason is that a section
beyond the limit is skipped without being opened, so that the sections inside it find as many
open sections around them as it did and are skipped in turn; `forestWithin_limited` says so by
recursion over the tree. What pruning leaves is then told without the recursion as well: the
links of the levels that are kept, each at its level and in its place.
-/

namespace Folio

namespace Tree

/-- How deep sections lie in each other: the most sections on a way from the tree down. -/
def sectionDepth (tree : Tree) : Nat :=
  let below := (tree.children.attach.map fun ⟨child, _⟩ => sectionDepth child).foldr max 0
  if tree.isA (.of .section) then below + 1 else below
termination_by tree.size
decreasing_by exact size_lt_of_mem_children ‹_›

/-- The depth of what lies below a tree. -/
def depthBelow (tree : Tree) : Nat := (tree.children.map sectionDepth).foldr max 0

/-- A section is one level deeper than what is in it. -/
theorem sectionDepth_eq (tree : Tree) :
    tree.sectionDepth =
      if tree.isA (.of .section) then tree.depthBelow + 1 else tree.depthBelow := by
  rw [sectionDepth, List.map_subtype (fun _ _ => rfl), List.unattach_attach]
  rfl

/-- No child is deeper than its parent counts. -/
theorem le_depthBelow {child tree : Tree} (member : child ∈ tree.children) :
    child.sectionDepth ≤ tree.depthBelow := by
  have bounded : ∀ depths : List Nat, ∀ depth ∈ depths, depth ≤ depths.foldr max 0 := by
    intro depths
    induction depths with
    | nil => simp
    | cons first rest hypothesis =>
      intro depth inList
      rw [List.foldr_cons]
      rcases List.mem_cons.1 inList with rfl | later
      · exact Nat.le_max_left _ _
      · exact Nat.le_trans (hypothesis depth later) (Nat.le_max_right _ _)
  exact bounded _ _ (List.mem_map_of_mem member)

end Tree

namespace Contents

open Folio.Tree

/-- An item with what stands behind its link changed. -/
def behindLink (change : List Tree → List Tree) : Tree → Tree
  | .node .listItem metadata [.many (link :: nested)] =>
    .node .listItem metadata [.many (link :: change nested)]
  | other => other

/-- A numbered list with each item changed. -/
def eachItem (change : Tree → Tree) : Tree → Tree
  | .node .orderedList metadata [.many items] =>
    .node .orderedList metadata [.many (items.map change)]
  | other => other

/-- A table of contents cut so that at most `deeper` levels are left below its own: with none of
them every item keeps only its link, and otherwise the nested lists are cut one level higher. -/
def prune : Nat → Tree → Tree
  | 0 => eachItem (behindLink fun _ => [])
  | deeper + 1 => eachItem (behindLink (List.map (prune deeper)))

/-- What is left of the lists behind a link in a table with `deeper` levels below its own. -/
def pruneNested : Nat → List Tree → List Tree
  | 0 => fun _ => []
  | deeper + 1 => List.map (prune deeper)

/-- A table is pruned item by item, behind the links. -/
theorem prune_eq (deeper : Nat) : prune deeper = eachItem (behindLink (pruneNested deeper)) := by
  cases deeper <;> rfl

/-- Two changes behind a link are one after the other. -/
theorem behindLink_behindLink (first second : List Tree → List Tree) (item : Tree) :
    behindLink first (behindLink second item) = behindLink (first ∘ second) item := by
  fun_cases behindLink second item with
  | case1 metadata link nested => rfl
  | case2 _ noItem => rw [behindLink.eq_2 _ _ noItem, behindLink.eq_2 _ _ noItem]

/-- Two changes of the items are one after the other. -/
theorem eachItem_eachItem (first second : Tree → Tree) (table : Tree) :
    eachItem first (eachItem second table) = eachItem (first ∘ second) table := by
  fun_cases eachItem second table with
  | case1 metadata items => simp only [eachItem, List.map_map]
  | case2 _ noList => rw [eachItem.eq_2 _ _ noList, eachItem.eq_2 _ _ noList]

/-- Pruning twice is pruning at the lower level. -/
theorem prune_prune (first second : Nat) (table : Tree) :
    prune first (prune second table) = prune (min first second) table := by
  induction first generalizing second table with
  | zero =>
    rw [Nat.zero_min, prune_eq second, prune, eachItem_eachItem]
    congr 1
    funext item
    exact behindLink_behindLink _ _ _
  | succ first hypothesis =>
    have nested : pruneNested (first + 1) ∘ pruneNested second =
        pruneNested (min (first + 1) second) := by
      cases second with
      | zero => rfl
      | succ second =>
        rw [Nat.succ_min_succ]
        funext tables
        simp only [pruneNested, Function.comp_apply, List.map_map]
        exact List.map_congr_left fun table _ => hypothesis second table
    rw [prune_eq, prune_eq, prune_eq, eachItem_eachItem, ← nested]
    congr 1
    funext item
    exact behindLink_behindLink _ _ _

mutual

/-- The links of a numbered list at a level, and those of the lists nested in it, as they are
read, each with its level. -/
def leveledLinks (level : Nat) : Tree → List (Nat × Tree)
  | .node .orderedList _ [.many items] => leveledItems level items
  | _ => []

/-- The links of some items. -/
def leveledItems (level : Nat) : List Tree → List (Nat × Tree)
  | [] => []
  | item :: rest => leveledItem level item ++ leveledItems level rest

/-- The link of an item, and those of the lists behind it. -/
def leveledItem (level : Nat) : Tree → List (Nat × Tree)
  | .node .listItem _ [.many (link :: nested)] => (level, link) :: leveledNested (level + 1) nested
  | _ => []

/-- The links of some nested lists. -/
def leveledNested (level : Nat) : List Tree → List (Nat × Tree)
  | [] => []
  | table :: rest => leveledLinks level table ++ leveledNested level rest

end

/-- Items have their levels one by one. -/
theorem leveledItems_eq (level : Nat) (items : List Tree) :
    leveledItems level items = items.flatMap (leveledItem level) := by
  induction items with
  | nil => rfl
  | cons item rest hypothesis => rw [leveledItems, List.flatMap_cons, hypothesis]

/-- So have the items of nested tables. -/
theorem leveledNested_eq (level : Nat) (tables : List Tree) :
    leveledNested level tables = tables.flatMap (leveledLinks level) := by
  induction tables with
  | nil => rfl
  | cons table rest hypothesis => rw [leveledNested, List.flatMap_cons, hypothesis]

/-- No link stands above the level of its list. -/
theorem le_of_mem_leveled (tree : Tree) :
    (∀ level, ∀ entry ∈ leveledLinks level tree, level ≤ entry.1) ∧
      ∀ level, ∀ entry ∈ leveledItem level tree, level ≤ entry.1 := by
  induction tree using childInduction with
  | step tree below =>
    constructor
    · intro level entry member
      unfold leveledLinks at member
      split at member
      · rw [leveledItems_eq] at member
        obtain ⟨item, isItem, inItem⟩ := List.mem_flatMap.1 member
        exact (below item (by simpa [children, Slot.toList] using isItem)).2 level entry inItem
      · cases member
    · intro level entry member
      unfold leveledItem at member
      split at member
      · rw [leveledNested_eq] at member
        rcases List.mem_cons.1 member with rfl | inNested
        · exact Nat.le_refl _
        · obtain ⟨table, isNested, inTable⟩ := List.mem_flatMap.1 inNested
          have isBelow := below table (by simp [children, Slot.toList, isNested])
          exact Nat.le_of_succ_le (isBelow.1 (level + 1) entry inTable)
      · cases member

/-- A change of items that keeps some of the links of each keeps these of the list. -/
theorem leveledLinks_eachItem {keep : Nat × Tree → Bool} {change : Tree → Tree} {level : Nat}
    (each : ∀ item, leveledItem level (change item) = (leveledItem level item).filter keep)
    (table : Tree) :
    leveledLinks level (eachItem change table) = (leveledLinks level table).filter keep := by
  fun_cases eachItem change table with
  | case1 metadata items =>
    rw [leveledLinks, leveledLinks, leveledItems_eq, leveledItems_eq, List.flatMap_map,
      List.filter_flatMap]
    exact List.flatMap_congr fun item _ => each item
  | case2 _ noList =>
    rw [leveledLinks.eq_2 _ _ noList]
    rfl

/-- A change behind links that keeps some of the links there keeps these of an item with its own
link. -/
theorem leveledItem_behindLink {keep : Nat × Tree → Bool} {change : List Tree → List Tree}
    {level : Nat} (own : ∀ link, keep (level, link) = true)
    (behind : ∀ nested, leveledNested (level + 1) (change nested) =
      (leveledNested (level + 1) nested).filter keep) (item : Tree) :
    leveledItem level (behindLink change item) = (leveledItem level item).filter keep := by
  fun_cases behindLink change item with
  | case1 metadata link nested =>
    rw [leveledItem, leveledItem, List.filter_cons_of_pos (own link), behind]
  | case2 _ noItem =>
    rw [leveledItem.eq_2 _ _ noItem]
    rfl

/-- Pruning keeps the links of the upper levels, each at its level and in its place, and no
other ones. -/
theorem leveledLinks_prune (deeper level : Nat) (table : Tree) :
    leveledLinks level (prune deeper table) =
      (leveledLinks level table).filter fun entry => entry.1 ≤ level + deeper := by
  induction deeper generalizing level table with
  | zero =>
    refine leveledLinks_eachItem (leveledItem_behindLink (by simp) fun nested => ?_) table
    refine (List.filter_eq_nil_iff.2 fun entry member => ?_).symm
    rw [leveledNested_eq] at member
    obtain ⟨inner, _, inInner⟩ := List.mem_flatMap.1 member
    have below := (le_of_mem_leveled inner).1 (level + 1) entry inInner
    simp only [decide_eq_true_eq]
    omega
  | succ deeper hypothesis =>
    refine leveledLinks_eachItem (leveledItem_behindLink (by simp) fun nested => ?_) table
    rw [leveledNested_eq, leveledNested_eq, List.flatMap_map, List.filter_flatMap]
    refine List.flatMap_congr fun inner _ => ?_
    rw [hypothesis, Nat.add_assoc, Nat.add_comm 1 deeper]

/-- The options with a limit of `deeper` levels below the first one. -/
def limitedTo (deeper : Nat) : ContentsOptions := { maxDepth := .int (deeper + 1) }

/-- Beyond a limit are the levels above it. -/
theorem beyond_limitedTo (deeper level : Nat) :
    (limitedTo deeper).beyond level = decide (deeper < level) := by
  have compared : (limitedTo deeper).beyond level = decide ((deeper : Int) + 1 ≤ level) := rfl
  rw [compared, decide_eq_decide]
  omega

/-- Under a limit, sections up to it are listed. -/
theorem isListed_limitedTo (deeper level : Nat) (tree : Tree) :
    isListed (limitedTo deeper) level tree =
      (tree.isA (.of .section) && decide (level ≤ deeper)) := by
  have within : (!decide (deeper < level)) = decide (level ≤ deeper) := by
    rw [← decide_not]
    exact decide_eq_decide.2 Nat.not_lt
  rw [isListed, beyond_limitedTo, within]

/-- Beyond the limit nothing is listed. -/
theorem forestWithin_beyond {deeper level : Nat} (beyond : deeper < level) (tree : Tree) :
    forestWithin (limitedTo deeper) level tree = [] := by
  induction tree using childInduction with
  | step tree below =>
    have notListed : isListed (limitedTo deeper) level tree = false := by
      rw [isListed_limitedTo, decide_eq_false (by omega), Bool.and_false]
    rw [forestWithin_of_not_listed notListed, List.flatMap_eq_nil_iff]
    exact below

/-- An item of pruned ones is the item, pruned one level deeper. -/
theorem itemOf_pruned (visited : Tree) (below : List Tree) (deeper : Nat) :
    itemOf visited (below.map (behindLink (pruneNested deeper))) =
      behindLink (pruneNested (deeper + 1)) (itemOf visited below) := by
  cases below with
  | nil => rfl
  | cons first rest =>
    have nested : pruneNested (deeper + 1) [orderedList (first :: rest)] =
        [orderedList ((first :: rest).map (behindLink (pruneNested deeper)))] := by
      rw [pruneNested, List.map_singleton, prune_eq]
      rfl
    change _ = listItem (linkTo visited :: pruneNested (deeper + 1) [orderedList (first :: rest)])
    rw [nested]
    rfl

/-- The items within the limit are the items without one, pruned by the levels that are left. -/
theorem forestWithin_limited {deeper level : Nat} (within : level ≤ deeper) (tree : Tree) :
    forestWithin (limitedTo deeper) level tree =
      (forest tree).map (behindLink (pruneNested (deeper - level))) := by
  induction tree using childInduction generalizing level with
  | step tree below =>
    rw [forest_eq]
    by_cases isSection : tree.isA (.of .section) = true
    · have isListed : isListed (limitedTo deeper) level tree = true := by
        rw [isListed_limitedTo, isSection, decide_eq_true within, Bool.true_and]
      rw [forestWithin_of_listed isListed, if_pos isSection, List.map_singleton]
      rcases Nat.lt_or_eq_of_le within with inner | rfl
      · have left : deeper - level = deeper - (level + 1) + 1 := by omega
        have inside : tree.children.flatMap (forestWithin (limitedTo deeper) (level + 1)) =
            (tree.children.flatMap forest).map
              (behindLink (pruneNested (deeper - (level + 1)))) := by
          rw [List.map_flatMap]
          exact List.flatMap_congr fun child member => below child member inner
        rw [inside, itemOf_pruned, left]
      · -- The last level: what lies inside finds itself beyond the limit.
        have nothing : tree.children.flatMap (forestWithin (limitedTo level) (level + 1)) = [] :=
          List.flatMap_eq_nil_iff.2 fun child _ =>
            forestWithin_beyond (Nat.lt_succ_self level) child
        rw [nothing, Nat.sub_self]
        rfl
    · have notListed : isListed (limitedTo deeper) level tree = false := by
        rw [isListed_limitedTo, eq_false_of_ne_true isSection, Bool.false_and]
      rw [forestWithin_of_not_listed notListed, if_neg isSection, List.map_flatMap]
      exact List.flatMap_congr fun child member => below child member within

/-- A limit that no section reaches has no effect. -/
theorem forestWithin_shallow {deeper level : Nat} {tree : Tree}
    (shallow : level + tree.sectionDepth ≤ deeper + 1) :
    forestWithin (limitedTo deeper) level tree = forest tree := by
  induction tree using childInduction generalizing level with
  | step tree below =>
    rw [forest_eq]
    rw [sectionDepth_eq] at shallow
    have inside (inner : Nat) (room : inner + tree.depthBelow ≤ deeper + 1) :
        tree.children.flatMap (forestWithin (limitedTo deeper) inner) =
          tree.children.flatMap forest :=
      List.flatMap_congr fun child member => by
        have deepest := le_depthBelow member
        exact below child member (by omega)
    by_cases isSection : tree.isA (.of .section) = true
    · rw [if_pos isSection] at shallow
      have isListed : isListed (limitedTo deeper) level tree = true := by
        rw [isListed_limitedTo, isSection, decide_eq_true (by omega), Bool.true_and]
      rw [forestWithin_of_listed isListed, if_pos isSection, inside (level + 1) (by omega)]
    · rw [if_neg isSection] at shallow
      have notListed : isListed (limitedTo deeper) level tree = false := by
        rw [isListed_limitedTo, eq_false_of_ne_true isSection, Bool.false_and]
      rw [forestWithin_of_not_listed notListed, if_neg isSection, inside level (by omega)]

/-- A table of the items within a limit is the table of all items, pruned. -/
theorem prune_forest (deeper : Nat) (tree : Tree) :
    prune deeper (orderedList (forest tree)) =
      orderedList (forestWithin (limitedTo deeper) 0 tree) := by
  rw [forestWithin_limited (Nat.zero_le deeper), prune_eq]
  rfl

/-- A table with a limit on its depth is the table without one, pruned. It is laid out as tables
are, so that no nested list is empty; the links of the levels within the limit are all there,
each at its level and in its place; pruning it again is pruning at the lower level, and a limit
that the sections do not exceed has no effect. -/
theorem build_limited {tree : Tree} (shaped : tree.Shaped) :
    ∃ table, (build {} tree).value = .ok table ∧
      ∀ deeper : Nat,
        (build { maxDepth := .int (deeper + 1) } tree).value = .ok (prune deeper table) ∧
        (∃ items, prune deeper table = orderedList items ∧ ∀ item ∈ items, IsItem item) ∧
        leveledLinks 0 (prune deeper table) =
          (leveledLinks 0 table).filter (fun entry => entry.1 ≤ deeper) ∧
        (∀ other, prune other (prune deeper table) = prune (min other deeper) table) ∧
        (tree.sectionDepth ≤ deeper + 1 → prune deeper table = table) := by
  have unlimited : (build {} tree).value = .ok (orderedList (forest tree)) := by
    rw [build_of_lenient rfl, forestWithin_eq_forest rfl]
  refine ⟨orderedList (forest tree), unlimited, fun deeper => ⟨?limited, ?layout, ?links,
    fun other => prune_prune other deeper _, ?shallow⟩⟩
  case limited =>
    have lenient : (limitedTo deeper).requireReferences.isSet = false := rfl
    rw [prune_forest]
    exact build_of_lenient lenient tree
  case layout =>
    exact ⟨_, prune_forest deeper tree, isItem_forestWithin (limitedTo deeper) 0 shaped⟩
  case links =>
    rw [leveledLinks_prune]
    simp only [Nat.zero_add]
  case shallow =>
    intro shallow
    rw [prune_forest, forestWithin_shallow (by omega)]

/-- A tree with sections three deep, the innermost behind a wrapper, and one more beside them. -/
def threeLevels : Tree :=
  .node (.document {}) [] [.many [
    ofSection (ofText "a") [
      ofSection (ofText "b") [ofList .bold [ofSection (ofText "c") []]],
      ofSection (ofText "d") []]]]

/-- Two levels of the table of three are kept: the innermost section is gone, and the one after
it stays where it was. -/
theorem build_limited_threeLevels :
    threeLevels.Shaped ∧
      ∃ table, (build {} threeLevels).value = .ok table ∧
        (build { maxDepth := .int 2 } threeLevels).value = .ok (prune 1 table) ∧
        (leveledLinks 0 (prune 1 table)).map (fun entry => (entry.1, entry.2.text)) =
          [(0, "a"), (1, "b"), (1, "d")] := by
  have shaped : threeLevels.Shaped := by decide
  obtain ⟨table, unlimited, limited⟩ := build_limited shaped
  obtain ⟨atTwo, -, links, -⟩ := limited 1
  have whole : (build {} threeLevels).value = .ok (orderedList (forest threeLevels)) := by
    rw [build_of_lenient rfl, forestWithin_eq_forest rfl]
  obtain rfl : orderedList (forest threeLevels) = table :=
    Except.ok.inj (whole.symm.trans unlimited)
  refine ⟨shaped, _, unlimited, atTwo, ?_⟩
  rw [links]
  with_unfolding_all rfl

end Contents

end Folio
