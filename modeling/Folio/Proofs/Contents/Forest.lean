import Folio.Contents
import Folio.Proofs.Tree.Preorder

/-!
# Tables of contents by recursion

The items of a table of contents, as a recursion over the tree that knows nothing of visits
and depths: a listed section makes an item, any other node passes on the items of its
children. A level counts the listed sections around a node; sections beyond the limit of the
options are not listed. `forest` has no limit.
-/

namespace Folio

namespace Tree

/-- Children are smaller than the tree. -/
theorem size_lt_of_mem_children {child tree : Tree} (member : child ∈ tree.children) :
    child.size < tree.size := by
  have bounded : ∀ trees : List Tree, child ∈ trees → child.size ≤ sizeAll trees := by
    intro trees
    induction trees with
    | nil => simp
    | cons first rest hypothesis =>
      intro inList
      rw [sizeAll]
      rcases List.mem_cons.1 inList with rfl | later
      · omega
      · have := hypothesis later
        omega
  have := bounded _ member
  rw [size_eq tree]
  omega

end Tree

namespace Contents

/-- The item of a section: its link, and the items below it as a nested list if there are
any. -/
def itemOf (visited : Tree) (below : List Tree) : Tree :=
  Tree.listItem (linkTo visited :: if below.isEmpty then [] else [Tree.orderedList below])

/-- The items for a tree: one for a section, those of the children for any other node. -/
def forest (tree : Tree) : List Tree :=
  let below := tree.children.attach.flatMap fun ⟨child, _⟩ => forest child
  if tree.isA (.of .section) then [itemOf tree below] else below
termination_by tree.size
decreasing_by exact Tree.size_lt_of_mem_children ‹_›

/-- A tree that lies inside `level` listed sections is listed itself. -/
def isListed (options : ContentsOptions) (level : Nat) (tree : Tree) : Bool :=
  tree.isA (.of .section) && !options.beyond level

/-- The items for a tree that lies inside `level` listed sections. -/
def forestWithin (options : ContentsOptions) (level : Nat) (tree : Tree) : List Tree :=
  if isListed options level tree then
    [itemOf tree (tree.children.attach.flatMap fun ⟨child, _⟩ =>
      forestWithin options (level + 1) child)]
  else tree.children.attach.flatMap fun ⟨child, _⟩ => forestWithin options level child
termination_by tree.size
decreasing_by all_goals exact Tree.size_lt_of_mem_children ‹_›

/-- The listed sections of a tree that lies inside `level` listed sections, in the order of a
visit. -/
def listed (options : ContentsOptions) (level : Nat) (tree : Tree) : List Tree :=
  if isListed options level tree then
    tree :: tree.children.attach.flatMap fun ⟨child, _⟩ => listed options (level + 1) child
  else tree.children.attach.flatMap fun ⟨child, _⟩ => listed options level child
termination_by tree.size
decreasing_by all_goals exact Tree.size_lt_of_mem_children ‹_›

/-- Listed trees are sections. -/
theorem isSection_of_isListed {options : ContentsOptions} {level : Nat} {tree : Tree}
    (isListed : isListed options level tree = true) : tree.isA (.of .section) = true := by
  rw [Contents.isListed, Bool.and_eq_true] at isListed
  exact isListed.1

/-- A section has an item around the items of its children; any other tree has only those. -/
theorem forest_eq (tree : Tree) :
    forest tree =
      if tree.isA (.of .section) then [itemOf tree (tree.children.flatMap forest)]
      else tree.children.flatMap forest := by
  rw [forest, List.flatMap_subtype (fun _ _ => rfl), List.unattach_attach]

/-- A tree without sections makes no items. -/
theorem forest_eq_nil {tree : Tree} (none : tree.sections = []) : forest tree = [] := by
  induction tree using Tree.childInduction with
  | step tree below =>
    rw [Tree.sections_eq, List.append_eq_nil_iff, List.flatMap_eq_nil_iff] at none
    obtain ⟨notSection, inside⟩ := none
    have isOther : ¬ tree.isA (.of .section) = true := fun isSection => by
      rw [if_pos isSection] at notSection
      cases notSection
    rw [forest_eq, if_neg isOther, List.flatMap_eq_nil_iff]
    exact fun child member => below child member (inside child member)

/-- A listed section has an item around those of one level more. -/
theorem forestWithin_of_listed {options : ContentsOptions} {level : Nat} {tree : Tree}
    (isListed : isListed options level tree = true) :
    forestWithin options level tree =
      [itemOf tree (tree.children.flatMap (forestWithin options (level + 1)))] := by
  rw [forestWithin, if_pos isListed, List.flatMap_subtype (fun _ _ => rfl),
    List.unattach_attach]

/-- A tree that is not listed has the items of its children. -/
theorem forestWithin_of_not_listed {options : ContentsOptions} {level : Nat} {tree : Tree}
    (notListed : isListed options level tree = false) :
    forestWithin options level tree =
      tree.children.flatMap (forestWithin options level) := by
  rw [forestWithin, if_neg (by simp [notListed]), List.flatMap_subtype (fun _ _ => rfl),
    List.unattach_attach]

/-- A listed section stands before those that are listed below it. -/
theorem listed_of_listed {options : ContentsOptions} {level : Nat} {tree : Tree}
    (isListed : isListed options level tree = true) :
    listed options level tree =
      tree :: tree.children.flatMap (listed options (level + 1)) := by
  rw [listed, if_pos isListed, List.flatMap_subtype (fun _ _ => rfl), List.unattach_attach]

/-- In a tree that is not listed, those in its children are. -/
theorem listed_of_not_listed {options : ContentsOptions} {level : Nat} {tree : Tree}
    (notListed : isListed options level tree = false) :
    listed options level tree = tree.children.flatMap (listed options level) := by
  rw [listed, if_neg (by simp [notListed]), List.flatMap_subtype (fun _ _ => rfl),
    List.unattach_attach]

/-- Without a limit every level lists all sections. -/
theorem forestWithin_eq_forest {options : ContentsOptions} (unlimited : options.maxDepth = .null)
    (level : Nat) (tree : Tree) : forestWithin options level tree = forest tree := by
  have never (level : Nat) : options.beyond level = false := by
    rw [ContentsOptions.beyond, unlimited]
    rfl
  induction tree using Tree.childInduction generalizing level with
  | step tree below =>
    have same (level : Nat) :
        tree.children.flatMap (forestWithin options level) = tree.children.flatMap forest :=
      List.flatMap_congr fun child member => below child member level
    rw [forest_eq]
    by_cases isSection : tree.isA (.of .section) = true
    · rw [forestWithin_of_listed (by simp [isListed, never, isSection]), same,
        if_pos isSection]
    · rw [forestWithin_of_not_listed (by simp [isListed, isSection]), same, if_neg isSection]

end Contents

end Folio
