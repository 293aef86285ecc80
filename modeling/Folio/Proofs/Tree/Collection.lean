import Folio.Proofs.Tree.Access
import Folio.Proofs.Tree.Visits
import Mathlib.Logic.Relation

/-!
# What is collected, and from where

A visit that notes the nodes of some categories collects the trees at certain positions, and it
does so in the order of positions. Nodes are told apart by where they stand: equal trees can stand
at several positions, and a node above a replaced tree is the same node afterwards, although it
holds another tree. So what a replacement does is said of positions first
(`exists_encloses`): those before and behind the replaced tree stay, and between them are
those of the tree that takes its place. Collections and texts are read off the positions.
-/

namespace Folio

namespace Category

/-- The second category is the next wider one. -/
def IsParent (narrow wide : Category) : Prop := narrow.parent? = some wide

/-- Every category is among all of them. -/
theorem mem_all (category : Category) : category ∈ all := by
  cases category with
  | of kind => cases kind <;> decide
  | _ => decide

/-- Categories are at most four steps wide, so with every category the next wider one is there. -/
theorem ancestors_closed :
    ∀ category ∈ all, ∀ wide ∈ category.ancestors, ∀ wider ∈ wide.parent?,
      wider ∈ category.ancestors := by
  decide

/-- What is met on the way up is an ancestor, however many steps are made. -/
theorem wide_of_mem_go {narrow wide : Category} {steps : Nat}
    (member : wide ∈ ancestors.go steps narrow) :
    Relation.ReflTransGen IsParent narrow wide := by
  induction steps generalizing narrow with
  | zero =>
    obtain rfl : wide = narrow := by simpa [ancestors.go] using member
    exact .refl
  | succ steps hypothesis =>
    rw [ancestors.go] at member
    rcases List.mem_cons.1 member with rfl | wider
    · exact .refl
    · split at wider
      · rename_i parent isParent
        exact .head isParent (hypothesis wider)
      · cases wider

/-- The wider categories are those that steps to the next wider one lead to. -/
theorem mem_ancestors_iff {narrow wide : Category} :
    wide ∈ narrow.ancestors ↔ Relation.ReflTransGen IsParent narrow wide := by
  refine ⟨wide_of_mem_go, fun steps => ?_⟩
  induction steps with
  | refl => exact List.mem_cons_self
  | tail _ isParent hypothesis =>
    exact ancestors_closed narrow (mem_all narrow) _ hypothesis _ isParent

end Category

namespace Tree

/-- A node of one of some categories, whether it is the category of its own kind or a wider one. -/
def IsInstance (categories : List Category) (tree : Tree) : Prop :=
  ∃ kind, tree.kind? = some kind ∧
    ∃ category ∈ categories, Relation.ReflTransGen Category.IsParent (.of kind) category

/-- A tree is collected for categories exactly if it belongs to one of them. -/
theorem isInstance_iff {categories : List Category} {tree : Tree} :
    tree.IsInstance categories ↔ categories.any tree.isA = true := by
  rw [List.any_eq_true, IsInstance]
  cases tree with
  | stray value => simp [kind?, isA]
  | node head metadata slots =>
    simp [kind?, isA, Category.includes, ← Category.mem_ancestors_iff]

instance (categories : List Category) (tree : Tree) : Decidable (tree.IsInstance categories) :=
  decidable_of_iff _ isInstance_iff.symm

/-- Note the nodes of some categories, the latest last. -/
def collecting (categories : List Category) (_depth : Int) (visited : Tree)
    (found : List Tree) : List Tree :=
  if categories.any visited.isA then found ++ [visited] else found

/-- Note the text of text nodes, the latest last. -/
def reading (_depth : Int) (visited : Tree) (parts : List String) : List String :=
  match visited with
  | .node (.text value) _ _ => parts ++ [value]
  | _ => parts

/-- Collecting notes the nodes of the categories behind those found before. -/
theorem noted_collecting (categories : List Category) (calls : List (Int × Tree))
    (found : List Tree) :
    noted (collecting categories) calls found =
      found ++ (calls.map (·.2)).filter fun visited => categories.any visited.isA := by
  induction calls generalizing found with
  | nil => exact (List.append_nil found).symm
  | cons call rest hypothesis =>
    have step : noted (collecting categories) (call :: rest) found =
        noted (collecting categories) rest (collecting categories call.1 call.2 found) := rfl
    rw [step, hypothesis, collecting, List.map_cons, List.filter_cons]
    split
    · rw [List.append_assoc]
      rfl
    · rfl

/-- Reading notes the text of a node behind the parts that were there. -/
theorem join_reading (depth : Int) (visited : Tree) (parts : List String) :
    String.join (reading depth visited parts) = String.join parts ++ ownText visited := by
  unfold reading ownText
  split <;> simp

/-- Reading joins the texts of all nodes that are met. -/
theorem join_noted_reading (calls : List (Int × Tree)) (parts : List String) :
    String.join (noted reading calls parts) =
      String.join parts ++ String.join ((calls.map (·.2)).map ownText) := by
  induction calls generalizing parts with
  | nil => simp [noted]
  | cons call rest hypothesis =>
    have step : noted reading (call :: rest) parts =
        noted reading rest (reading call.1 call.2 parts) := rfl
    rw [step, hypothesis, join_reading, List.map_cons, List.map_cons, String.join_cons,
      String.append_assoc]

/-- The positions of the nodes of some categories, in the order of a visit. -/
def collectedAt (categories : List Category) (tree : Tree) : List Position :=
  tree.placesWhere fun visited => categories.any visited.isA

/-- The nodes at the positions are those of a visit, in the same order. -/
theorem map_at?_positions (tree : Tree) : tree.positions.map tree.at? = tree.preorder.map some := by
  rw [positions, at?_placesWhere, collectWhere, List.filter_eq_self.2 fun _ _ => rfl]

/-- What is read off the node at a position, with a value for positions outside the tree. -/
def readAt {α : Type} (read : Tree → α) (outside : α) (tree : Tree) (place : Position) : α :=
  ((tree.at? place).map read).getD outside

/-- The places of a test are the positions at which something stands that passes. -/
theorem placesWhere_eq_filter (test : Tree → Bool) (tree : Tree) :
    tree.placesWhere test = tree.positions.filter (tree.readAt test false) := by
  induction tree using childInduction with
  | step tree below =>
    have inChild (entry : Tree × Nat) (member : entry ∈ tree.children.zipIdx) :
        (entry.1.placesWhere test).map (entry.2 :: ·) =
          (entry.1.positions.map (entry.2 :: ·)).filter (tree.readAt test false) := by
      have isChild := List.mem_zipIdx_iff_getElem?.1 member
      rw [below entry.1 (List.fst_mem_of_mem_zipIdx member), List.filter_map]
      congr 1
      refine List.filter_congr fun place _ => ?_
      rw [Function.comp_apply, readAt, readAt, at?, isChild]
      rfl
    rw [placesWhere_eq, placesInAll_eq_flatMap, positions_eq, List.filter_cons,
      List.filter_flatMap, List.flatMap_congr inChild, readAt, at?_nil, Option.map_some,
      Option.getD_some]
    split <;> rfl

/-- What is collected stands at a position and is of the categories. -/
theorem mem_collectedAt_iff {categories : List Category} {tree : Tree} {position : Position} :
    position ∈ tree.collectedAt categories ↔
      ∃ found, tree.at? position = some found ∧ found.IsInstance categories := by
  rw [collectedAt, placesWhere_eq_filter, List.mem_filter, mem_positions_iff, readAt]
  cases tree.at? position with
  | none => simp
  | some found => simp [isInstance_iff]

/-- Nodes are collected in the order of their positions. -/
theorem pairwise_collectedAt (categories : List Category) (tree : Tree) :
    (tree.collectedAt categories).Pairwise (· < ·) := by
  rw [collectedAt, placesWhere_eq_filter]
  exact (pairwise_positions tree).filter _

/-- What is collected stands at the collected positions. -/
theorem map_at?_collectedAt (categories : List Category) (tree : Tree) :
    (tree.collectedAt categories).map tree.at? = (tree.collect categories).map some :=
  at?_placesWhere _ tree

/-- The nodes at these positions are those that are collected. -/
theorem filterMap_collectedAt (categories : List Category) (tree : Tree) :
    (tree.collectedAt categories).filterMap tree.at? = tree.collect categories := by
  have looked := congrArg (List.filterMap id) (map_at?_collectedAt categories tree)
  rw [List.filterMap_map, List.filterMap_map] at looked
  exact looked.trans List.filterMap_some

/-- The text is that of the nodes at the positions. -/
theorem text_eq_positions (tree : Tree) :
    tree.text = String.join (tree.positions.map (tree.readAt ownText "")) := by
  have looked := congrArg (List.map fun found? : Option Tree => (found?.map ownText).getD "")
    (map_at?_positions tree)
  rw [List.map_map, List.map_map] at looked
  exact congrArg String.join looked.symm

/-- Places in a list of trees begin with the number of one of them. -/
theorem exists_of_mem_placesInAll {test : Tree → Bool} {index : Nat} {trees : List Tree}
    {place : Position} (member : place ∈ placesInAll test index trees) :
    ∃ number rest, place = number :: rest ∧ index ≤ number ∧ number < index + trees.length := by
  rw [placesInAll_eq_flatMap] at member
  obtain ⟨entry, isEntry, inEntry⟩ := List.mem_flatMap.1 member
  obtain ⟨rest, -, rfl⟩ := List.mem_map.1 inEntry
  obtain ⟨least, most, -⟩ := List.mem_zipIdx isEntry
  exact ⟨entry.2, rest, rfl, least, most⟩

/-- Positions in one child are apart if they are so inside it. -/
theorem Apart.cons {first second : Position} (apart : Apart first second) (index : Nat) :
    Apart (index :: first) (index :: second) :=
  ⟨fun above => apart.1 (List.cons_prefix_cons.1 above).2,
    fun under => apart.2 (List.cons_prefix_cons.1 under).2⟩

/-- Positions in different children are apart. -/
theorem apart_of_ne {first second : Nat} (ne : first ≠ second) (left right : Position) :
    Apart (first :: left) (second :: right) :=
  ⟨fun above => ne (List.cons_prefix_cons.1 above).1,
    fun under => ne (List.cons_prefix_cons.1 under).1.symm⟩

/-- The positions around a tree that is replaced, those before it and those behind it. -/
structure Encloses (tree : Tree) (position : Position) (before after : List Position) : Prop where
  isFound : position ∈ tree.positions
  smaller : ∀ place ∈ before, place < position
  apart : ∀ place ∈ after, Apart position place
  positions : ∀ replacement, (replaceAt position replacement tree).positions =
    before ++ replacement.positions.map (position ++ ·) ++ after

/-- The positions before a replaced tree and those behind it are the same for all replacements.
The induction is on the way down to the tree: each node adds itself and the children in front of
the next one to the former, and the children behind it to the latter. -/
theorem exists_encloses {tree : Tree} {position : Position} (isFound : position ∈ tree.positions) :
    ∃ before after, Encloses tree position before after := by
  induction position generalizing tree with
  | nil => exact ⟨[], [], isFound, by simp, by simp, fun replacement => by simp⟩
  | cons index rest hypothesis =>
    obtain ⟨found, stands⟩ := mem_positions_iff.1 isFound
    rw [at?, Option.bind_eq_some_iff] at stands
    obtain ⟨child, isChild, below⟩ := stands
    obtain ⟨bounded, rfl⟩ := List.getElem?_eq_some_iff.1 isChild
    obtain ⟨before, after, -, smaller, apart, inside⟩ :=
      hypothesis (mem_positions_iff.2 ⟨found, below⟩)
    have lengthBefore : (tree.children.take index).length = index :=
      List.length_take_of_le (Nat.le_of_lt bounded)
    refine ⟨[] :: placesInAll (fun _ => true) 0 (tree.children.take index) ++
        before.map (index :: ·),
      after.map (index :: ·) ++
        placesInAll (fun _ => true) (index + 1) (tree.children.drop (index + 1)),
      isFound, fun place member => ?_, fun place member => ?_, fun replacement => ?_⟩
    · rcases List.mem_append.1 member with inFront | inChild
      · rcases List.mem_cons.1 inFront with rfl | inChildren
        · exact List.nil_lt_cons _ _
        · obtain ⟨number, left, rfl, -, less⟩ := exists_of_mem_placesInAll inChildren
          exact List.cons_lt_cons_iff.2 (.inl (by omega))
      · obtain ⟨left, isBefore, rfl⟩ := List.mem_map.1 inChild
        exact List.cons_lt_cons_iff.2 (.inr ⟨rfl, smaller left isBefore⟩)
    · rcases List.mem_append.1 member with inChild | behind
      · obtain ⟨right, isAfter, rfl⟩ := List.mem_map.1 inChild
        exact (apart right isAfter).cons index
      · obtain ⟨number, right, rfl, more, -⟩ := exists_of_mem_placesInAll behind
        exact apart_of_ne (by omega) rest right
    · have children : (replaceAt (index :: rest) replacement tree).children =
          tree.children.take index ++ replaceAt rest replacement tree.children[index] ::
            tree.children.drop (index + 1) := by
        rw [replaceAt, children_modifyAt_cons, List.modify_eq_take_cons_drop bounded]
        rfl
      rw [positions, placesWhere_eq, if_pos rfl, children, placesInAll_append, placesInAll,
        lengthBefore, Nat.zero_add]
      have child := inside replacement
      rw [positions] at child
      rw [child]
      simp [positions]

/-- A node above a replaced tree is the same node, holding the replacement. -/
theorem at?_replaceAt_above (place rest : Position) (replacement tree : Tree) :
    (replaceAt (place ++ rest) replacement tree).at? place =
      (tree.at? place).map (replaceAt rest replacement) := by
  rw [replaceAt, modifyAt_append, at?_modifyAt]
  rfl

/-- What stands before a position lies apart from it or above it. -/
theorem apart_or_above {place position : Position} (smaller : place < position) :
    Apart position place ∨ ∃ index rest, place ++ index :: rest = position := by
  by_cases above : place <+: position
  · obtain ⟨rest, rfl⟩ := above
    cases rest with
    | nil =>
      rw [List.append_nil] at smaller
      exact absurd smaller (List.lt_irrefl place)
    | cons index rest => exact .inr ⟨index, rest, rfl⟩
  · exact .inl ⟨fun under => List.IsPrefix.le under smaller, above⟩

/-- In front of a replaced tree everything stays, but for the nodes above it, which hold the
replacement. -/
theorem at?_before {place position : Position} (smaller : place < position)
    (replacement tree : Tree) :
    (replaceAt position replacement tree).at? place = tree.at? place ∨
      ∃ index rest, place ++ index :: rest = position ∧
        (replaceAt position replacement tree).at? place =
          (tree.at? place).map (replaceAt (index :: rest) replacement) := by
  rcases apart_or_above smaller with apart | ⟨index, rest, rfl⟩
  · exact .inl (at?_replaceAt_of_apart apart replacement tree)
  · exact .inr ⟨index, rest, rfl, at?_replaceAt_above place (index :: rest) replacement tree⟩

/-- What is read off a node and not off its children does not change with a tree below it. -/
def Shallow {α : Type} (read : Tree → α) : Prop :=
  ∀ index rest replacement tree, read (replaceAt (index :: rest) replacement tree) = read tree

/-- Categories are told by the root. -/
theorem shallow_isA (categories : List Category) :
    Shallow fun visited => categories.any visited.isA := by
  rintro index rest replacement (_ | _) <;> rfl

/-- So is the text of a node. -/
theorem shallow_ownText : Shallow ownText := by
  rintro index rest replacement (⟨head, metadata, slots⟩ | value)
  · cases head <;> rfl
  · rfl

/-- What is told by the root is the same at places before a replaced one. -/
theorem Shallow.map_at?_before {α : Type} {read : Tree → α} (shallow : Shallow read)
    {place position : Position} (smaller : place < position) (replacement tree : Tree) :
    ((replaceAt position replacement tree).at? place).map read = (tree.at? place).map read := by
  rcases at?_before smaller replacement tree with same | ⟨index, rest, -, holds⟩
  · rw [same]
  · rw [holds, Option.map_map]
    congr 1
    exact funext fun node => shallow index rest replacement node

section Encloses

variable {tree : Tree} {position : Position} {before after : List Position}
  (encloses : Encloses tree position before after) (replacement : Tree)

include encloses

/-- Inside of the replaced place stands the replacement. -/
theorem Encloses.at?_inside (place : Position) :
    (replaceAt position replacement tree).at? (position ++ place) = replacement.at? place := by
  obtain ⟨found, stands⟩ := mem_positions_iff.1 encloses.isFound
  exact at?_replaceAt stands replacement place

/-- Behind it nothing changes. -/
theorem Encloses.at?_behind {place : Position} (member : place ∈ after) :
    (replaceAt position replacement tree).at? place = tree.at? place :=
  at?_replaceAt_of_apart (encloses.apart place member) replacement tree

/-- What is read off the nodes is the same around a replacement, and inside it what is read off the
nodes of the replacement. -/
theorem Encloses.readAt_eq {α : Type} {read : Tree → α} (shallow : Shallow read) (outside : α) :
    (∀ place ∈ before, (replaceAt position replacement tree).readAt read outside place =
      tree.readAt read outside place) ∧
    (∀ place ∈ after, (replaceAt position replacement tree).readAt read outside place =
      tree.readAt read outside place) ∧
    ∀ place, (replaceAt position replacement tree).readAt read outside (position ++ place) =
      replacement.readAt read outside place := by
  refine ⟨fun place member => ?_, fun place member => ?_, fun place => ?_⟩
  · rw [readAt, shallow.map_at?_before (encloses.smaller place member), readAt]
  · rw [readAt, encloses.at?_behind replacement member, readAt]
  · rw [readAt, encloses.at?_inside, readAt]

/-- A text is what was before it, the text of the replacement, and what was behind it. -/
theorem Encloses.text_eq :
    (replaceAt position replacement tree).text =
      String.join (before.map (tree.readAt ownText "")) ++ replacement.text ++
        String.join (after.map (tree.readAt ownText "")) := by
  obtain ⟨inFront, behind, inside⟩ := encloses.readAt_eq replacement shallow_ownText ""
  rw [text_eq_positions, encloses.positions, List.map_append, List.map_append,
    List.map_congr_left inFront, List.map_congr_left behind, List.map_map, String.join_append,
    String.join_append, text_eq_positions replacement]
  simp only [Function.comp_def, inside]

/-- The places of a test in the replacement stand between those of before. -/
theorem Encloses.placesWhere_eq {test : Tree → Bool} (shallow : Shallow test) :
    (replaceAt position replacement tree).placesWhere test =
      before.filter (tree.readAt test false) ++
        (replacement.placesWhere test).map (position ++ ·) ++
        after.filter (tree.readAt test false) := by
  obtain ⟨inFront, behind, inside⟩ := encloses.readAt_eq replacement shallow false
  rw [placesWhere_eq_filter, encloses.positions, List.filter_append, List.filter_append,
    List.filter_congr inFront, List.filter_congr behind, List.filter_map,
    placesWhere_eq_filter test replacement]
  simp only [Function.comp_def, inside]

end Encloses

/-- What replacing the tree at a position makes of a collection and of the text: the positions
and texts around it are those given. -/
structure Surrounded (categories : List Category) (tree : Tree) (position : Position)
    (before after : List Position) (textBefore textAfter : String) (replacement : Tree) :
    Prop where
  places : (replaceAt position replacement tree).collectedAt categories =
    before ++ (replacement.collectedAt categories).map (position ++ ·) ++ after
  nodes : (replaceAt position replacement tree).collect categories =
    before.filterMap (replaceAt position replacement tree).at? ++
      replacement.collect categories ++ after.filterMap tree.at?
  kept : ∀ place ∈ before,
    (replaceAt position replacement tree).at? place = tree.at? place ∨
      ∃ index rest, place ++ index :: rest = position ∧
        (replaceAt position replacement tree).at? place =
          (tree.at? place).map (replaceAt (index :: rest) replacement)
  text : (replaceAt position replacement tree).text =
    textBefore ++ replacement.text ++ textAfter

/-- What is collected around a replaced place and read there does not depend on the replacement. -/
theorem exists_surrounded {tree : Tree} {position : Position}
    (isFound : position ∈ tree.positions) (categories : List Category) :
    ∃ (before after : List Position) (textBefore textAfter : String), ∀ replacement,
      Surrounded categories tree position before after textBefore textAfter replacement := by
  obtain ⟨before, after, encloses⟩ := exists_encloses isFound
  have places (replacement : Tree) :=
    encloses.placesWhere_eq replacement (shallow_isA categories)
  refine ⟨_, _, _, _, fun replacement =>
    ⟨places replacement, ?nodes, fun place member => ?kept, encloses.text_eq replacement⟩⟩
  case nodes =>
    rw [← filterMap_collectedAt, collectedAt, places, List.filterMap_append,
      List.filterMap_append, List.filterMap_map, ← filterMap_collectedAt categories replacement]
    congr 1
    · congr 1
      exact List.filterMap_congr fun place _ => encloses.at?_inside replacement place
    · exact List.filterMap_congr fun place member =>
        encloses.at?_behind replacement (List.mem_of_mem_filter member)
  case kept =>
    exact at?_before (encloses.smaller place (List.mem_of_mem_filter member)) replacement tree

/-- Collecting keeps what is of the categories, in the order of a visit. -/
theorem collect_eq_filter (categories : List Category) (tree : Tree) :
    tree.collect categories =
      tree.preorder.filter fun visited => decide (visited.IsInstance categories) := by
  refine List.filter_congr fun visited _ => ?_
  rw [Bool.eq_iff_iff, decide_eq_true_eq, isInstance_iff]

/-- Of some categories or others is what is of one of the two. -/
theorem isInstance_append {first second : List Category} {tree : Tree} :
    tree.IsInstance (first ++ second) ↔ tree.IsInstance first ∨ tree.IsInstance second := by
  rw [isInstance_iff, isInstance_iff, isInstance_iff, List.any_append, Bool.or_eq_true]

/-- Of what is collected for more categories, what belongs to some of them is what is collected
for these. -/
theorem filter_collect {categories wider : List Category}
    (within : ∀ tree : Tree, tree.IsInstance categories → tree.IsInstance wider) (tree : Tree) :
    ((tree.collect wider).filter fun visited => decide (visited.IsInstance categories)) =
      tree.collect categories := by
  rw [collect_eq_filter, collect_eq_filter, List.filter_filter]
  refine List.filter_congr fun visited _ => ?_
  have both : visited.IsInstance categories ∧ visited.IsInstance wider ↔
      visited.IsInstance categories := and_iff_left_of_imp (within visited)
  rw [← Bool.decide_and, decide_eq_decide]
  exact both

/-- The nodes of some categories are collected from a typed tree completely and in the order of a
visit, whether the collecting visit is driven by the recursion or reads its nodes with a check; what
two selections collect together holds every node once, and what each of them collects in order.
The text is that of all text nodes. Both are local: around the tree at a position, whatever it is
replaced by, they are the same. -/
theorem collect_complete_local {tree : Tree} (typed : tree.Typed)
    (categories others : List Category) :
    (tree.collect categories =
        tree.preorder.filter (fun visited => decide (visited.IsInstance categories)) ∧
      (∀ levels ≥ tree.size, traverse (.noting (collecting categories)) levels 0 tree [] =
        some (tree, tree.collect categories)) ∧
      tree.collectChecked categories = .ok (tree.collect categories)) ∧
    ((tree.collectedAt categories).map tree.at? = (tree.collect categories).map some ∧
      (tree.collectedAt categories).Pairwise (· < ·) ∧
      ∀ position, position ∈ tree.collectedAt categories ↔
        ∃ found, tree.at? position = some found ∧ found.IsInstance categories) ∧
    ((tree.collectedAt (categories ++ others)).Nodup ∧
      (∀ position, position ∈ tree.collectedAt (categories ++ others) ↔
        position ∈ tree.collectedAt categories ∨ position ∈ tree.collectedAt others) ∧
      ((tree.collect (categories ++ others)).filter fun visited =>
        decide (visited.IsInstance categories)) = tree.collect categories ∧
      ((tree.collect (categories ++ others)).filter fun visited =>
        decide (visited.IsInstance others)) = tree.collect others) ∧
    ((∀ levels ≥ tree.size, ∃ parts, String.join parts = tree.text ∧
        traverse (.noting reading) levels 0 tree [] = some (tree, parts)) ∧
      tree.textChecked = .ok tree.text) ∧
    ∀ position ∈ tree.positions,
      ∃ (before after : List Position) (textBefore textAfter : String), ∀ replacement,
        Surrounded categories tree position before after textBefore textAfter replacement ∧
        ((replaceAt position replacement tree).Typed →
          (replaceAt position replacement tree).collectChecked categories =
              .ok ((replaceAt position replacement tree).collect categories) ∧
            (replaceAt position replacement tree).textChecked =
              .ok (replaceAt position replacement tree).text) := by
  refine ⟨⟨collect_eq_filter categories tree, fun levels enough => ?collects,
      collectChecked_of_shaped typed.shaped categories⟩,
    ⟨map_at?_collectedAt categories tree, pairwise_collectedAt categories tree,
      fun _ => mem_collectedAt_iff⟩,
    ⟨?once, fun position => ?either, filter_collect (fun _ => ?first) tree,
      filter_collect (fun _ => ?second) tree⟩,
    ⟨fun levels enough => ?reads, textChecked_of_shaped typed.shaped⟩,
    fun position isFound => ?around⟩
  case collects =>
    rw [traverse_noting _ enough, noted_collecting, List.nil_append]
    rfl
  case once => exact (pairwise_collectedAt _ tree).nodup
  case either =>
    simp only [mem_collectedAt_iff, isInstance_append, and_or_left, exists_or]
  case first => exact fun holds => isInstance_append.2 (.inl holds)
  case second => exact fun holds => isInstance_append.2 (.inr holds)
  case reads =>
    refine ⟨_, ?_, traverse_noting reading enough 0 []⟩
    rw [join_noted_reading, visits_trees]
    exact String.empty_append
  case around =>
    obtain ⟨before, after, textBefore, textAfter, surrounded⟩ :=
      exists_surrounded isFound categories
    refine ⟨before, after, textBefore, textAfter, fun replacement =>
      ⟨surrounded replacement, fun edited => ⟨?_, ?_⟩⟩⟩
    · exact collectChecked_of_shaped edited.shaped categories
    · exact textChecked_of_shaped edited.shaped

/-- The section around the title holds content as well as the mark-up in it, before and after the
title is replaced. -/
theorem collect_headedRow :
    headedRow.Typed ∧ (replaceAt [0] (ofList .italic [ofText "x"]) headedRow).Typed ∧
    [0] ∈ headedRow.positions ∧
    headedRow.collectedAt ([.of .content] ++ [.of .row]) = [[], [0], [1, 0]] ∧
    ((headedRow.collect ([.of .content] ++ [.of .row])).filter fun visited =>
      decide (visited.IsInstance [.of .row])) = headedRow.collect [.of .row] ∧
    traverse (.noting (collecting [.of .content])) headedRow.size 0 headedRow [] =
      some (headedRow, headedRow.collect [.of .content]) ∧
    ((replaceAt [0] (ofList .italic [ofText "x"]) headedRow).textChecked = .ok "xhf") ∧
    ∃ (before after : List Position) (textBefore textAfter : String), ∀ replacement,
      Surrounded [.of .content] headedRow [0] before after textBefore textAfter replacement := by
  have typed : headedRow.Typed := by decide
  have edited : (replaceAt [0] (ofList .italic [ofText "x"]) headedRow).Typed := by decide
  have isFound : [0] ∈ headedRow.positions := by decide
  obtain ⟨⟨-, collects, -⟩, -, ⟨-, -, -, ofRows⟩, -, around⟩ :=
    collect_complete_local typed [.of .content] [.of .row]
  obtain ⟨before, after, textBefore, textAfter, surrounded⟩ := around [0] isFound
  exact ⟨typed, edited, isFound, rfl, ofRows, collects _ (Nat.le_refl _),
    ((surrounded _).2 edited).2, before, after, textBefore, textAfter, fun replacement =>
      (surrounded replacement).1⟩

end Tree

end Folio
