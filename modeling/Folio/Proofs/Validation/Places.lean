import Folio.Proofs.Tree.Visits
import Folio.Proofs.Validation.Misfits
import Mathlib.Data.Prod.Lex

/-!
# Places of misfits

Places are ordered as a visit meets them: by the number of the field among those of the node, by
the number of the item, and a place before all below it. `pairwise_misfits` says that the list of
misfits ascends in this order, so no slot is listed twice. Written as text, a place can be read
back (`readPlace?_placeText`), because no field name contains what ends a name.
-/

namespace Folio

/-- Names of fields are free of the characters that end them in a path. -/
theorem Kind.slots_plain (kind : Kind) :
    ∀ field ∈ kind.slots, '.' ∉ field.name.toList ∧ '[' ∉ field.name.toList := by
  cases kind <;> decide

/-- Tags are free of the character that ends them in a path. -/
theorem Kind.tag_plain (kind : Kind) : '.' ∉ kind.tag.toList := by
  cases kind <;> decide

namespace Tree

/-- Pairing two lists keeps the order of the first. -/
theorem zip_fst_sublist {α β : Type} (first : List α) (second : List β) :
    ((first.zip second).map Prod.fst).Sublist first := by
  induction first generalizing second with
  | nil => simp
  | cons value first hypothesis =>
    cases second with
    | nil => simp
    | cons other second => exact (hypothesis second).cons_cons value

/-- The fields of a node have distinct names. -/
theorem entries_nodup (tree : Tree) : (tree.entries.map (·.1.name)).Nodup := by
  cases tree with
  | stray value => exact List.nodup_nil
  | node head metadata slots =>
    have names := (zip_fst_sublist head.kind.slots slots).map Field.name
    rw [List.map_map] at names
    exact head.kind.slots_nodup.sublist names

/-- The slot of an entry is found under the name of its field. -/
theorem slot?_of_entry {tree : Tree} {field : Field} {slot : Slot Tree}
    (entry : (field, slot) ∈ tree.entries) : tree.slot? field.name = some slot := by
  cases tree with
  | stray value => cases entry
  | node head metadata slots =>
    have distinct := (node head metadata slots).entries_nodup
    rw [slot?]
    cases found : (head.kind.slots.zip slots).find? fun other => other.1.name == field.name with
    | none => exact absurd (List.find?_eq_none.1 found _ entry) (by simp)
    | some other =>
      have sameName : other.1.name = field.name := by simpa using List.find?_some found
      have same : other = (field, slot) :=
        List.inj_on_of_nodup_map distinct (List.mem_of_find?_eq_some found) entry sameName
      rw [same]
      rfl

/-- Numbers from the start of a list mean what they say. -/
theorem resolve_natCast {length index : Nat} (inside : index < length) :
    resolve length index = some index := by
  have notNegative : ¬ (index : Int) < 0 := by omega
  have within : (0 : Int) ≤ index ∧ (index : Int) < length := by omega
  simp [resolve, notNegative, within]

/-- Where a step leads, its child stands. -/
theorem Leads.child?_eq {tree child : Tree} {descent : Descent} {category : Category}
    (leads : Leads tree descent category child) : tree.child? descent = some child := by
  cases leads with
  | single entry _ => simp [child?, slot?_of_entry entry]
  | @item _ _ contents index _ entry _ stands =>
    have inside := (List.getElem?_eq_some_iff.1 stands).1
    simp [child?, slot?_of_entry entry, resolve_natCast inside, stands]

/-- What is reached stands at the place. -/
theorem Reaches.find?_eq {tree node : Tree} {place : Place} (reaches : Reaches tree place node) :
    tree.find? place = some node := by
  induction reaches with
  | here => rfl
  | step leads _ _ hypothesis =>
    rw [find?, leads.child?_eq]
    exact hypothesis

/-- The number of a field among those of a node. -/
def fieldNumber (tree : Tree) (name : String) : Nat := (tree.entries.map (·.1.name)).idxOf name

/-- A step by numbers: that of its field, and that of the item. -/
def stepRank (tree : Tree) (descent : Descent) : Nat ×ₗ Nat :=
  toLex (tree.fieldNumber descent.field, (descent.index.getD 0).toNat)

/-- The steps of a place by numbers; places compare as these do, one after another. -/
def rank : Tree → Place → List (Nat ×ₗ Nat)
  | _, [] => []
  | tree, descent :: rest =>
    tree.stepRank descent :: ((tree.child? descent).map fun child => child.rank rest).getD []

/-- The rank of a way begins with that of its first step. -/
theorem Leads.rank_cons {tree child : Tree} {descent : Descent} {category : Category}
    (leads : Leads tree descent category child) (place : Place) :
    tree.rank (descent :: place) = tree.stepRank descent :: child.rank place := by
  rw [rank, leads.child?_eq]
  rfl

/-- Fields are numbered as they come. -/
theorem pairwise_entries (tree : Tree) :
    tree.entries.Pairwise fun first second =>
      tree.fieldNumber first.1.name < tree.fieldNumber second.1.name := by
  have number (index : Nat) (inside : index < tree.entries.length) :
      tree.fieldNumber tree.entries[index].1.name = index := by
    have atIndex := tree.entries_nodup.idxOf_getElem index (by simpa using inside)
    rwa [List.getElem_map] at atIndex
  rw [List.pairwise_iff_getElem]
  intro first second firstInside secondInside smaller
  rwa [number, number]

/-- The root is no misfit. -/
theorem place_ne_nil {tree : Tree} {misfit : Misfit} (listed : misfit ∈ tree.misfits) :
    misfit.place ≠ [] := by
  obtain ⟨place, node, descent, -, -, isPlace⟩ := mem_misfits_iff.1 listed
  simp [isPlace]

/-- Misfits at a place are listed in order: what stands there first, then what is wrong in it. -/
theorem pairwise_misfitsAt {tree child : Tree} {descent : Descent} {category : Category}
    (leads : Leads tree descent category child)
    (inside : child.misfits.Pairwise fun first second =>
      child.rank first.place < child.rank second.place) :
    (misfitsAt descent category child child.misfits).Pairwise fun first second =>
      tree.rank first.place < tree.rank second.place := by
  rw [misfitsAt, List.pairwise_append]
  refine ⟨?_, ?_, ?_⟩
  · split
    · exact .nil
    · exact List.pairwise_singleton _ _
  · split
    · rw [List.pairwise_map]
      refine inside.imp fun smaller => ?_
      rw [Misfit.below, Misfit.below, leads.rank_cons, leads.rank_cons]
      exact List.cons_lt_cons_iff.2 (.inr ⟨rfl, smaller⟩)
    · exact .nil
  · intro first inFirst second inSecond
    split at inFirst
    · cases inFirst
    split at inSecond
    · obtain rfl := List.mem_singleton.1 inFirst
      obtain ⟨inner, listed, rfl⟩ := List.mem_map.1 inSecond
      obtain ⟨next, rest, isPlace⟩ := List.exists_cons_of_ne_nil (place_ne_nil listed)
      rw [Misfit.below, leads.rank_cons, leads.rank_cons, isPlace, rank, rank]
      exact List.cons_lt_cons_iff.2 (.inr ⟨rfl, List.nil_lt_cons _ _⟩)
    · cases inSecond

/-- Misfits at a place stand behind the step that leads there. -/
theorem place_of_mem_misfitsAt {descent : Descent} {category : Category} {content : Tree}
    {inside : List Misfit} {misfit : Misfit}
    (listed : misfit ∈ misfitsAt descent category content inside) :
    ∃ rest, misfit.place = descent :: rest := by
  rcases mem_misfitsAt.1 listed with ⟨-, rfl⟩ | ⟨-, inner, -, rfl⟩
  · exact ⟨[], rfl⟩
  · exact ⟨inner.place, rfl⟩

/-- The misfits of a field stand behind its name. -/
theorem place_of_mem_entryMisfits {tree : Tree} {entry : Field × Slot Tree} {misfit : Misfit}
    (member : entry ∈ tree.entries) (listed : misfit ∈ entryMisfits entry) :
    ∃ index rest, misfit.place = ⟨entry.1.name, index⟩ :: rest := by
  obtain ⟨field, slot⟩ := entry
  cases standing_of_entry member with
  | single one =>
    rw [entryMisfits_one one] at listed
    exact ⟨none, place_of_mem_misfitsAt listed⟩
  | items many =>
    rw [entryMisfits_many many] at listed
    obtain ⟨item, -, listed⟩ := List.mem_flatMap.1 listed
    exact ⟨some item.2, place_of_mem_misfitsAt listed⟩
  | noList many =>
    rw [entryMisfits_noList many] at listed
    exact ⟨none, [], congrArg Misfit.place (List.mem_singleton.1 listed)⟩
  | list one =>
    rw [entryMisfits_list one] at listed
    exact ⟨none, [], congrArg Misfit.place (List.mem_singleton.1 listed)⟩

/-- Steps into one field compare by the numbers of the items, which decide about places. -/
theorem rank_lt_of_item_lt (tree : Tree) (name : String) {first second : Nat}
    (smaller : first < second) (left right : Place) :
    tree.rank (⟨name, some first⟩ :: left) < tree.rank (⟨name, some second⟩ :: right) := by
  rw [rank, rank]
  refine List.cons_lt_cons_iff.2 (.inl (Prod.Lex.toLex_lt_toLex.2 (.inr ⟨rfl, ?_⟩)))
  simpa using smaller

/-- Misfits are listed in the order of their places. -/
theorem pairwise_misfits (tree : Tree) :
    tree.misfits.Pairwise fun first second => tree.rank first.place < tree.rank second.place := by
  induction tree using childInduction with
  | step tree below =>
    rw [misfits_eq, List.pairwise_flatMap]
    refine ⟨fun ⟨field, slot⟩ entry => ?_, ?_⟩
    · cases standing_of_entry entry with
      | @single _ content one =>
        have leads := Leads.single entry one
        rw [entryMisfits_one one]
        exact pairwise_misfitsAt leads (below content leads.mem_children)
      | @items _ contents many =>
        rw [entryMisfits_many many, List.pairwise_flatMap]
        refine ⟨fun item stands => ?_, ?_⟩
        · have leads := Leads.item entry many (List.mem_zipIdx_iff_getElem?.1 stands)
          exact pairwise_misfitsAt leads (below item.1 leads.mem_children)
        · refine (pairwise_zipIdx contents 0).imp fun smaller left inLeft right inRight => ?_
          obtain ⟨leftRest, leftPlace⟩ := place_of_mem_misfitsAt inLeft
          obtain ⟨rightRest, rightPlace⟩ := place_of_mem_misfitsAt inRight
          rw [leftPlace, rightPlace]
          exact rank_lt_of_item_lt tree field.name smaller leftRest rightRest
      | noList many =>
        rw [entryMisfits_noList many]
        exact List.pairwise_singleton _ _
      | list one =>
        rw [entryMisfits_list one]
        exact List.pairwise_singleton _ _
    · refine tree.pairwise_entries.imp_of_mem
        fun inFirst inSecond smaller left inLeft right inRight => ?_
      obtain ⟨leftIndex, leftRest, leftPlace⟩ := place_of_mem_entryMisfits inFirst inLeft
      obtain ⟨rightIndex, rightRest, rightPlace⟩ := place_of_mem_entryMisfits inSecond inRight
      rw [leftPlace, rightPlace, rank, rank]
      exact List.cons_lt_cons_iff.2 (.inl (Prod.Lex.toLex_lt_toLex.2 (.inl smaller)))

/-- What a step adds to a path behind the point: the name of the field and, for an item, its
number in brackets. -/
def Descent.segment (descent : Descent) : List Char :=
  descent.field.toList ++ match descent.index with
    | none => []
    | some index => '[' :: index.repr.toList ++ [']']

/-- A place as text, behind the name of the root. -/
def placeText (root : String) (place : Place) : String :=
  root ++ String.join (place.map fun descent => "." ++ String.ofList descent.segment)

/-- Read what a step has added to a path. -/
def Descent.ofSegment? (segment : List Char) : Option Descent :=
  let name := String.ofList (segment.takeWhile (· != '['))
  match segment.dropWhile (· != '[') with
  | [] => some ⟨name, none⟩
  | _ :: number =>
    let digits := number.dropLast
    if number.getLast? == some ']' && digits.all Char.isDigit then
      some ⟨name, some (Nat.ofDigitChars 10 digits 0)⟩
    else none

/-- Read a place, and the name of the root in front of it. -/
def readPlace? (path : String) : Option (String × Place) :=
  match path.toList.splitOn '.' with
  | [] => none
  | root :: segments =>
    (segments.mapM Descent.ofSegment?).map fun place => (String.ofList root, place)

/-- The name of the field does not contain what ends it, and the number counts from the start of
the list. -/
structure Descent.Plain (descent : Descent) : Prop where
  point : '.' ∉ descent.field.toList
  bracket : '[' ∉ descent.field.toList
  number : ∀ index ∈ descent.index, 0 ≤ index

/-- A number is shown in its digits. -/
theorem toList_repr_natCast (index : Nat) : (index : Int).repr.toList = Nat.toDigits 10 index :=
  Nat.toList_repr

/-- No dot stands in what tells a plain step. -/
theorem Descent.segment_plain {descent : Descent} (plain : descent.Plain) :
    '.' ∉ descent.segment := by
  obtain ⟨field, index?⟩ := descent
  rw [segment, List.mem_append, not_or]
  refine ⟨plain.point, ?_⟩
  cases index? with
  | none => exact List.not_mem_nil
  | some index =>
    obtain ⟨index, rfl⟩ := Int.eq_ofNat_of_zero_le (plain.number index rfl)
    have noDigit : '.' ∉ Nat.toDigits 10 index := fun member =>
      absurd (Nat.isDigit_of_mem_toDigits (by decide) (by decide) member) (by decide)
    simp [toList_repr_natCast, noDigit]

/-- A step is read back from what it has added. -/
theorem Descent.ofSegment?_segment {descent : Descent} (plain : descent.Plain) :
    ofSegment? descent.segment = some descent := by
  obtain ⟨field, index?⟩ := descent
  have inName : ∀ character ∈ field.toList, (character != '[') = true := fun character member =>
    bne_iff_ne.2 fun same => plain.bracket (same ▸ member)
  have name (rest : List Char) : (field.toList ++ rest).takeWhile (· != '[') =
      field.toList ++ rest.takeWhile (· != '[') := List.takeWhile_append_of_pos inName
  have behind (rest : List Char) : (field.toList ++ rest).dropWhile (· != '[') =
      rest.dropWhile (· != '[') := List.dropWhile_append_of_pos inName
  cases index? with
  | none =>
    simp only [segment, ofSegment?, name, behind]
    simp
  | some index =>
    obtain ⟨index, rfl⟩ := Int.eq_ofNat_of_zero_le (plain.number index rfl)
    have digits : ∀ digit ∈ Nat.toDigits 10 index, digit.isDigit = true := fun digit member =>
      Nat.isDigit_of_mem_toDigits (by decide) (by decide) member
    simp [segment, ofSegment?, name, behind, toList_repr_natCast, Nat.ofDigitChars_ten_toDigits]
    exact digits

/-- A place is told by its steps with dots between. -/
theorem toList_placeText (root : String) (place : Place) :
    (placeText root place).toList =
      ['.'].intercalate (root.toList :: place.map Descent.segment) := by
  induction place generalizing root with
  | nil => simp [placeText]
  | cons descent rest hypothesis =>
    have later := hypothesis (String.ofList descent.segment)
    rw [List.map_cons, List.intercalate_cons_cons]
    rw [String.toList_ofList] at later
    rw [← later]
    simp [placeText]

/-- A place is read back from its text. -/
theorem readPlace?_placeText {root : String} {place : Place} (rootPlain : '.' ∉ root.toList)
    (plain : ∀ descent ∈ place, descent.Plain) :
    readPlace? (placeText root place) = some (root, place) := by
  have parts : ∀ part ∈ root.toList :: place.map Descent.segment, '.' ∉ part := by
    refine List.forall_mem_cons.2 ⟨rootPlain, fun part member => ?_⟩
    obtain ⟨descent, inPlace, rfl⟩ := List.mem_map.1 member
    exact Descent.segment_plain (plain descent inPlace)
  have steps : (place.map Descent.segment).mapM Descent.ofSegment? = some place := by
    clear parts
    induction place with
    | nil => rfl
    | cons descent rest hypothesis =>
      obtain ⟨here, later⟩ := List.forall_mem_cons.1 plain
      simp [Descent.ofSegment?_segment here, hypothesis later]
  rw [readPlace?, toList_placeText, List.splitOn_intercalate '.' parts (List.cons_ne_nil _ _)]
  simp [steps]

end Tree

end Folio
