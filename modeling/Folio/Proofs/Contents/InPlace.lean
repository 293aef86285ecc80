import Folio.Proofs.Contents.Ancestors
import Folio.Proofs.Tree.Appending

/-!
# Tables of contents built in place

A table of contents can be built without items on the stack: the table is there from the start,
every listed section is added to it at its visit, and an entry of the stack knows where the item of
its section and its nested list stand. Such a builder can fail, for its stack may run empty, or an
entry may have no list to add to. It does not, since it agrees with `visitAll` at every visit
(`growAll_inPlace`): an open section stands last in the list around it (`around`), so the table is
at any time what closing all sections would give (`drawn_close`).
-/

namespace Folio

namespace Contents

open Folio.Tree OpenSection

/-- A listed section whose subtree is being visited: the depth of its visit, and where its item
and its nested list stand in the table. The lowest entry of a stack has no item. -/
structure OpenPlace where
  depth : Int
  item : Option Position
  nested : Option Position
  deriving DecidableEq, Repr

/-- What has been built before a visit: the table as it is, the stack, innermost section first, the
references that listed sections have used, and the records. -/
structure Growing where
  table : Tree
  stack : List OpenPlace
  seen : List Scalar := []
  records : List LogRecord := []

/-- The lowest entry stands for the table itself. -/
def OpenPlace.root : OpenPlace := ⟨-1, none, some []⟩

/-- An empty table, and nothing open. -/
def Growing.start : Growing := { table := orderedList [], stack := [.root] }

/-- Take off the sections that a visit at a depth lies outside of. Nothing but its depth keeps the
lowest entry on the stack. -/
def pop (depth : Int) : List OpenPlace → Option (OpenPlace × List OpenPlace)
  | [] => none
  | entry :: rest => if depth ≤ entry.depth then pop depth rest else some (entry, rest)

/-- The nested list of an entry, which is added behind the link of its item if it is not there. -/
def nestedOf (parent : OpenPlace) (table : Tree) : Option (Tree × Position) :=
  match parent.nested, parent.item with
  | some list, _ => some (table, list)
  | none, some item => table.append? item (orderedList [])
  | none, none => none

/-- One visit. There is no result if the stack runs empty or nothing can be added to. -/
def growVisit (options : ContentsOptions) (growing : Growing) (depth : Int) (visited : Tree) :
    Option (Except (ContentsError × List LogRecord) Growing) := do
  let (parent, rest) ← pop depth growing.stack
  if !visited.isA (.of .section) || options.beyond rest.length then
    return .ok { growing with stack := parent :: rest }
  match checkReference options visited ⟨[], growing.seen, growing.records⟩ with
  | .error cause => return .error (cause, growing.records)
  | .ok checked =>
    let (table, list) ← nestedOf parent growing.table
    let (table, item) ← table.append? list (listItem [linkTo visited])
    let entry : OpenPlace := ⟨depth, some item, none⟩
    return .ok ⟨table, entry :: { parent with nested := some list } :: rest, checked.seen,
      checked.records⟩

/-- All visits of a tree. -/
def growAll (options : ContentsOptions) :
    Growing → List (Int × Tree) → Option (Except (ContentsError × List LogRecord) Growing)
  | growing, [] => some (.ok growing)
  | growing, (depth, visited) :: rest =>
    match growVisit options growing depth visited with
    | some (.ok growing) => growAll options growing rest
    | failed => failed

/-- The table of contents of a tree. -/
def grow (options : ContentsOptions) (tree : Tree) :
    Option (Reported (Except ContentsError Tree)) := do
  match ← growAll options .start (tree.visits 0) with
  | .error (cause, records) => return ⟨.error cause, records⟩
  | .ok growing =>
    let summary :=
      s!"Built table of contents with {growing.table.children.length} top-level entries"
    return ⟨.ok growing.table, growing.records ++ [⟨Level.debug, source, summary⟩]⟩

/-- Stacks as visits leave them: sections with their links, on the entry of the table. -/
def Based : List OpenSection → Prop
  | [] => False
  | [entry] => entry.depth = -1
  | entry :: parent :: rest => 0 ≤ entry.depth ∧ entry.link.isSome ∧ Based (parent :: rest)

/-- The table around the list of the innermost open section. -/
def around : List OpenSection → Tree → Tree
  | entry :: parent :: rest, list =>
    around (parent :: rest)
      (orderedList (parent.items ++ [listItem (entry.link.toList ++ [list])]))
  | _, list => list

/-- The table with the items of open sections. -/
def drawn : List OpenSection → Tree
  | entry :: parent :: rest =>
    around (parent :: rest) (orderedList (parent.items ++ [entry.item]))
  | [entry] => orderedList entry.items
  | [] => orderedList []

/-- Where the list of the innermost open section stands, or will. -/
def listPlace : List OpenSection → Position
  | _ :: parent :: rest => listPlace (parent :: rest) ++ [parent.items.length] ++ [1]
  | _ => []

/-- The entry of an open section above others, with its nested list or without. -/
def placeOf (hasList : Bool) (entry : OpenSection) : List OpenSection → OpenPlace
  | [] => ⟨entry.depth, none, some []⟩
  | parent :: rest =>
    let item := listPlace (parent :: rest) ++ [parent.items.length]
    ⟨entry.depth, some item, if hasList then some (item ++ [1]) else none⟩

/-- The entries of sections around one that is open. -/
def placesBelow : List OpenSection → List OpenPlace
  | [] => []
  | entry :: rest => placeOf true entry rest :: placesBelow rest

/-- The entries of open sections. The innermost one has a list only if it has items. -/
def places : List OpenSection → List OpenPlace
  | [] => []
  | entry :: rest => placeOf (!entry.items.isEmpty) entry rest :: placesBelow rest

/-- The state with its table in one piece. -/
def State.inPlace (state : State) : Growing :=
  ⟨drawn state.stack, places state.stack, state.seen, state.records⟩

variable {entry parent : OpenSection} {stack rest : List OpenSection} {depth : Int}

/-- The place of an open section has its depth. -/
theorem depth_placeOf (hasList : Bool) (entry : OpenSection) (rest : List OpenSection) :
    (placeOf hasList entry rest).depth = entry.depth := by
  cases rest <;> rfl

/-- An entry that is given its list. -/
theorem nested_placeOf (hasList : Bool) (entry : OpenSection) (rest : List OpenSection) :
    { placeOf hasList entry rest with nested := some (listPlace (entry :: rest)) } =
      placeOf true entry rest := by
  cases rest <;> rfl

/-- Each open section has a place. -/
theorem length_placesBelow (stack : List OpenSection) :
    (placesBelow stack).length = stack.length := by
  induction stack with
  | nil => rfl
  | cons entry rest hypothesis => rw [placesBelow, List.length_cons, hypothesis, List.length_cons]

/-- An item that is added to the innermost open section comes last in its list. -/
theorem drawn_add (item : Tree) :
    drawn (entry.add item :: rest) =
      around (entry :: rest) (orderedList (entry.items ++ [item])) := by
  cases rest with
  | nil => rfl
  | cons parent rest => simp [drawn, around, add, OpenSection.item]

/-- The list of the innermost open section is in the table if it has items. -/
theorem drawn_of_items (notEmpty : entry.items ≠ []) :
    drawn (entry :: rest) = around (entry :: rest) (orderedList entry.items) := by
  cases rest with
  | nil => rfl
  | cons parent rest => simp [drawn, around, OpenSection.item, notEmpty]

/-- The table does not change when sections are closed. -/
theorem drawn_close (depth : Int) (stack : List OpenSection) :
    drawn (close depth stack) = drawn stack := by
  fun_induction close depth stack with
  | case1 entry parent rest closes hypothesis =>
    rw [hypothesis, drawn_add]
    rfl
  | case2 => rfl
  | case3 => rfl

/-- An entry is the same once an item has been added to its list. -/
theorem placesBelow_eq (item : Tree) :
    placesBelow (parent :: rest) = places (parent.add item :: rest) := by
  have hasList : (!(parent.add item).items.isEmpty) = true := by simp [add]
  rw [placesBelow, places, hasList]
  cases rest <;> rfl

/-- An item that is added leaves the list at the bottom. -/
theorem Based.add (based : Based (parent :: rest)) (item : Tree) :
    Based (parent.add item :: rest) := by
  cases rest with
  | nil => exact based
  | cons _ _ => exact based

/-- So does closing. -/
theorem Based.close (based : Based stack) (depth : Int) :
    Based (Contents.close depth stack) := by
  fun_induction Contents.close depth stack with
  | case1 entry parent rest closes hypothesis => exact hypothesis (based.2.2.add _)
  | case2 => exact based
  | case3 => exact based

/-- Where nothing can be closed there is the entry of the table alone. -/
theorem Based.eq_singleton (based : Based stack)
    (short : ∀ entry parent rest, stack = entry :: parent :: rest → False) :
    ∃ entry, stack = [entry] ∧ entry.depth = -1 := by
  cases stack with
  | nil => exact based.elim
  | cons entry rest =>
    cases rest with
    | nil => exact ⟨entry, rfl, based⟩
    | cons parent rest => exact (short entry parent rest rfl).elim

/-- Closing everything leaves the entry of the table with its items. -/
theorem drawn_eq (based : Based stack) : drawn stack = orderedList (finish stack) := by
  have closed := based.close (-1)
  obtain ⟨entry, isLowest, _⟩ := closed.eq_singleton fun entry parent rest isStack => by
    have settled := settled_close (-1) stack
    rw [isStack] at settled closed
    have isBelow : entry.depth < -1 := settled
    have visible : 0 ≤ entry.depth := closed.1
    omega
  rw [finish, ← drawn_close (-1) stack, isLowest]
  rfl

/-- The list stands where it should. -/
theorem at?_around (based : Based stack) (list : Tree) :
    (around stack list).at? (listPlace stack) = some list := by
  fun_induction around stack list with
  | case1 entry parent rest list hypothesis =>
    obtain ⟨link, isLink⟩ := Option.isSome_iff_exists.1 based.2.1
    rw [listPlace, at?_append, at?_append, hypothesis based.2.2, Option.bind_some, orderedList,
      at?_last, at?_nil, Option.bind_some, isLink]
    exact at?_last .listItem [link] list []
  | case2 stack list short =>
    obtain ⟨entry, rfl, _⟩ := based.eq_singleton short
    rfl

/-- What comes last in the list. -/
theorem at?_around_last (based : Based stack) (before : List Tree) (item : Tree) :
    (around stack (orderedList (before ++ [item]))).at? (listPlace stack ++ [before.length]) =
      some item := by
  rw [at?_append, at?_around based, Option.bind_some, orderedList, at?_last, at?_nil]

/-- A change of the list changes nothing around it. -/
theorem modifyAt_around (based : Based stack) (change : Tree → Tree) (list : Tree) :
    modifyAt change (listPlace stack) (around stack list) = around stack (change list) := by
  fun_induction around stack list generalizing change with
  | case1 entry parent rest list hypothesis =>
    obtain ⟨link, isLink⟩ := Option.isSome_iff_exists.1 based.2.1
    have inItem : modifyAt change [1] (listItem (entry.link.toList ++ [list])) =
        listItem (entry.link.toList ++ [change list]) := by
      rw [isLink]
      exact modifyAt_last .listItem [link] list change []
    rw [listPlace, modifyAt_append, modifyAt_append, hypothesis based.2.2, orderedList,
      modifyAt_last, modifyAt, inItem]
    rfl
  | case2 stack list short =>
    obtain ⟨entry, rfl, _⟩ := based.eq_singleton short
    rfl

/-- Where the sections are taken off that a visit lies outside of, they are closed. -/
theorem pop_places (visible : 0 ≤ depth) (based : Based stack) :
    ∃ parent rest, close depth stack = parent :: rest ∧ Based (parent :: rest) ∧
      pop depth (places stack) =
        some (placeOf (!parent.items.isEmpty) parent rest, placesBelow rest) := by
  fun_induction close depth stack with
  | case1 entry parent rest closes hypothesis =>
    obtain ⟨last, others, closed, basedLast, popped⟩ := hypothesis (based.2.2.add _)
    refine ⟨last, others, closed, basedLast, ?_⟩
    rw [← placesBelow_eq] at popped
    rw [places, pop, depth_placeOf, if_pos closes, popped]
  | case2 entry parent rest stays =>
    exact ⟨entry, parent :: rest, rfl, based, by rw [places, pop, depth_placeOf, if_neg stays]⟩
  | case3 stack short =>
    obtain ⟨entry, rfl, isLowest⟩ := based.eq_singleton short
    have stays : ¬ depth ≤ entry.depth := by omega
    exact ⟨entry, [], rfl, isLowest, by rw [places, pop, depth_placeOf, if_neg stays]⟩

/-- The innermost open section is given a list if it has none yet. -/
theorem nestedOf_placeOf (based : Based (entry :: rest)) :
    nestedOf (placeOf (!entry.items.isEmpty) entry rest) (drawn (entry :: rest)) =
      some (around (entry :: rest) (orderedList entry.items), listPlace (entry :: rest)) := by
  cases rest with
  | nil => rfl
  | cons parent rest =>
    by_cases isEmpty : entry.items = []
    · obtain ⟨link, isLink⟩ := Option.isSome_iff_exists.1 based.2.1
      have item : entry.item = listItem [link] := by simp [OpenSection.item, isEmpty, isLink]
      have stands : (drawn (entry :: parent :: rest)).at?
          (listPlace (parent :: rest) ++ [parent.items.length]) = some (listItem [link]) := by
        rw [drawn, at?_around_last based.2.2, item]
      have grown : modifyAt (addChild (orderedList []))
          (listPlace (parent :: rest) ++ [parent.items.length]) (drawn (entry :: parent :: rest)) =
          around (entry :: parent :: rest) (orderedList []) := by
        rw [drawn, modifyAt_append, modifyAt_around based.2.2, item, around, isLink]
        refine congrArg (around (parent :: rest)) ?_
        exact modifyAt_last .orderedList parent.items (listItem [link]) _ []
      have noList : (!entry.items.isEmpty) = false := by simp [isEmpty]
      have children : (listItem [link]).children.length = 1 := rfl
      rw [noList, isEmpty]
      simp only [nestedOf, placeOf, append?, stands, grown, Option.map_some, children, listPlace,
        Bool.false_eq_true, if_false]
    · have hasList : (!entry.items.isEmpty) = true := by simpa using isEmpty
      rw [drawn_of_items isEmpty, hasList]
      rfl

/-- An item is added behind those of the innermost open section. -/
theorem append?_around (based : Based (entry :: rest)) (item : Tree) :
    (around (entry :: rest) (orderedList entry.items)).append? (listPlace (entry :: rest)) item =
      some (drawn (entry.add item :: rest),
        listPlace (entry :: rest) ++ [entry.items.length]) := by
  rw [append?, at?_around based, Option.map_some, modifyAt_around based, orderedList,
    addChild_ofList, children_ofList, drawn_add]
  rfl

variable {options : ContentsOptions} {state last : State} {visits : List (Int × Tree)}

/-- A visit leaves such a stack behind. -/
theorem Based.of_visit {visited : Tree} (based : Based state.stack) (visible : 0 ≤ depth)
    (passed : visit options state depth visited = .ok last) : Based last.stack := by
  obtain ⟨parent, rest, closed, basedHere, _⟩ := pop_places visible based
  by_cases isListed : isListed options rest.length visited = true
  · rw [visit_of_listed isListed rfl closed] at passed
    cases checked : checkReference options visited state with
    | error cause =>
      rw [checked] at passed
      cases passed
    | ok next =>
      rw [checked] at passed
      cases passed
      exact ⟨visible, rfl, basedHere⟩
  · rw [visit_of_not_listed (by simpa using isListed) rfl closed] at passed
    cases passed
    exact basedHere

/-- Both builders do the same at a visit. -/
theorem growVisit_inPlace (visited : Tree) (based : Based state.stack) (visible : 0 ≤ depth) :
    growVisit options state.inPlace depth visited =
      some ((visit options state depth visited).map State.inPlace) := by
  obtain ⟨parent, rest, closed, basedHere, popped⟩ := pop_places visible based
  have popped : pop depth state.inPlace.stack = _ := popped
  have sameTable : state.inPlace.table = drawn (parent :: rest) := by
    rw [← closed, drawn_close]
    rfl
  have unstacked : (⟨[], state.inPlace.seen, state.inPlace.records⟩ : State) = state.over [] := rfl
  rw [growVisit, popped]
  simp only [Option.bind_eq_bind, Option.bind_some, length_placesBelow, unstacked,
    checkReference_over, sameTable, skips_eq]
  by_cases isListed : isListed options rest.length visited = true
  · rw [if_neg (by simp [isListed]), visit_of_listed isListed rfl closed]
    cases checkReference options visited state with
    | error cause => rfl
    | ok checked =>
      simp only [Except.map, nestedOf_placeOf basedHere, append?_around basedHere,
        Option.bind_some, nested_placeOf, drawn_add]
      rfl
  · have notListed : Contents.isListed options rest.length visited = false := by
      simpa using isListed
    rw [if_pos (by simp [notListed]), visit_of_not_listed notListed rfl closed]
    rfl

/-- Both builders do the same at all visits, and the stack is as visits leave it. -/
theorem growAll_inPlace (based : Based state.stack) (visible : ∀ call ∈ visits, 0 ≤ call.1) :
    growAll options state.inPlace visits =
        some ((visitAll options state visits).map State.inPlace) ∧
      ∀ last, visitAll options state visits = .ok last → Based last.stack := by
  induction visits generalizing state with
  | nil => exact ⟨rfl, fun last passed => by cases passed; exact based⟩
  | cons call rest hypothesis =>
    obtain ⟨depth, visited⟩ := call
    have visibleHere : 0 ≤ depth := visible (depth, visited) List.mem_cons_self
    rw [growAll, growVisit_inPlace visited based visibleHere, visitAll]
    cases here : visit options state depth visited with
    | error refusal => exact ⟨rfl, fun last passed => by cases passed⟩
    | ok next =>
      exact hypothesis (based.of_visit visibleHere here) fun other member =>
        visible other (List.mem_cons_of_mem _ member)

/-- Both builders do the same from an empty table on. -/
theorem growAll_start (options : ContentsOptions) (visible : ∀ call ∈ visits, 0 ≤ call.1) :
    growAll options .start visits =
        some ((visitAll options { stack := [bottom] } visits).map State.inPlace) ∧
      ∀ last, visitAll options { stack := [bottom] } visits = .ok last → Based last.stack := by
  have start : Growing.start = ({ stack := [bottom] } : State).inPlace := rfl
  rw [start]
  exact growAll_inPlace rfl visible

/-- A visit is that of what stands at a position, at a depth that is the length of the position. -/
theorem exists_place {tree visited : Tree} {start depth : Int} {index : Nat}
    (isVisit : (tree.visits start)[index]? = some (depth, visited)) :
    ∃ place, tree.positions[index]? = some place ∧ tree.at? place = some visited ∧
      depth = start + place.length := by
  have calls := congrArg (·[index]?) (calls_visits tree start)
  simp only [List.getElem?_map, isVisit, Option.map_some] at calls
  obtain ⟨place, isPlace, called⟩ := Option.map_eq_some_iff.1 calls
  obtain ⟨found, stands, same⟩ := Option.map_eq_some_iff.1 called
  cases same
  exact ⟨place, isPlace, stands, rfl⟩

/-- No visit from the root is above depth 0. -/
theorem visible_visits (tree : Tree) : ∀ call ∈ tree.visits 0, 0 ≤ call.1 := by
  intro call member
  obtain ⟨index, isVisit⟩ := List.mem_iff_getElem?.1 member
  obtain ⟨place, _, _, atDepth⟩ := exists_place isVisit
  omega

/-- A table that is built in place is the table, and there is always a list to add to. -/
theorem grow_eq (options : ContentsOptions) (tree : Tree) :
    grow options tree = some (build options tree) := by
  obtain ⟨agree, based⟩ := growAll_start options (visible_visits tree)
  rw [grow, build, agree]
  cases passed : visitAll options { stack := [bottom] } (tree.visits 0) with
  | error refusal => rfl
  | ok last =>
    have isTable : last.inPlace.table = orderedList (finish last.stack) :=
      drawn_eq (based last passed)
    simp only [Except.map, Option.bind_eq_bind, Option.bind_some, isTable, orderedList,
      children_ofList]
    rfl

end Contents

end Folio
