import Folio.Proofs.Contents.Forest

/-!
# Nesting from depths

A table of contents is built from the depths of visits alone. The invariant that ties them to
the tree: when a visit at some depth begins and the sections that it lies outside of are
closed, the stack holds the listed sections around the visited node. `Adds` states what the
visits of a part of the tree then do: they check its listed sections, and once everything
deeper is closed again, the innermost open section has got the items of that part and the
rest of the stack is as it was. `build_eq` reads off the whole table.
-/

namespace Folio.Contents

open OpenSection

/-- A visit at the depth closes nothing. -/
def Settled (depth : Int) : List OpenSection → Prop
  | entry :: _ :: _ => entry.depth < depth
  | _ => True

/-- Where all open sections are around the next one, none is closed. -/
theorem close_of_settled {depth : Int} {stack : List OpenSection}
    (settled : Settled depth stack) : close depth stack = stack := by
  match stack, settled with
  | [], _ => rw [close]; simp
  | [_], _ => rw [close]; simp
  | entry :: parent :: rest, settled =>
    have above : ¬ depth ≤ entry.depth := Int.not_le.2 settled
    rw [close, if_neg above]

/-- After closing, all open sections are around the next one. -/
theorem settled_close (depth : Int) (stack : List OpenSection) :
    Settled depth (close depth stack) := by
  fun_induction close depth stack with
  | case1 entry parent rest closes hypothesis => exact hypothesis
  | case2 entry parent rest stays => exact Int.not_le.1 stays
  | case3 stack short =>
    match stack, short with
    | [], _ => trivial
    | [_], _ => trivial
    | entry :: parent :: rest, short => exact absurd rfl (short entry parent rest)

/-- A stack that is settled for a depth is settled for deeper visits. -/
theorem Settled.mono {outer inner : Int} (le : outer ≤ inner) {stack : List OpenSection}
    (settled : Settled outer stack) : Settled inner stack := by
  match stack, settled with
  | [], _ => trivial
  | [_], _ => trivial
  | _ :: _ :: _, settled => exact Int.lt_of_lt_of_le settled le

/-- Only the depth of the innermost section counts. -/
theorem Settled.of_depth_eq {depth : Int} {entry other : OpenSection}
    {rest : List OpenSection} (settled : Settled depth (entry :: rest))
    (same : other.depth = entry.depth) : Settled depth (other :: rest) := by
  cases rest with
  | nil => trivial
  | cons parent rest =>
    have below : entry.depth < depth := settled
    exact (same ▸ below : other.depth < depth)

/-- Sections that a deeper visit closes are closed by a less deep one anyway. -/
theorem close_close {outer inner : Int} (le : outer ≤ inner) (stack : List OpenSection) :
    close outer (close inner stack) = close outer stack := by
  fun_induction close inner stack with
  | case1 entry parent rest closes hypothesis =>
    rw [hypothesis, close.eq_1 outer entry, if_pos (Int.le_trans le closes)]
  | case2 => rfl
  | case3 => rfl

/-- The state with another stack. -/
def State.over (state : State) (stack : List OpenSection) : State := { state with stack }

/-- The references of some sections are checked one after another. -/
def checkAll (options : ContentsOptions) :
    State → List Tree → Except (ContentsError × List LogRecord) State
  | state, [] => .ok state
  | state, visited :: rest =>
    match checkReference options visited state with
    | .error cause => .error (cause, state.records)
    | .ok state => checkAll options state rest

/-- A check does not look at the stack. -/
theorem checkReference_over (options : ContentsOptions) (visited : Tree) (state : State)
    (stack : List OpenSection) :
    checkReference options visited (state.over stack) =
      (checkReference options visited state).map (·.over stack) := by
  obtain ⟨_, seen, records⟩ := state
  change checkReference options visited ⟨stack, seen, records⟩ = _
  unfold checkReference
  by_cases unset : (!visited.reference.isSet) = true
  · rw [if_pos unset, if_pos unset]
    split <;> rfl
  · rw [if_neg unset, if_neg unset]
    by_cases repeated : seen.any visited.reference.same = true
    · rw [if_pos repeated, if_pos repeated]
      split <;> rfl
    · rw [if_neg repeated, if_neg repeated]
      rfl

/-- Checks do not look at the stack. -/
theorem checkAll_over (options : ContentsOptions) (state : State) (stack : List OpenSection)
    (sections : List Tree) :
    checkAll options (state.over stack) sections =
      (checkAll options state sections).map (·.over stack) := by
  induction sections generalizing state with
  | nil => rfl
  | cons visited rest hypothesis =>
    rw [checkAll, checkAll, checkReference_over]
    cases checkReference options visited state with
    | error cause => rfl
    | ok checked => exact hypothesis checked

/-- Checks of joined lists come one after the other. -/
theorem checkAll_append (options : ContentsOptions) (state : State) (first second : List Tree) :
    checkAll options state (first ++ second) =
      (checkAll options state first).bind fun checked => checkAll options checked second := by
  induction first generalizing state with
  | nil => rfl
  | cons visited rest hypothesis =>
    rw [List.cons_append, checkAll, checkAll]
    cases checkReference options visited state with
    | error cause => rfl
    | ok checked => exact hypothesis checked

/-- An open section with further items. -/
def OpenSection.addAll (entry : OpenSection) (items : List Tree) : OpenSection :=
  { entry with items := entry.items ++ items }

/-- Adding nothing changes nothing. -/
theorem OpenSection.addAll_nil (entry : OpenSection) : entry.addAll [] = entry := by
  rw [addAll, List.append_nil]

/-- Items that are added after others are added together with them. -/
theorem OpenSection.addAll_addAll (entry : OpenSection) (first second : List Tree) :
    (entry.addAll first).addAll second = entry.addAll (first ++ second) := by
  rw [addAll, addAll, addAll, List.append_assoc]

/-- Visits of one run, one after another. -/
theorem visitAll_append (options : ContentsOptions) (state : State)
    (first second : List (Int × Tree)) :
    visitAll options state (first ++ second) =
      (visitAll options state first).bind fun between => visitAll options between second := by
  induction first generalizing state with
  | nil => rfl
  | cons entry rest hypothesis =>
    obtain ⟨depth, visited⟩ := entry
    rw [List.cons_append, visitAll, visitAll]
    cases visit options state depth visited with
    | error refusal => rfl
    | ok between => exact hypothesis between

/-- What visits that begin at a depth inside `level` listed sections do: they check the
sections, and add the items to the innermost open section. -/
def Adds (options : ContentsOptions) (depth : Int) (level : Nat) (visits : List (Int × Tree))
    (sections items : List Tree) : Prop :=
  ∀ (state : State) (entry : OpenSection) (rest : List OpenSection), rest.length = level →
    close depth state.stack = entry :: rest →
    match checkAll options state sections with
    | .error refusal => visitAll options state visits = .error refusal
    | .ok checked => ∃ stack, visitAll options state visits = .ok (checked.over stack) ∧
        close depth stack = entry.addAll items :: rest

variable {options : ContentsOptions} {depth : Int} {level : Nat}

/-- No visits add nothing. -/
theorem Adds.nil : Adds options depth level [] [] [] := by
  intro state entry rest _ atDepth
  exact ⟨state.stack, rfl, by rw [atDepth, OpenSection.addAll_nil]⟩

/-- Visits one after another add their items one after another. -/
theorem Adds.append {first second : List (Int × Tree)}
    {firstSections secondSections firstItems secondItems : List Tree}
    (left : Adds options depth level first firstSections firstItems)
    (right : Adds options depth level second secondSections secondItems) :
    Adds options depth level (first ++ second) (firstSections ++ secondSections)
      (firstItems ++ secondItems) := by
  intro state entry rest atLevel atDepth
  have here := left state entry rest atLevel atDepth
  rw [checkAll_append, visitAll_append]
  cases checked : checkAll options state firstSections with
  | error refusal =>
    rw [checked] at here
    simp only [Except.bind, here]
  | ok between =>
    rw [checked] at here
    obtain ⟨stack, visited, closed⟩ := here
    have there := right (between.over stack) (entry.addAll firstItems) rest atLevel closed
    rw [checkAll_over] at there
    simp only [Except.bind, visited]
    cases final : checkAll options between secondSections with
    | error refusal => simpa only [final, Except.map] using there
    | ok last =>
      rw [final] at there
      obtain ⟨lastStack, lastVisited, lastClosed⟩ := there
      exact ⟨lastStack, lastVisited, by rw [lastClosed, OpenSection.addAll_addAll]⟩

/-- A builder skips what is not listed. -/
theorem skips_eq (options : ContentsOptions) (level : Nat) (tree : Tree) :
    (!tree.isA (.of .section) || options.beyond level) = !isListed options level tree := by
  simp [isListed, Bool.not_and]

/-- A visit of a node that is not listed closes sections and does nothing else. -/
theorem visit_of_not_listed {tree : Tree} (notListed : isListed options level tree = false)
    {state : State} {entry : OpenSection} {rest : List OpenSection} (atLevel : rest.length = level)
    (atDepth : close depth state.stack = entry :: rest) :
    visit options state depth tree = .ok (state.over (entry :: rest)) := by
  have skips : (!tree.isA (.of .section) ||
      options.beyond ((entry :: rest).length - 1)) = true := by
    rw [List.length_cons, Nat.add_sub_cancel, atLevel, skips_eq, notListed, Bool.not_false]
  rw [visit, atDepth, if_pos skips]
  rfl

/-- A node that is not listed adds what the visits below it add. -/
theorem Adds.of_not_listed {tree : Tree} {below : List (Int × Tree)}
    {sections items : List Tree} (notListed : isListed options level tree = false)
    (inside : Adds options (depth + 1) level below sections items) :
    Adds options depth level ((depth, tree) :: below) sections items := by
  intro state entry rest atLevel atDepth
  have settled : Settled depth (entry :: rest) := atDepth ▸ settled_close depth state.stack
  have deeper : close (depth + 1) (state.over (entry :: rest)).stack = entry :: rest :=
    close_of_settled (settled.mono (by omega))
  have there := inside (state.over (entry :: rest)) entry rest atLevel deeper
  rw [checkAll_over] at there
  rw [visitAll, visit_of_not_listed notListed atLevel atDepth]
  cases checked : checkAll options state sections with
  | error refusal => simpa only [checked, Except.map] using there
  | ok last =>
    rw [checked] at there
    obtain ⟨stack, visited, closed⟩ := there
    refine ⟨stack, visited, ?_⟩
    rw [← close_close (by omega : depth ≤ depth + 1), closed]
    exact close_of_settled (settled.of_depth_eq rfl)

/-- What stands on the stack for a section that has been opened. -/
def openedFor (depth : Int) (tree : Tree) : OpenSection := ⟨depth, some (linkTo tree), []⟩

/-- A visit of a listed section checks its reference and opens it. -/
theorem visit_of_listed {tree : Tree} (isListed : isListed options level tree = true)
    {state : State} {entry : OpenSection} {rest : List OpenSection} (atLevel : rest.length = level)
    (atDepth : close depth state.stack = entry :: rest) :
    visit options state depth tree =
      match checkReference options tree state with
      | .error cause => .error (cause, state.records)
      | .ok checked => .ok (checked.over (openedFor depth tree :: entry :: rest)) := by
  have takes : (!tree.isA (.of .section) ||
      options.beyond ((entry :: rest).length - 1)) = false := by
    rw [List.length_cons, Nat.add_sub_cancel, atLevel, skips_eq, isListed, Bool.not_true]
  have checks := checkReference_over options tree state (entry :: rest)
  rw [visit, atDepth, if_neg (by rw [takes]; exact Bool.false_ne_true)]
  rw [State.over] at checks
  simp only [checks]
  cases checkReference options tree state with
  | error cause => rfl
  | ok checked => rfl

/-- A listed section is checked, opened for the visits below it, and adds its item when it is
closed. -/
theorem Adds.of_listed {tree : Tree} {below : List (Int × Tree)}
    {sections items : List Tree} (isListed : isListed options level tree = true)
    (inside : Adds options (depth + 1) (level + 1) below sections items) :
    Adds options depth level ((depth, tree) :: below) (tree :: sections)
      [itemOf tree items] := by
  intro state entry rest atLevel atDepth
  have settled : Settled depth (entry :: rest) := atDepth ▸ settled_close depth state.stack
  rw [checkAll, visitAll, visit_of_listed isListed atLevel atDepth]
  cases first : checkReference options tree state with
  | error cause => rfl
  | ok started =>
    have deeper : close (depth + 1) (started.over (openedFor depth tree :: entry :: rest)).stack =
        openedFor depth tree :: entry :: rest := by
      have isDeeper : (openedFor depth tree).depth < depth + 1 := Int.lt_succ depth
      exact close_of_settled isDeeper
    have there := inside (started.over (openedFor depth tree :: entry :: rest))
      (openedFor depth tree) (entry :: rest) (by rw [List.length_cons, atLevel]) deeper
    rw [checkAll_over] at there
    simp only
    cases checked : checkAll options started sections with
    | error refusal => simpa only [checked, Except.map] using there
    | ok last =>
      rw [checked] at there
      obtain ⟨stack, visited, closed⟩ := there
      refine ⟨stack, visited, ?_⟩
      -- Closing what is deeper leaves the section itself on top; closing down to its own
      -- depth then turns it into an item.
      rw [← close_close (by omega : depth ≤ depth + 1), closed, close,
        if_pos (by simp [openedFor, OpenSection.addAll])]
      exact close_of_settled (settled.of_depth_eq rfl)

/-- The visits of several trees add what each of them adds. -/
theorem Adds.of_each {trees : List Tree} {sections items : Tree → List Tree}
    (each : ∀ tree ∈ trees, Adds options depth level (tree.visits depth) (sections tree)
      (items tree)) :
    Adds options depth level (Tree.visitsAll depth trees) (trees.flatMap sections)
      (trees.flatMap items) := by
  induction trees with
  | nil => exact .nil
  | cons tree rest hypothesis =>
    rw [Tree.visitsAll, List.flatMap_cons, List.flatMap_cons]
    exact (each tree List.mem_cons_self).append
      (hypothesis fun other member => each other (List.mem_cons_of_mem _ member))

/-- The visits of a tree check its listed sections and add its items. -/
theorem adds_visits (options : ContentsOptions) (depth : Int) (level : Nat) (tree : Tree) :
    Adds options depth level (tree.visits depth) (listed options level tree)
      (forestWithin options level tree) := by
  induction tree using Tree.childInduction generalizing depth level with
  | step tree below =>
    rw [Tree.visits_eq]
    by_cases isListed : isListed options level tree = true
    · rw [listed_of_listed isListed, forestWithin_of_listed isListed]
      exact .of_listed isListed (.of_each fun child member =>
        below child member (depth + 1) (level + 1))
    · have notListed : Contents.isListed options level tree = false := by simpa using isListed
      rw [listed_of_not_listed notListed, forestWithin_of_not_listed notListed]
      exact .of_not_listed notListed (.of_each fun child member =>
        below child member (depth + 1) level)

/-- What is reported of a finished table. -/
def builtRecord (items : List Tree) : LogRecord :=
  ⟨Level.debug, source, s!"Built table of contents with {items.length} top-level entries"⟩

/-- A table of contents is refused with the first refusal among its listed sections and with what
the checks up to it have reported. Otherwise it holds the items of the tree, and its length is
reported after what the checks have reported. -/
theorem build_reported (options : ContentsOptions) (tree : Tree) :
    build options tree =
      match checkAll options { stack := [bottom] } (listed options 0 tree) with
      | .error (cause, records) => ⟨.error cause, records⟩
      | .ok checked => ⟨.ok (Tree.orderedList (forestWithin options 0 tree)),
          checked.records ++ [builtRecord (forestWithin options 0 tree)]⟩ := by
  have lowest (depth : Int) : close depth [bottom] = [bottom] := close_of_settled trivial
  have adds := adds_visits options 0 0 tree { stack := [bottom] } bottom [] rfl (lowest 0)
  rw [build]
  cases checked : checkAll options { stack := [bottom] } (listed options 0 tree) with
  | error refusal =>
    rw [checked] at adds
    simp only [adds]
  | ok last =>
    rw [checked] at adds
    obtain ⟨stack, visited, closed⟩ := adds
    have finished : close (-1) stack = [bottom.addAll (forestWithin options 0 tree)] := by
      rw [← close_close (by omega : (-1 : Int) ≤ 0), closed]
      exact close_of_settled trivial
    simp only [visited, State.over, finish, finished]
    rfl

/-- A table of contents is refused with the first refusal among its listed sections, and
otherwise holds the items of the tree. -/
theorem build_eq (options : ContentsOptions) (tree : Tree) :
    (build options tree).value =
      match checkAll options { stack := [bottom] } (listed options 0 tree) with
      | .error refusal => .error refusal.1
      | .ok _ => .ok (Tree.orderedList (forestWithin options 0 tree)) := by
  rw [build_reported]
  cases checkAll options { stack := [bottom] } (listed options 0 tree) <;> rfl

/-- A table of contents that is built is the one of the items of the tree. -/
theorem eq_of_build {options : ContentsOptions} {tree table : Tree}
    (built : (build options tree).value = .ok table) :
    table = Tree.orderedList (forestWithin options 0 tree) := by
  rw [build_eq] at built
  split at built
  · cases built
  · exact (Except.ok.inj built).symm

/-- Nothing is refused unless references are required. -/
theorem checkAll_of_lenient (lenient : options.requireReferences.isSet = false)
    (state : State) (sections : List Tree) :
    ∃ checked, checkAll options state sections = .ok checked := by
  induction sections generalizing state with
  | nil => exact ⟨state, rfl⟩
  | cons visited rest hypothesis =>
    have passes : ∃ checked, checkReference options visited state = .ok checked := by
      simp only [checkReference, lenient, Bool.false_eq_true, if_false]
      split
      · exact ⟨_, rfl⟩
      · split <;> exact ⟨_, rfl⟩
    obtain ⟨checked, passed⟩ := passes
    rw [checkAll, passed]
    exact hypothesis checked

/-- Without required references every table of contents is built. -/
theorem build_of_lenient (lenient : options.requireReferences.isSet = false) (tree : Tree) :
    (build options tree).value = .ok (Tree.orderedList (forestWithin options 0 tree)) := by
  obtain ⟨last, passes⟩ := checkAll_of_lenient lenient { stack := [bottom] }
    (listed options 0 tree)
  rw [build_eq, passes]

/-- With default options the table of contents of any tree is the recursive one: nodes that
are no sections pass on what their children make, and a section makes an item with its link,
labelled with its title, and with the items of its title and then of its body in a nested
list, if there are any. -/
theorem build_default (root : Tree) :
    (build {} root).value = .ok (Tree.orderedList (forest root)) ∧
    (∀ tree : Tree, tree.isA (.of .section) = false →
      forest tree = tree.children.flatMap forest) ∧
    ∀ (reference : Scalar) (metadata : Json.Members) (title : Tree) (body : List Tree),
      forest (.node (.section reference) metadata [.one title, .many body]) =
        [Tree.listItem (Tree.internalLink reference [title] ::
          if (forest title ++ body.flatMap forest).isEmpty then []
          else [Tree.orderedList (forest title ++ body.flatMap forest)])] := by
  refine ⟨?_, fun tree notSection => ?_, fun reference metadata title body => ?_⟩
  · have lenient : ({} : ContentsOptions).requireReferences.isSet = false := rfl
    obtain ⟨checked, passes⟩ :=
      checkAll_of_lenient lenient { stack := [bottom] } (listed {} 0 root)
    rw [build_eq, passes, forestWithin_eq_forest rfl]
  · rw [forest_eq, if_neg (by simp [notSection])]
  · have isSection : (Tree.node (.section reference) metadata
        [.one title, .many body]).isA (.of .section) = true := rfl
    rw [forest_eq, if_pos isSection]
    simp [itemOf, linkTo, Tree.reference, Tree.title, Tree.titleIn, Tree.children,
      Slot.toList]

/-- A section inside a title is listed below the section with that title, and before the
sections of its body, whatever stands between. -/
example :
    forest (Tree.ofSection (Tree.ofList .bold [Tree.ofSection (Tree.ofText "a") []])
        [Tree.ofList .cell [Tree.ofSection (Tree.ofText "b") []]]) =
      [itemOf (Tree.ofSection (Tree.ofList .bold [Tree.ofSection (Tree.ofText "a") []])
          [Tree.ofList .cell [Tree.ofSection (Tree.ofText "b") []]])
        [itemOf (Tree.ofSection (Tree.ofText "a") []) [],
          itemOf (Tree.ofSection (Tree.ofText "b") []) []]] := by
  cbv

end Folio.Contents
