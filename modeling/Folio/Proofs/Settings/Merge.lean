import Folio.Proofs.Settings.Tables

/-!
# Merging as deep override

A path of keys leads through nested tables to a setting. What is not a table and stands at a path
of two tables together either stands there in the second, or it stands there in the first and the
second has nothing to say about the path (`Settings.Spares`): nothing stands there, and on the way
there are only tables. So the first is overridden value by value, whichever of the two has a table
where the other has something else, and however deep. From the keys of merged tables one sees that
the first also keeps its order. Overriding by nothing, or by what was already merged, does nothing.
Settings are values, so the two tables stay what they were.
-/

namespace Folio

namespace Setting

/-- The setting is a table. -/
def isTable : Setting → Bool
  | table _ => true
  | _ => false

/-- The setting that a path of keys leads to, from table to table. -/
def at? : Setting → List Key → Option Setting
  | setting, [] => some setting
  | table entries, key :: path => (Settings.get? entries key).bind fun value => at? value path
  | _, _ :: _ => none

/-- What counts as a table is one. -/
theorem eq_table_of_isTable {setting : Setting} (isTable : setting.isTable = true) :
    ∃ entries, setting = .table entries := by
  cases setting with
  | table entries => exact ⟨entries, rfl⟩
  | _ => cases isTable

end Setting

namespace Settings

open Setting (Unique Findable)

variable {base override : Settings} {older newer value : Setting} {key : Key}
  {path : List Key}

/-- A setting leaves a path alone: nothing stands there, and nothing but tables on the way. -/
def Spares (setting : Setting) (path : List Key) : Prop :=
  setting.at? path = none ∧
    ∀ before value, before <+: path → setting.at? before = some value → value.isTable = true

/-- What is not a table replaces whatever there was. -/
theorem mergeSetting_of_newer (leaf : newer.isTable = false) :
    mergeSetting older newer = newer := by
  cases newer with
  | table entries => cases leaf
  | _ => cases older <;> rfl

/-- What is not a table is replaced by whatever comes. -/
theorem mergeSetting_of_older (leaf : older.isTable = false) :
    mergeSetting older newer = newer := by
  cases older with
  | table entries => cases leaf
  | _ => cases newer <;> rfl

/-- A value together with the one that its key may have had before. -/
def overriding (old : Option Setting) (value : Setting) : Setting :=
  old.elim value fun old => mergeSetting old value

/-- Entries override one after the other. -/
theorem merge_cons (base : Settings) (entry : Key × Setting) (rest : Settings) :
    merge base (entry :: rest) =
      merge (put entry.1 (overriding (get? base entry.1) entry.2) base) rest := by
  rw [merge]
  cases get? base entry.1 <;> rfl

/-- Under each key of two tables together is what the second has there, over what the first has. -/
theorem get?_merge (unique : override.Pairwise fun first second => first.1.same second.1 = false) :
    get? (merge base override) key =
      ((get? override key).map (overriding (get? base key))).or (get? base key) := by
  induction override generalizing base with
  | nil => rfl
  | cons entry rest hypothesis =>
    obtain ⟨apart, unique⟩ := List.pairwise_cons.1 unique
    rw [merge_cons, hypothesis unique, get?_put, get?_cons]
    split
    · rename_i same
      have absent : get? rest key = none := by
        refine get?_eq_none_iff.2 fun other member => Bool.eq_false_iff.2 fun found => ?_
        have again := Key.same_trans same (Key.same_symm found)
        rw [apart other member] at again
        cases again
      rw [absent, get?_congr same]
      rfl
    · rfl

/-- The keys of two tables together are those of the first, and then what the second has besides. -/
theorem keys_merge (unique : override.Pairwise fun first second => first.1.same second.1 = false) :
    keys (merge base override) =
      keys base ++ (keys override).filter fun key => (get? base key).isNone := by
  induction override generalizing base with
  | nil => exact (List.append_nil _).symm
  | cons entry rest hypothesis =>
    obtain ⟨apart, unique⟩ := List.pairwise_cons.1 unique
    have alike : ∀ key ∈ keys rest,
        (get? (put entry.1 (overriding (get? base entry.1) entry.2) base) key).isNone =
          (get? base key).isNone := by
      intro key member
      obtain ⟨other, inRest, rfl⟩ := List.mem_map.1 member
      rw [get?_put, if_neg (by simp [apart other inRest])]
    rw [merge_cons, hypothesis unique, List.filter_congr alike, keys_put, keys_cons,
      List.filter_cons]
    split <;> simp

/-- Entries under new keys come after the others, as they are. -/
theorem merge_of_absent
    (unique : override.Pairwise fun first second => first.1.same second.1 = false)
    (absent : ∀ entry ∈ override, get? base entry.1 = none) :
    merge base override = base ++ override := by
  induction override generalizing base with
  | nil => exact (List.append_nil _).symm
  | cons entry rest hypothesis =>
    obtain ⟨apart, unique⟩ := List.pairwise_cons.1 unique
    obtain ⟨isNew, absent⟩ := List.forall_mem_cons.1 absent
    have isStillNew : ∀ other ∈ rest, get? (base ++ [entry]) other.1 = none := by
      intro other member
      rw [get?, List.find?_append, Option.map_or]
      exact Option.or_eq_none_iff.2 ⟨absent other member, by simp [apart other member]⟩
    rw [merge_cons, isNew, put_of_get?_eq_none isNew]
    exact (hypothesis unique isStillNew).trans (List.append_assoc ..)

/-- Entries that change nothing where they are found leave the table as it is. -/
theorem merge_of_found (found : ∀ entry ∈ override,
      ∃ old, get? base entry.1 = some old ∧ mergeSetting old entry.2 = old) :
    merge base override = base := by
  induction override with
  | nil => rfl
  | cons entry rest hypothesis =>
    obtain ⟨⟨old, isOld, kept⟩, found⟩ := List.forall_mem_cons.1 found
    rw [merge_cons, isOld, overriding, Option.elim_some, kept, put_of_get? isOld]
    exact hypothesis found

/-- Over nothing, a table with distinct keys is merged to itself. -/
theorem nil_merge (unique : override.Pairwise fun first second => first.1.same second.1 = false) :
    merge [] override = override :=
  merge_of_absent unique fun _ _ => rfl

/-- Overriding a second time by the same changes nothing. -/
theorem mergeSetting_again (unique : newer.Unique) (findable : newer.Findable) (older : Setting) :
    mergeSetting (mergeSetting older newer) newer = mergeSetting older newer := by
  induction unique generalizing older with
  | scalar value => rw [mergeSetting_of_newer rfl, mergeSetting_of_newer rfl]
  | foreign value => rw [mergeSetting_of_newer rfl, mergeSetting_of_newer rfl]
  | list items => rw [mergeSetting_of_newer rfl, mergeSetting_of_newer rfl]
  | @table override apart values hypothesis =>
    cases findable with | table areValues findable =>
    -- Over what is not a table, the second is as over the empty table.
    obtain ⟨base, isMerged⟩ :
        ∃ base, mergeSetting older (.table override) = .table (merge base override) := by
      cases older with
      | table base => exact ⟨base, rfl⟩
      | _ => exact ⟨[], congrArg Setting.table (nil_merge apart).symm⟩
    rw [isMerged, mergeSetting]
    refine congrArg Setting.table (merge_of_found fun entry member => ?_)
    have again := hypothesis entry member (findable entry member)
    rw [get?_merge apart, get?_of_mem apart member (areValues entry member)]
    refine ⟨_, rfl, ?_⟩
    cases get? base entry.1 with
    | none =>
      have fresh : mergeSetting .null entry.2 = entry.2 := mergeSetting_of_older rfl
      simpa [overriding, fresh] using again .null
    | some old => exact again old

/-- A path into a table begins with a key of it. -/
theorem at?_table (entries : Settings) (key : Key) (path : List Key) :
    (Setting.table entries).at? (key :: path) =
      (get? entries key).bind fun value => value.at? path :=
  rfl

/-- No path leads into a value that is no table. -/
theorem at?_of_not_isTable (leaf : value.isTable = false) : value.at? (key :: path) = none := by
  cases value with
  | table entries => cases leaf
  | _ => rfl

/-- Every setting touches the empty path. -/
theorem not_spares_nil (setting : Setting) : ¬Spares setting [] :=
  fun spares => nomatch spares.1

/-- A table leaves a path alone if it has nothing under the first key, or what is there leaves the
rest of the path alone. -/
theorem spares_table {entries : Settings} : Spares (.table entries) (key :: path) ↔
    ∀ value, get? entries key = some value → Spares value path := by
  constructor
  · rintro ⟨absent, onTheWay⟩ value found
    rw [at?_table, found, Option.bind_some] at absent
    refine ⟨absent, fun before inside isBefore stands => ?_⟩
    refine onTheWay (key :: before) inside (List.cons_prefix_cons.2 ⟨rfl, isBefore⟩) ?_
    rw [at?_table, found, Option.bind_some, stands]
  · intro below
    constructor
    · rw [at?_table]
      cases found : get? entries key with
      | none => rfl
      | some value => exact (below value found).1
    · rintro (_ | ⟨first, before⟩) inside isBefore stands
      · cases stands
        rfl
      · obtain ⟨rfl, isRest⟩ := List.cons_prefix_cons.1 isBefore
        obtain ⟨value, found, stands⟩ := Option.bind_eq_some_iff.1 stands
        exact (below value found).2 before inside isRest stands

/-- What is not a table leaves no path alone. -/
theorem not_spares_of_not_isTable (leaf : newer.isTable = false) : ¬Spares newer path := by
  intro spares
  rw [spares.2 [] newer (List.nil_prefix) rfl] at leaf
  cases leaf

/-- What is not a table stands at a path of two settings together if it does so in the second, or
else in the first where the second leaves the path alone. -/
theorem at?_mergeSetting_iff (unique : newer.Unique) (leaf : value.isTable = false) :
    (mergeSetting older newer).at? path = some value ↔
      newer.at? path = some value ∨ older.at? path = some value ∧ Spares newer path := by
  induction path generalizing older newer with
  | nil =>
    simp only [not_spares_nil, and_false, or_false, Setting.at?, Option.some.injEq]
    constructor
    · rintro rfl
      cases older <;> cases newer <;> first | rfl | cases leaf
    · rintro rfl
      exact mergeSetting_of_newer leaf
  | cons key path hypothesis =>
    cases newerTable : newer.isTable with
    | false =>
      rw [mergeSetting_of_newer newerTable, at?_of_not_isTable newerTable]
      simp [not_spares_of_not_isTable newerTable]
    | true =>
      obtain ⟨override, rfl⟩ := Setting.eq_table_of_isTable newerTable
      cases olderTable : older.isTable with
      | false => simp [mergeSetting_of_older olderTable, at?_of_not_isTable olderTable]
      | true =>
        obtain ⟨base, rfl⟩ := Setting.eq_table_of_isTable olderTable
        rw [mergeSetting, at?_table, at?_table, at?_table, spares_table, get?_merge unique.apart]
        cases isNew : get? override key with
        | none => simp
        | some new =>
          cases get? base key with
          | none => simp [overriding]
          | some old => simpa [overriding] using hypothesis (unique_of_get? unique isNew)

/-- Two tables at one path are together at that path. -/
theorem at?_mergeSetting_table (unique : newer.Unique) {olderThere newerThere : Settings}
    (isOlder : older.at? path = some (.table olderThere))
    (isNewer : newer.at? path = some (.table newerThere)) :
    (mergeSetting older newer).at? path = some (.table (merge olderThere newerThere)) ∧
      (Setting.table newerThere).Unique := by
  induction path generalizing older newer with
  | nil =>
    obtain rfl : older = .table olderThere := Option.some.inj isOlder
    obtain rfl : newer = .table newerThere := Option.some.inj isNewer
    exact ⟨rfl, unique⟩
  | cons key path hypothesis =>
    cases older with
    | table base =>
      cases newer with
      | table override =>
        obtain ⟨old, isOld, isOlder⟩ := Option.bind_eq_some_iff.1 isOlder
        obtain ⟨new, isNew, isNewer⟩ := Option.bind_eq_some_iff.1 isNewer
        rw [mergeSetting, at?_table, get?_merge unique.apart, isOld, isNew]
        exact hypothesis (unique_of_get? unique isNew) isOlder isNewer
      | _ => cases isNewer
    | _ => cases isOlder

/-- Two tables together are the first, deeply overridden by the second: what is no table stands at
a path if it does so in the second, or in the first where the second leaves the path alone; where
both have a table, the keys of the first keep their order, and new ones follow in theirs.
Overriding by nothing or over nothing does nothing, and neither does overriding by what is already
there. -/
theorem merge_deepOverride (uniqueBase : (Setting.table base).Unique)
    (unique : (Setting.table override).Unique) :
    (∀ path value, value.isTable = false →
      ((Setting.table (merge base override)).at? path = some value ↔
        (Setting.table override).at? path = some value ∨
          (Setting.table base).at? path = some value ∧ Spares (.table override) path)) ∧
    (∀ path older newer, (Setting.table base).at? path = some (.table older) →
      (Setting.table override).at? path = some (.table newer) →
      (Setting.table (merge base override)).at? path = some (.table (merge older newer)) ∧
        keys (merge older newer) =
          keys older ++ (keys newer).filter fun key => (get? older key).isNone) ∧
    merge base [] = base ∧ merge [] override = override ∧
    ((Setting.table base).Findable → merge base base = base) ∧
    ((Setting.table override).Findable →
      merge (merge base override) override = merge base override) := by
  refine ⟨fun path value leaf => ?_, fun path older newer isOlder isNewer => ?_, rfl,
    nil_merge unique.apart, fun findable => ?_, fun findable => ?_⟩
  · change (mergeSetting (.table base) (.table override)).at? path = some value ↔ _
    exact at?_mergeSetting_iff unique leaf
  · obtain ⟨merged, uniqueThere⟩ := at?_mergeSetting_table unique isOlder isNewer
    exact ⟨merged, keys_merge uniqueThere.apart⟩
  · have again := mergeSetting_again uniqueBase findable .null
    exact Setting.table.inj again
  · have again := mergeSetting_again unique findable (.table base)
    exact Setting.table.inj again

/-- Settings with a depth and an empty table under `toc`, and a scalar under `references`. -/
def shallow : Settings :=
  [(.text "toc", .table [(.text "max_depth", .int 2), (.text "extra", .table [])]),
    (.text "references", .null), (.text "strict", .bool true)]

/-- Settings with a table under each name where `shallow` has none, and the other way around. -/
def nested : Settings :=
  [(.text "references", .table [(.text "fallback_slug", .text "part")]), (.text "level", .int 1),
    (.text "toc", .table [(.text "extra", .int 0), (.text "max_depth", .table [])])]

/-- Nested tables override a shallow one at each path that they set, and leave the other paths and
the order of the keys. -/
theorem merge_deepOverride_nested :
    ((Setting.table shallow).Unique ∧ (Setting.table nested).Unique) ∧
      (Setting.table (merge shallow nested)).at? [.text "toc", .text "extra"] = some (.int 0) ∧
      (Setting.table (merge shallow nested)).at? [.text "references", .text "fallback_slug"] =
        some (.text "part") ∧
      (Setting.table (merge shallow nested)).at? [.text "strict"] = some (.bool true) ∧
      (Setting.table (merge shallow nested)).at? [.text "toc", .text "max_depth"] ≠
        some (.int 2) ∧
      keys (merge shallow nested) =
        [.text "toc", .text "references", .text "strict", .text "level"] ∧
      merge (merge shallow nested) nested = merge shallow nested := by
  have uniqueShallow : (Setting.table shallow).Unique := by
    refine .table (by decide) (List.forall_mem_cons.2 ⟨.table (by decide) ?_, ?_⟩)
    · exact List.forall_mem_cons.2 ⟨.scalar _, List.forall_mem_singleton.2 (.table .nil nofun)⟩
    · exact List.forall_mem_cons.2 ⟨.scalar _, List.forall_mem_singleton.2 (.scalar _)⟩
  have uniqueNested : (Setting.table nested).Unique := by
    refine .table (by decide) (List.forall_mem_cons.2 ⟨.table (by decide) ?_, ?_⟩)
    · exact List.forall_mem_singleton.2 (.scalar _)
    · refine List.forall_mem_cons.2 ⟨.scalar _, List.forall_mem_singleton.2 (.table (by decide) ?_)⟩
      exact List.forall_mem_cons.2 ⟨.scalar _, List.forall_mem_singleton.2 (.table .nil nofun)⟩
  have findable : (Setting.table nested).Findable := by
    have named : (Setting.table nested).Named := by
      simp [nested, Setting.named_table, Setting.Named.scalar]
    exact named.findable
  have spared : Spares (.table nested) [.text "strict"] :=
    spares_table.2 fun value (found : none = some value) => nomatch found
  obtain ⟨paths, levels, -, -, -, again⟩ := merge_deepOverride uniqueShallow uniqueNested
  refine ⟨⟨uniqueShallow, uniqueNested⟩, (paths _ _ rfl).2 (.inl rfl), (paths _ _ rfl).2 (.inl rfl),
    (paths _ _ rfl).2 (.inr ⟨rfl, spared⟩), fun kept => ?_, (levels [] _ _ rfl rfl).2.trans rfl,
    again findable⟩
  rcases (paths _ _ rfl).1 kept with replaced | ⟨-, absent, -⟩
  · cases replaced
  · cases absent

end Settings

end Folio
