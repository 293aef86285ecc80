import Folio.Proofs.Scalar
import Folio.Proofs.Setting

/-!
# Look-up in tables

What is found under a key after a value was put under another, and in which order the keys of a
table then are. Keys are told apart by value: putting a value under `1.0` replaces what is under
`1`. In the tables of a setting with `Setting.Unique`, no key has the value of another one, at
whatever depth; if it has `Setting.Findable` too, then each entry is found under its key, since
there is one scalar only that has not its own value.
-/

namespace Folio

/-- No table in a setting has two entries under one key. -/
inductive Setting.Unique : Setting → Prop where
  | scalar (value : Scalar) : Unique (.scalar value)
  | foreign (value : Foreign) : Unique (.foreign value)
  | list (items : List Setting) : Unique (.list items)
  | table {entries : Settings}
      (keys : entries.Pairwise fun first second => first.1.same second.1 = false)
      (values : ∀ entry ∈ entries, Unique entry.2) : Unique (.table entries)

/-- All keys of the tables in a setting have a value, which is to say that they are not NaN. -/
inductive Setting.Findable : Setting → Prop where
  | scalar (value : Scalar) : Findable (.scalar value)
  | foreign (value : Foreign) : Findable (.foreign value)
  | list (items : List Setting) : Findable (.list items)
  | table {entries : Settings} (keys : ∀ entry ∈ entries, entry.1.isNaN = false)
      (values : ∀ entry ∈ entries, Findable entry.2) : Findable (.table entries)

/-- The keys of a table differ by value. -/
theorem Setting.Unique.apart {entries : Settings} (unique : Unique (.table entries)) :
    entries.Pairwise fun first second => first.1.same second.1 = false :=
  match unique with | .table keys _ => keys

/-- Texts have a value. -/
theorem Setting.Named.findable {setting : Setting} (named : setting.Named) : setting.Findable := by
  induction named with
  | scalar value => exact .scalar value
  | foreign value => exact .foreign value
  | list each => exact .list _
  | table keys _ values =>
    refine .table (fun entry member => ?_) values
    obtain ⟨name, isText⟩ := keys entry member
    rw [isText]
    rfl

namespace Key

variable {first second third : Key}

/-- A key that finds another is found by it. -/
theorem same_symm (same : first.same second = true) : second.same first = true :=
  match first, second, same with
  | scalar _, scalar _, same => Scalar.same_symm same
  | foreign _, foreign _, same =>
    let ⟨kind, plain⟩ := Foreign.same_iff.1 same
    Foreign.same_iff.2 ⟨kind.symm, plain.symm⟩

/-- Keys that find one another by way of a third do so directly. -/
theorem same_trans (left : first.same second = true) (right : second.same third = true) :
    first.same third = true :=
  match first, second, third, left, right with
  | scalar _, scalar _, scalar _, left, right => Scalar.same_trans left right
  | foreign _, foreign _, foreign _, left, right =>
    let ⟨kind, plain⟩ := Foreign.same_iff.1 left
    let ⟨lastKind, lastPlain⟩ := Foreign.same_iff.1 right
    Foreign.same_iff.2 ⟨kind.trans lastKind, plain.trans lastPlain⟩

/-- Keys that are the same are the same as the same others. -/
theorem same_congr (same : first.same second = true) (other : Key) :
    first.same other = second.same other :=
  Bool.eq_iff_iff.2 ⟨same_trans (same_symm same), same_trans same⟩

/-- A key finds itself unless it is the double that is no number. -/
theorem same_self_iff {key : Key} : key.same key = true ↔ key.isNaN = false := by
  cases key with
  | scalar value => exact Scalar.same_self_iff
  | foreign value => exact iff_of_true (Foreign.same_iff.2 ⟨rfl, rfl⟩) rfl

end Key

namespace Settings

variable {entries : Settings} {key other : Key} {value : Setting}

/-- The keys of a table, in order. -/
def keys (entries : Settings) : List Key := entries.map (·.1)

theorem keys_cons (entry : Key × Setting) (rest : Settings) :
    keys (entry :: rest) = entry.1 :: keys rest := rfl

@[simp] theorem get?_nil (key : Key) : get? [] key = none := rfl

/-- The first entry is found under its key, and otherwise the others are searched. -/
theorem get?_cons (entry : Key × Setting) (rest : Settings) (key : Key) :
    get? (entry :: rest) key = if entry.1.same key then some entry.2 else get? rest key := by
  rw [get?, List.find?_cons]
  cases entry.1.same key <;> rfl

/-- Keys of one value find the same. -/
theorem get?_congr (same : key.same other = true) : get? entries key = get? entries other := by
  induction entries with
  | nil => rfl
  | cons entry rest hypothesis =>
    have alike : entry.1.same key = entry.1.same other :=
      Bool.eq_iff_iff.2 ⟨fun found => Key.same_trans found same,
        fun found => Key.same_trans found (Key.same_symm same)⟩
    rw [get?_cons, get?_cons, alike, hypothesis]

/-- Nothing is found under a key that no entry has. -/
theorem get?_eq_none_iff :
    get? entries key = none ↔ ∀ entry ∈ entries, entry.1.same key = false := by
  simp [get?]

/-- A key whose value no other key has is found. -/
theorem get?_of_mem (apart : entries.Pairwise fun first second => first.1.same second.1 = false)
    {entry : Key × Setting} (member : entry ∈ entries) (isValue : entry.1.isNaN = false) :
    get? entries entry.1 = some entry.2 := by
  induction entries with
  | nil => cases member
  | cons first rest hypothesis =>
    obtain ⟨differ, apart⟩ := List.pairwise_cons.1 apart
    rw [get?_cons]
    rcases List.mem_cons.1 member with rfl | member
    · rw [if_pos (Key.same_self_iff.2 isValue)]
    · rw [if_neg (by simp [differ entry member])]
      exact hypothesis apart member

/-- What is found in a table that has no key twice has none twice either. -/
theorem unique_of_get? (unique : (Setting.table entries).Unique)
    (found : get? entries key = some value) : value.Unique := by
  cases unique with | table keys values =>
  obtain ⟨entry, first, rfl⟩ := Option.map_eq_some_iff.1 found
  exact values entry (List.mem_of_find?_eq_some first)

/-- What was put is found under its key, and under the other keys what was there. -/
theorem get?_put : get? (put key value entries) other =
    if key.same other then some value else get? entries other := by
  induction entries with
  | nil => rw [put, get?_cons]
  | cons entry rest hypothesis =>
    obtain ⟨first, old⟩ := entry
    rw [put]
    split
    · rename_i same
      rw [get?_cons, get?_cons, Key.same_congr same]
      split <;> rfl
    · rename_i differ
      rw [get?_cons, get?_cons, hypothesis]
      split
      · rename_i found
        rw [if_neg]
        exact fun same => differ (Key.same_trans found (Key.same_symm same))
      · rfl

/-- Putting back what is there changes nothing. -/
theorem put_of_get? (found : get? entries key = some value) : put key value entries = entries := by
  induction entries with
  | nil => cases found
  | cons entry rest hypothesis =>
    obtain ⟨first, old⟩ := entry
    rw [get?_cons] at found
    rw [put]
    split at found
    · rename_i same
      rw [if_pos same, ← Option.some.inj found]
    · rename_i differ
      rw [if_neg differ, hypothesis found]

/-- A value under a new key comes last. -/
theorem put_of_get?_eq_none (absent : get? entries key = none) :
    put key value entries = entries ++ [(key, value)] := by
  induction entries with
  | nil => rfl
  | cons entry rest hypothesis =>
    obtain ⟨first, old⟩ := entry
    rw [get?_cons] at absent
    split at absent
    · cases absent
    · rename_i differ
      rw [put, if_neg differ, hypothesis absent, List.cons_append]

/-- Keys keep their places, and a new one comes last. -/
theorem keys_put : keys (put key value entries) =
    if (get? entries key).isNone then keys entries ++ [key] else keys entries := by
  cases found : get? entries key with
  | none => rw [put_of_get?_eq_none found, keys, List.map_append]; rfl
  | some old =>
    rw [Option.isNone_some, if_neg (by simp)]
    induction entries with
    | nil => cases found
    | cons entry rest hypothesis =>
      obtain ⟨first, inside⟩ := entry
      rw [get?_cons] at found
      rw [put]
      split at found
      · rename_i same
        rw [if_pos same]
        rfl
      · rename_i differ
        rw [if_neg differ]
        exact congrArg (first :: ·) (hypothesis found)

end Settings

end Folio
