import Folio.Json
import Mathlib.Data.List.Nodup

/-!
# Values that texts keep

A text keeps a JSON value if nothing in it is a double and the members of every object have
names of their own. Objects that are read always have: `Members.ofPairs` keeps every name
once, and changes nothing where all names differ.
-/

namespace Folio.Json

/-- A property of all values holds if it passes from the items of a list and the members of
an object to the container, and holds of scalars. -/
theorem induction {motive : Json → Prop}
    (scalar : ∀ value, motive (.scalar value))
    (arr : ∀ items, (∀ item ∈ items, motive item) → motive (.arr items))
    (obj : ∀ members : Members, (∀ member ∈ members, motive member.2) → motive (.obj members))
    (value : Json) : motive value := by
  refine Json.rec (motive_1 := motive)
    (motive_2 := fun items => ∀ item ∈ items, motive item)
    (motive_3 := fun members => ∀ member ∈ members, motive member.2)
    (motive_4 := fun member => motive member.2) ?_ ?_ ?_ ?_ ?_ ?_ ?_ ?_ value
  · exact scalar
  · exact arr
  · exact obj
  · simp
  · exact fun item items first others => List.forall_mem_cons.2 ⟨first, others⟩
  · simp
  · exact fun member members first others => List.forall_mem_cons.2 ⟨first, others⟩
  · exact fun name value holds => holds

mutual

/-- The value and everything inside it pass the test. -/
def all (test : Json → Bool) : Json → Bool
  | .scalar value => test (.scalar value)
  | .arr items => test (.arr items) && allItems test items
  | .obj members => test (.obj members) && allMembers test members

/-- All items pass the test, with everything inside them. -/
def allItems (test : Json → Bool) : List Json → Bool
  | [] => true
  | item :: rest => all test item && allItems test rest

/-- The values of all members pass the test, with everything inside them. -/
def allMembers (test : Json → Bool) : List (String × Json) → Bool
  | [] => true
  | (_, value) :: rest => all test value && allMembers test rest

end

/-- A test is passed by all items if each passes it. -/
theorem allItems_iff {test : Json → Bool} {items : List Json} :
    allItems test items = true ↔ ∀ item ∈ items, item.all test = true := by
  induction items with
  | nil => simp [allItems]
  | cons item rest hypothesis => simp [allItems, hypothesis]

/-- A test is passed by all members if each value passes it. -/
theorem allMembers_iff {test : Json → Bool} {members : Members} :
    allMembers test members = true ↔ ∀ member ∈ members, member.2.all test = true := by
  induction members with
  | nil => simp [allMembers]
  | cons member rest hypothesis => simp [allMembers, hypothesis]

/-- The value is no double. -/
def isExact : Json → Bool
  | .float _ => false
  | _ => true

/-- No two members of the value have one name. -/
def hasOwnNames : Json → Bool
  | .obj members => decide (members.map (·.1)).Nodup
  | _ => true

/-- Nothing in the value is a double. -/
def Exact (value : Json) : Prop := value.all isExact = true

/-- In every object of the value the names differ. -/
def Distinct (value : Json) : Prop := value.all hasOwnNames = true

instance (value : Json) : Decidable value.Exact := inferInstanceAs (Decidable (_ = true))

instance (value : Json) : Decidable value.Distinct := inferInstanceAs (Decidable (_ = true))

/-- A value without doubles is none. -/
theorem Exact.isExact {value : Json} (exact : value.Exact) : value.isExact = true := by
  cases value with
  | scalar value => exact exact
  | arr items => rfl
  | obj members => rfl

/-- A list holds no doubles if its items do not. -/
theorem exact_arr {items : List Json} :
    Exact (.arr items) ↔ ∀ item ∈ items, item.Exact := by
  simp [Exact, all, isExact, allItems_iff]

/-- An object holds no doubles if its values do not. -/
theorem exact_obj {members : Members} :
    Exact (.obj members) ↔ ∀ member ∈ members, member.2.Exact := by
  simp [Exact, all, isExact, allMembers_iff]

/-- Names in a list differ if they do in each item. -/
theorem distinct_arr {items : List Json} :
    Distinct (.arr items) ↔ ∀ item ∈ items, item.Distinct := by
  simp [Distinct, all, hasOwnNames, allItems_iff]

/-- Names in an object differ if its own do and those in each value do. -/
theorem distinct_obj {members : Members} :
    Distinct (.obj members) ↔
      (members.map (·.1)).Nodup ∧ ∀ member ∈ members, member.2.Distinct := by
  simp [Distinct, all, hasOwnNames, allMembers_iff]

namespace Members

/-- A name that is new goes to the end. -/
theorem put_new (name : String) (value : Json) (members : Members)
    (new : name ∉ members.map (·.1)) : put name value members = members ++ [(name, value)] := by
  induction members with
  | nil => rfl
  | cons member rest hypothesis =>
    obtain ⟨differs, later⟩ : name ≠ member.1 ∧ name ∉ rest.map (·.1) := by simpa using new
    rw [put, if_neg (by simpa using differs.symm), hypothesis later, List.cons_append]

/-- Names that differ are all kept. -/
theorem ofPairs_of_nodup (pairs : Members) (distinct : (pairs.map (·.1)).Nodup) :
    ofPairs pairs = pairs := by
  suffices general : ∀ before : Members, ((before ++ pairs).map (·.1)).Nodup →
      pairs.foldl (fun members pair => put pair.1 pair.2 members) before = before ++ pairs from
    general [] distinct
  clear distinct
  induction pairs with
  | nil => simp
  | cons pair rest hypothesis =>
    intro before distinct
    have shifted : before ++ pair :: rest = (before ++ [pair]) ++ rest := by simp
    have new : pair.1 ∉ before.map (·.1) := by
      rw [List.map_append, List.nodup_append'] at distinct
      exact fun member => distinct.2.2 member (by simp)
    rw [shifted] at distinct ⊢
    rw [List.foldl_cons, put_new _ _ _ new]
    exact hypothesis _ distinct

end Members

end Folio.Json
