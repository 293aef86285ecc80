import Folio.Signature
import Mathlib.Data.List.Nodup

/-!
# Binding arguments

Names that differ and are all taken are bound to their values; and where a signature takes no
other names, what is bound is what was given, in the same order. Binding looks at names only, so
it does the same to any other values in the same places.
-/

namespace Folio

/-- A step that went well had a first part that went well. -/
theorem bind_eq_ok {ε α β : Type} {first : Except ε α} {next : α → Except ε β} {result : β} :
    first >>= next = .ok result ↔ ∃ value, first = .ok value ∧ next value = .ok result := by
  cases first with
  | error cause => simp [bind, Except.bind]
  | ok value => simp [bind, Except.bind]

/-- A parameter has an argument if its name is among those bound. -/
theorem Bound.isSome_get? {α : Type} (bound : Bound α) (name : String) :
    (bound.get? name).isSome = true ↔ name ∈ bound.values.map (·.1) := by
  rw [Bound.get?, Option.isSome_map, List.find?_isSome, List.mem_map]
  simp only [beq_iff_eq]

/-- What is bound, with every value changed. -/
def Bound.map {α β : Type} (change : α → β) (bound : Bound α) : Bound β where
  values := bound.values.map (Prod.map id change)
  rest := bound.rest.map change
  others := bound.others.map (Prod.map id change)

@[simp] theorem Bound.rest_map {α β : Type} (change : α → β) (bound : Bound α) :
    (bound.map change).rest = bound.rest.map change := rfl

@[simp] theorem Bound.get?_map {α β : Type} (change : α → β) (bound : Bound α) (name : String) :
    (bound.map change).get? name = (bound.get? name).map change := by
  rw [Bound.get?, Bound.get?, Bound.map, List.find?_map, Option.map_map, Option.map_map]
  rfl

namespace Signature

/-- Names that differ, and are all taken, are bound to their values. -/
theorem bindNames_eq {α : Type} (signature : Signature) (named : List (String × α))
    (bound : Bound α) (distinct : ((bound.values ++ named).map (·.1)).Nodup)
    (known : ∀ entry ∈ named, entry.1 ∈ signature.positional) :
    signature.bindNames bound named = .ok { bound with values := bound.values ++ named } := by
  induction named generalizing bound with
  | nil => simp [bindNames]
  | cons entry rest hypothesis =>
    obtain ⟨name, value⟩ := entry
    obtain ⟨first, others⟩ := List.forall_mem_cons.1 known
    have new : ¬ (bound.get? name).isSome = true := by
      rw [Bound.isSome_get?]
      rw [List.map_append, List.nodup_append'] at distinct
      exact fun member => distinct.2.2 member (by simp)
    have taken : (signature.positional ++ signature.namedOnly).contains name = true := by
      simpa using .inl first
    have shifted : bound.values ++ (name, value) :: rest =
        (bound.values ++ [(name, value)]) ++ rest := by simp
    rw [shifted] at distinct
    rw [bindNames, if_pos taken, if_neg new, hypothesis _ distinct others, shifted]

/-- Where no other names are taken, names are bound in the order in which they were given. -/
theorem values_of_bindNames {α : Type} {signature : Signature} (closed : signature.others = false)
    {named : List (String × α)} {bound result : Bound α}
    (bind : signature.bindNames bound named = .ok result) :
    result.values = bound.values ++ named := by
  induction named generalizing bound with
  | nil =>
    obtain rfl := Except.ok.inj bind
    exact (List.append_nil _).symm
  | cons entry rest hypothesis =>
    obtain ⟨name, value⟩ := entry
    rw [bindNames] at bind
    split at bind
    · split at bind
      · cases bind
      · rw [hypothesis bind, List.append_assoc, List.singleton_append]
    · rw [if_neg (by simp [closed])] at bind
      cases bind

/-- Where no other names are taken and nothing is given by position, what is bound is what was
given. -/
theorem values_of_bind {α : Type} {signature : Signature} (closed : signature.others = false)
    {named : List (String × α)} {result : Bound α}
    (bind : signature.bind [] named = .ok result) : result.values = named := by
  obtain ⟨bound, names, rest⟩ := bind_eq_ok.1 bind
  have values := values_of_bindNames closed names
  rw [List.zip_nil_right, List.nil_append] at values
  dsimp only at rest
  split at rest
  · cases rest
  · split at rest
    · obtain rfl := Except.ok.inj rest
      exact values
    · cases rest

/-- Nothing that is required is missing among what is bound. -/
theorem required_of_bind {α : Type} {signature : Signature} {arguments : List α}
    {named : List (String × α)} {result : Bound α}
    (bind : signature.bind arguments named = .ok result) :
    signature.required ⊆ result.values.map (·.1) := by
  obtain ⟨bound, -, rest⟩ := bind_eq_ok.1 bind
  dsimp only at rest
  split at rest
  · cases rest
  · split at rest
    · rename_i none
      obtain rfl := Except.ok.inj rest
      intro name required
      have given := List.filter_eq_nil_iff.1 (List.isEmpty_iff.1 none) name required
      rw [← Bound.isSome_get?]
      simpa [Option.isSome_iff_ne_none] using given
    · cases rest

section Changed

variable {α β : Type} (signature : Signature) (change : α → β)

/-- Values can be changed before they are bound to names, or after it. -/
theorem bindNames_map (named : List (String × α)) (bound : Bound α) :
    signature.bindNames (bound.map change) (named.map (Prod.map id change)) =
      (signature.bindNames bound named).map (Bound.map change) := by
  induction named generalizing bound with
  | nil => rfl
  | cons entry rest hypothesis =>
    obtain ⟨name, value⟩ := entry
    have values := hypothesis { bound with values := bound.values ++ [(name, value)] }
    have others := hypothesis { bound with others := bound.others ++ [(name, value)] }
    simp only [Bound.map, List.map_append, List.map_cons, List.map_nil, Prod.map_apply,
      id_eq] at values others
    rw [List.map_cons, Prod.map_apply, id_eq, bindNames, bindNames, Bound.get?_map,
      Option.isSome_map]
    split
    · split
      · rfl
      · exact values
    · split
      · exact others
      · rfl

/-- Changed arguments are bound as the arguments are. -/
theorem bind_map (arguments : List α) (named : List (String × α)) :
    signature.bind (arguments.map change) (named.map (Prod.map id change)) =
      (signature.bind arguments named).map (Bound.map change) := by
  have start : (Bound.mk (signature.positional.zip (arguments.map change))
      ((arguments.map change).drop signature.positional.length) []) =
      (Bound.mk (signature.positional.zip arguments)
        (arguments.drop signature.positional.length) []).map change := by
    rw [Bound.map, List.zip_map_right, List.map_drop]
    rfl
  rw [bind, bind, start, bindNames_map, List.length_map]
  cases signature.bindNames _ named with
  | error cause => rfl
  | ok bound =>
    have filled : (bound.map change).values.countP
        (fun entry => signature.namedOnly.contains entry.1) =
        bound.values.countP fun entry => signature.namedOnly.contains entry.1 := by
      rw [Bound.map, List.countP_map]
      rfl
    have missing : (signature.required.filter fun name =>
        ((bound.map change).get? name).isNone) =
        signature.required.filter fun name => (bound.get? name).isNone := by
      simp only [Bound.get?_map, Option.isNone_map]
    dsimp only [Except.map, Bind.bind, Except.bind]
    rw [filled, missing]
    split
    · rfl
    · split <;> rfl

end Changed

end Signature

end Folio
