import Folio.Json.Parser
import Folio.Proofs.Json.Exact

/-!
# Parsed values repeat no name

A reader keeps one member for every name, so no object in a parsed value has two members of
one name, at whatever depth.
-/

namespace Folio.Json

namespace Members

/-- A member is the one that was put in, or was there before. -/
theorem mem_put {name : String} {value : Json} {members : Members} {member : String × Json}
    (inside : member ∈ put name value members) : member = (name, value) ∨ member ∈ members := by
  induction members with
  | nil => exact .inl (List.mem_singleton.1 inside)
  | cons first rest hypothesis =>
    rw [put] at inside
    split at inside
    · rcases List.mem_cons.1 inside with rfl | later
      · exact .inl rfl
      · exact .inr (List.mem_cons_of_mem _ later)
    · rcases List.mem_cons.1 inside with rfl | later
      · exact .inr (List.mem_cons_self ..)
      · exact (hypothesis later).imp_right (List.mem_cons_of_mem _)

/-- Putting a member in keeps names distinct. -/
theorem nodup_put (name : String) (value : Json) {members : Members}
    (distinct : (members.map (·.1)).Nodup) : ((put name value members).map (·.1)).Nodup := by
  induction members with
  | nil => simp [put]
  | cons first rest hypothesis =>
    obtain ⟨other, old⟩ := first
    rw [List.map_cons, List.nodup_cons] at distinct
    rw [put]
    split
    · rename_i same
      obtain rfl : other = name := by simpa using same
      exact List.nodup_cons.2 distinct
    · rename_i differs
      refine List.nodup_cons.2 ⟨fun repeated => ?_, hypothesis distinct.2⟩
      obtain ⟨member, inside, sameName⟩ := List.mem_map.1 repeated
      rcases mem_put inside with rfl | old
      · exact differs (by simpa using sameName.symm)
      · exact distinct.1 (List.mem_map.2 ⟨member, old, sameName⟩)

/-- Every name is kept once, with values that were given. -/
theorem ofPairs_spec (pairs : List (String × Json)) :
    ((ofPairs pairs).map (·.1)).Nodup ∧ ∀ member ∈ ofPairs pairs, member ∈ pairs := by
  suffices general : ∀ (rest : List (String × Json)) (before : Members),
      (before.map (·.1)).Nodup → rest ⊆ pairs → before ⊆ pairs →
        ((rest.foldl (fun members pair => put pair.1 pair.2 members) before).map (·.1)).Nodup ∧
          ∀ member ∈ rest.foldl (fun members pair => put pair.1 pair.2 members) before,
            member ∈ pairs from
    general pairs [] List.nodup_nil (List.Subset.refl pairs) (List.nil_subset pairs)
  intro rest
  induction rest with
  | nil => exact fun before distinct _ given => ⟨distinct, fun member inside => given inside⟩
  | cons pair rest hypothesis =>
    intro before distinct inPairs given
    obtain ⟨first, others⟩ := List.cons_subset.1 inPairs
    refine hypothesis _ (nodup_put pair.1 pair.2 distinct) others fun member inside => ?_
    rcases mem_put inside with rfl | old
    · exact first
    · exact given old

end Members

/-- What the readers yield with some fuel repeats no name. -/
structure ReadsDistinct (fuel : Nat) : Prop where
  value : ∀ {text rest value}, readValue fuel text = .ok (value, rest) → value.Distinct
  items : ∀ {text rest items}, readItems fuel text = .ok (items, rest) →
    ∀ item ∈ items, item.Distinct
  members : ∀ {text rest members}, readMembers fuel text = .ok (members, rest) →
    ∀ member ∈ members, member.2.Distinct

/-- Numbers are scalars. -/
theorem readUnsigned_scalar {negative : Bool} {text rest : List Char} {value : Json}
    (found : readUnsigned negative text = some (value, rest)) :
    ∃ number, value = .scalar number := by
  obtain ⟨⟨whole, behind⟩, -, read⟩ := Option.bind_eq_some_iff.1 found
  dsimp only at read
  split at read
  · exact ⟨_, (Prod.mk.inj (Option.some.inj read)).1.symm⟩
  · exact ⟨_, (Prod.mk.inj (Option.some.inj read)).1.symm⟩

/-- Words and numbers are scalars. -/
theorem readPlain_scalar {text rest : List Char} {value : Json}
    (found : readPlain text = .ok (value, rest)) : ∃ plain, value = .scalar plain := by
  rw [readPlain.eq_def] at found
  split at found
  case h_7 =>
    obtain ⟨negative, digits, number⟩ : ∃ negative digits,
        readUnsigned negative digits = some (value, rest) := by
      split at found <;> dsimp only at found <;> split at found
      · rename_i number
        exact ⟨_, _, number.trans (congrArg some (Except.ok.inj found))⟩
      · cases found
      · rename_i number
        exact ⟨_, _, number.trans (congrArg some (Except.ok.inj found))⟩
      · cases found
    exact readUnsigned_scalar number
  all_goals exact ⟨_, (Prod.mk.inj (Except.ok.inj found)).1.symm⟩

namespace ReadsDistinct

variable {fuel : Nat} {text rest : List Char} (reads : ReadsDistinct fuel)

include reads

/-- A value repeats no name if what stands inside it repeats none. -/
theorem value_succ {value : Json} (found : readValue (fuel + 1) text = .ok (value, rest)) :
    value.Distinct := by
  rw [readValue.eq_def] at found
  dsimp only at found
  split at found
  · split at found
    · obtain ⟨rfl, -⟩ := Prod.mk.inj (Except.ok.inj found)
      rfl
    · cases found
  · split at found
    · obtain ⟨rfl, -⟩ := Prod.mk.inj (Except.ok.inj found)
      rfl
    · split at found
      · rename_i items
        obtain ⟨rfl, -⟩ := Prod.mk.inj (Except.ok.inj found)
        exact distinct_arr.2 (reads.items items)
      · cases found
  · split at found
    · obtain ⟨rfl, -⟩ := Prod.mk.inj (Except.ok.inj found)
      rfl
    · split at found
      · rename_i members
        obtain ⟨rfl, -⟩ := Prod.mk.inj (Except.ok.inj found)
        obtain ⟨names, given⟩ := Members.ofPairs_spec _
        exact distinct_obj.2 ⟨names, fun member inside =>
          reads.members members member (given member inside)⟩
      · cases found
  · obtain ⟨plain, rfl⟩ := readPlain_scalar found
    rfl

/-- Items repeat no name if each of them repeats none. -/
theorem items_succ {items : List Json} (found : readItems (fuel + 1) text = .ok (items, rest)) :
    ∀ item ∈ items, item.Distinct := by
  rw [readItems] at found
  split at found
  · cases found
  · rename_i first
    split at found
    · obtain ⟨rfl, -⟩ := Prod.mk.inj (Except.ok.inj found)
      exact List.forall_mem_singleton.2 (reads.value first)
    · split at found
      · rename_i others
        obtain ⟨rfl, -⟩ := Prod.mk.inj (Except.ok.inj found)
        exact List.forall_mem_cons.2 ⟨reads.value first, reads.items others⟩
      · cases found
    · cases found

/-- The values of members repeat no name if each of them repeats none. -/
theorem members_succ {members : Members}
    (found : readMembers (fuel + 1) text = .ok (members, rest)) :
    ∀ member ∈ members, member.2.Distinct := by
  rw [readMembers.eq_def] at found
  dsimp only at found
  split at found
  · split at found
    · cases found
    · split at found
      · split at found
        · cases found
        · rename_i value _ _ read
          have first := reads.value read
          split at found
          · obtain ⟨rfl, -⟩ := Prod.mk.inj (Except.ok.inj found)
            exact List.forall_mem_singleton.2 first
          · split at found
            · rename_i others
              obtain ⟨rfl, -⟩ := Prod.mk.inj (Except.ok.inj found)
              exact List.forall_mem_cons.2 ⟨first, reads.members others⟩
            · cases found
          · cases found
      · cases found
  · cases found

end ReadsDistinct

/-- Whatever the fuel, the readers yield nothing that repeats a name. -/
theorem readsDistinct (fuel : Nat) : ReadsDistinct fuel := by
  induction fuel with
  | zero => exact ⟨by simp [readValue], by simp [readItems], by simp [readMembers]⟩
  | succ fuel hypothesis =>
    exact ⟨hypothesis.value_succ, hypothesis.items_succ, hypothesis.members_succ⟩

/-- No object in a parsed value has two members of one name. -/
theorem parse_distinct {text : String} {value : Json} (parsed : parse text = .ok value) :
    value.Distinct := by
  rw [parse] at parsed
  cases read : readText text.toList with
  | error stop =>
    rw [read] at parsed
    cases parsed
  | ok other =>
    rw [read] at parsed
    obtain rfl : other = value := Except.ok.inj parsed
    rw [readText.eq_def] at read
    split at read
    · cases read
    · split at read
      · cases read
      · rename_i found
        split at read
        · obtain rfl := Except.ok.inj read
          exact (readsDistinct _).value found
        · cases read

end Folio.Json
