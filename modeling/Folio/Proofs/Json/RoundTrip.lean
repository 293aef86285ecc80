import Folio.Proofs.Json.Doubles
import Folio.Proofs.Json.Strings

/-!
# Printed values read back

A printed value is read back in front of everything that printing puts behind a value: itself
if there are no doubles in it, and with its doubles read again otherwise. The layout does not
matter: whatever the indentation, only blanks stand between tokens. The fuel of the reader is
measured against the length of what was printed, so a text always brings enough of it.
-/

namespace Folio.Json

/-- Nothing but blanks. -/
def AllBlank (text : List Char) : Prop := ∀ character ∈ text, isBlank character = true

/-- Blanks in front of a text are skipped. -/
theorem skipBlanks_append {blanks : List Char} (blank : AllBlank blanks) (text : List Char) :
    skipBlanks (blanks ++ text) = skipBlanks text := by
  rw [skipBlanks, List.dropWhile_append_of_pos blank, skipBlanks]

/-- No character that is seen is skipped. -/
theorem skipBlanks_cons {first : Char} (shown : isBlank first = false) (text : List Char) :
    skipBlanks (first :: text) = first :: text := by
  simp [skipBlanks, shown]

/-- A line break is blank. -/
theorem lineBreak_blank (indent : Indent) (level : Nat) :
    AllBlank (lineBreak indent level).toList := by
  cases indent with
  | none => simp [lineBreak, AllBlank]
  | some width =>
    intro character member
    simp only [lineBreak, String.toList_append, String.toList_ofList, List.mem_append] at member
    rcases member with feed | spaces
    · obtain rfl : character = '\n' := by simpa using feed
      rfl
    · obtain rfl := List.eq_of_mem_replicate spaces
      rfl

/-- The blanks behind the comma between two items. -/
def gap (indent : Indent) (level : Nat) : List Char :=
  match indent with
  | none => [' ']
  | some _ => (lineBreak indent level).toList

/-- Between two items there are only blanks behind the comma. -/
theorem gap_blank (indent : Indent) (level : Nat) : AllBlank (gap indent level) := by
  cases indent with
  | none => simp [gap, AllBlank, isBlank]
  | some width => exact lineBreak_blank _ _

/-- Items are separated by a comma and a gap. -/
theorem toList_separator (indent : Indent) (level : Nat) :
    (separator indent level).toList = ',' :: gap indent level := by
  cases indent with
  | none => simp [separator, gap]
  | some width =>
    rw [separator, String.toList_append]
    rfl

/-- A value may stand in front of a line break and a closing bracket. -/
theorem endsNumber_lineBreak (indent : Indent) (level : Nat) {closing : Char}
    (bracket : closing = ']' ∨ closing = '\x7d') (rest : List Char) :
    EndsNumber ((lineBreak indent level).toList ++ closing :: rest) := by
  cases indent with
  | none => exact .cons rest (by tauto)
  | some width =>
    rw [lineBreak, String.toList_append]
    exact .cons _ (by tauto)

/-- However deep it stands, the printed value is read back in front of anything that cannot
be taken for a part of it. -/
def ReadsBack (indent : Indent) (value : Json) : Prop :=
  ∀ (level fuel : Nat) (rest : List Char), EndsNumber rest →
    2 * (writeValue indent level value).toList.length ≤ fuel + 1 →
      readValue fuel ((writeValue indent level value).toList ++ rest) = .ok (value.reread, rest)

/-- A container begins with its opening bracket. -/
theorem enclose_begins (opening closing : String) (indent : Indent) (level : Nat)
    (items : List String) :
    ∃ others, (enclose opening closing indent level items).toList = opening.toList ++ others := by
  cases items with
  | nil => exact ⟨_, String.toList_append⟩
  | cons item rest =>
    simp only [enclose, String.toList_append, List.append_assoc]
    exact ⟨_, rfl⟩

/-- What is printed for a value begins with neither a blank, a closing bracket nor a byte order
mark. -/
theorem writeValue_begins (indent : Indent) (level : Nat) (value : Json) :
    ∃ first others, (writeValue indent level value).toList = first :: others ∧
      isBlank first = false ∧ first ≠ ']' ∧ first ≠ '\uFEFF' := by
  cases value with
  | scalar value =>
    rw [writeValue]
    cases value with
    | null => exact ⟨'n', _, rfl, rfl, by decide⟩
    | bool value => cases value <;> exact ⟨_, _, rfl, rfl, by decide⟩
    | int value =>
      obtain ⟨first, others, shown, begins⟩ := toString_begins value
      refine ⟨first, others, shown, ?_⟩
      rcases begins with digit | rfl
      · exact isDigit_visible digit
      · exact ⟨rfl, by decide⟩
    | float value =>
      obtain ⟨first, others, shown, begins, -⟩ := readPlain_float value
      refine ⟨first, others, shown, ?_⟩
      rcases begins with digit | rfl | rfl | rfl
      · exact isDigit_visible digit
      all_goals exact ⟨rfl, by decide⟩
    | text value =>
      rw [scalarText, quoteText, String.append_assoc, String.toList_append]
      exact ⟨'"', _, rfl, rfl, by decide⟩
  | arr items =>
    obtain ⟨others, shown⟩ :=
      enclose_begins "[" "]" indent level (writeItems indent (level + 1) items)
    exact ⟨'[', others, shown, rfl, by decide⟩
  | obj members =>
    obtain ⟨others, shown⟩ :=
      enclose_begins "\x7b" "\x7d" indent level (writeMembers indent (level + 1) members)
    exact ⟨'\x7b', others, shown, rfl, by decide⟩

/-- The characters of items with separators between them. -/
def joined (indent : Indent) (level : Nat) (items : List String) : List Char :=
  ((separator indent level).intercalate items).toList

/-- One item is joined to itself. -/
theorem joined_single (indent : Indent) (level : Nat) (item : String) :
    joined indent level [item] = item.toList := by
  rw [joined, String.intercalate_singleton]

/-- An item is joined to the next ones by a comma and a gap. -/
theorem joined_cons (indent : Indent) (level : Nat) (item next : String) (later : List String) :
    joined indent level (item :: next :: later) =
      item.toList ++ ',' :: (gap indent level ++ joined indent level (next :: later)) := by
  rw [joined, String.intercalate_cons_cons, String.append_assoc, String.toList_append,
    String.toList_append, toList_separator, List.cons_append, joined]

/-- Joined items begin with the first item. -/
theorem joined_begins (indent : Indent) (level : Nat) (item : String) (rest : List String) :
    ∃ others, joined indent level (item :: rest) = item.toList ++ others := by
  cases rest with
  | nil => exact ⟨[], by rw [joined_single, List.append_nil]⟩
  | cons next later => exact ⟨_, joined_cons ..⟩

/-- Blanks in front of joined items are skipped, and nothing else. -/
theorem skipBlanks_joined {blanks : List Char} (blank : AllBlank blanks) (indent : Indent)
    (level : Nat) (item : String) (rest : List String) (behind : List Char)
    (visible : ∃ first others, item.toList = first :: others ∧ isBlank first = false) :
    skipBlanks (blanks ++ (joined indent level (item :: rest) ++ behind)) =
      joined indent level (item :: rest) ++ behind := by
  obtain ⟨first, others, shown, notBlank⟩ := visible
  obtain ⟨tail, begins⟩ := joined_begins indent level item rest
  rw [skipBlanks_append blank, begins, shown]
  exact skipBlanks_cons notBlank _

variable {indent : Indent}

/-- The items of a list are read back up to the closing bracket. -/
theorem readItems_joined (level outer : Nat) (items : List Json) (notEmpty : items ≠ [])
    (each : ∀ item ∈ items, ReadsBack indent item) (fuel : Nat) (rest : List Char)
    (enough : 2 * (joined indent level (writeItems indent level items)).length ≤ fuel) :
    readItems fuel (joined indent level (writeItems indent level items) ++
      ((lineBreak indent outer).toList ++ ']' :: rest)) = .ok (rereadItems items, rest) := by
  induction items generalizing fuel with
  | nil => exact absurd rfl notEmpty
  | cons item others hypothesis =>
    obtain ⟨readsItem, readsOthers⟩ := List.forall_mem_cons.1 each
    obtain ⟨first, tail, shown, -⟩ := writeValue_begins indent level item
    have someText : 0 < (writeValue indent level item).toList.length := by simp [shown]
    cases others with
    | nil =>
      rw [writeItems, writeItems, joined_single] at enough ⊢
      obtain ⟨less, rfl⟩ : ∃ less, fuel = less + 1 := ⟨fuel - 1, by omega⟩
      have ends := endsNumber_lineBreak indent outer (.inl rfl) rest
      rw [readItems, readsItem level less _ ends (by omega)]
      simp only [skipBlanks_append (lineBreak_blank _ _)]
      rfl
    | cons next later =>
      obtain ⟨nextFirst, nextTail, nextShown, visible, -⟩ :=
        writeValue_begins indent level next
      have behind := skipBlanks_joined (gap_blank indent level) indent level
        (writeValue indent level next) (writeItems indent level later)
        ((lineBreak indent outer).toList ++ ']' :: rest) ⟨_, _, nextShown, visible⟩
      rw [writeItems, writeItems, joined_cons, ← writeItems] at enough ⊢
      rw [← writeItems] at behind
      simp only [List.length_append, List.length_cons] at enough
      obtain ⟨less, rfl⟩ : ∃ less, fuel = less + 1 := ⟨fuel - 1, by omega⟩
      have readsLater := hypothesis (by simp) readsOthers less (by omega)
      rw [List.append_assoc, List.cons_append, List.append_assoc, readItems,
        readsItem level less _ (.cons _ (.inl rfl)) (by omega)]
      simp only [skipBlanks_cons (show isBlank ',' = false from rfl)]
      simp only [behind, readsLater, rereadItems]

/-- The characters of one member. -/
theorem toList_member (name text : String) (behind : List Char) :
    (quoteText name ++ ": " ++ text).toList ++ behind =
      '"' :: ((String.join (name.toList.map escapeChar)).toList ++
        '"' :: ':' :: ' ' :: (text.toList ++ behind)) := by
  simp [quoteText]

/-- A member is longer than its value. -/
theorem length_member (name text : String) :
    text.toList.length < (quoteText name ++ ": " ++ text).toList.length := by
  simp [quoteText]
  omega

/-- The members of an object are read back up to the closing brace. -/
theorem readMembers_joined (level outer : Nat) (members : Members) (notEmpty : members ≠ [])
    (each : ∀ member ∈ members, ReadsBack indent member.2) (fuel : Nat) (rest : List Char)
    (enough : 2 * (joined indent level (writeMembers indent level members)).length ≤ fuel) :
    readMembers fuel (joined indent level (writeMembers indent level members) ++
      ((lineBreak indent outer).toList ++ '\x7d' :: rest)) =
        .ok (rereadMembers members, rest) := by
  induction members generalizing fuel with
  | nil => exact absurd rfl notEmpty
  | cons member others hypothesis =>
    obtain ⟨name, value⟩ := member
    obtain ⟨readsValue, readsOthers⟩ := List.forall_mem_cons.1 each
    have longer := length_member name (writeValue indent level value)
    have beforeValue : ∀ behind : List Char,
        skipBlanks (' ' :: ((writeValue indent level value).toList ++ behind)) =
          (writeValue indent level value).toList ++ behind := by
      intro behind
      obtain ⟨first, tail, shown, visible, -⟩ := writeValue_begins indent level value
      rw [shown]
      exact skipBlanks_cons visible _
    cases others with
    | nil =>
      rw [writeMembers, writeMembers, joined_single] at enough ⊢
      obtain ⟨less, rfl⟩ : ∃ less, fuel = less + 1 := ⟨fuel - 1, by omega⟩
      have ends := endsNumber_lineBreak indent outer (.inr rfl) rest
      have readsHere := readsValue level less _ ends (by simp only; omega)
      rw [toList_member, readMembers, readString_escaped]
      simp only [skipBlanks_cons (show isBlank ':' = false from rfl), beforeValue, readsHere,
        skipBlanks_append (lineBreak_blank _ _)]
      rfl
    | cons next later =>
      obtain ⟨nextName, nextValue⟩ := next
      have behind := skipBlanks_joined (gap_blank indent level) indent level
        (quoteText nextName ++ ": " ++ writeValue indent level nextValue)
        (writeMembers indent level later) ((lineBreak indent outer).toList ++ '\x7d' :: rest)
        ⟨'"', _, by rw [← List.append_nil (String.toList _), toList_member], rfl⟩
      rw [writeMembers, writeMembers, joined_cons, ← writeMembers] at enough ⊢
      rw [← writeMembers] at behind
      simp only [List.length_append, List.length_cons] at enough
      obtain ⟨less, rfl⟩ : ∃ less, fuel = less + 1 := ⟨fuel - 1, by omega⟩
      have readsLater := hypothesis (by simp) readsOthers less (by omega)
      have readsHere := readsValue level less
        (',' :: (gap indent level ++ (joined indent level
          (writeMembers indent level ((nextName, nextValue) :: later)) ++
            ((lineBreak indent outer).toList ++ '\x7d' :: rest))))
        (.cons _ (.inl rfl)) (by simp only; omega)
      rw [List.append_assoc, List.cons_append, List.append_assoc, toList_member, readMembers,
        readString_escaped]
      simp only [skipBlanks_cons (show isBlank ':' = false from rfl), beforeValue, readsHere,
        skipBlanks_cons (show isBlank ',' = false from rfl)]
      simp only [behind, readsLater, rereadMembers]

/-- A container is its items in brackets, with line breaks inside of them. -/
theorem toList_enclose (opening closing : String) (level : Nat) (item : String)
    (rest : List String) :
    (enclose opening closing indent level (item :: rest)).toList =
      opening.toList ++ ((lineBreak indent (level + 1)).toList ++
        (joined indent (level + 1) (item :: rest) ++
          ((lineBreak indent level).toList ++ closing.toList))) := by
  simp only [enclose, String.toList_append, List.append_assoc, joined]

/-- What begins with none of the three opening characters is a word or a number. -/
theorem readValue_plain (fuel : Nat) {first : Char} (text : List Char) (noText : first ≠ '"')
    (noList : first ≠ '[') (noObject : first ≠ '\x7b') :
    readValue (fuel + 1) (first :: text) = readPlain (first :: text) := by
  simp [readValue, noText, noList, noObject]

/-- No value is printed as nothing, so one unit of fuel is always there. -/
theorem ReadsBack.of_succ {value : Json}
    (reads : ∀ (level less : Nat) (rest : List Char), EndsNumber rest →
      2 * (writeValue indent level value).toList.length ≤ less + 2 →
        readValue (less + 1) ((writeValue indent level value).toList ++ rest) =
          .ok (value.reread, rest)) : ReadsBack indent value := by
  intro level fuel rest ends enough
  obtain ⟨first, others, shown, -⟩ := writeValue_begins indent level value
  have someText : 0 < (writeValue indent level value).toList.length := by simp [shown]
  obtain ⟨less, rfl⟩ : ∃ less, fuel = less + 1 := ⟨fuel - 1, by omega⟩
  exact reads level less rest ends enough

/-- Scalars are read back. -/
theorem readsBack_scalar (value : Scalar) : ReadsBack indent (.scalar value) := by
  refine .of_succ fun level less rest ends _ => ?_
  rw [writeValue]
  cases value with
  | float value =>
    obtain ⟨first, others, shown, begins, -⟩ := readPlain_float value
    have plain : first ≠ '"' ∧ first ≠ '[' ∧ first ≠ '\x7b' := by
      rcases begins with digit | rfl | rfl | rfl
      · refine ⟨?_, ?_, ?_⟩ <;> (rintro rfl; revert digit; decide)
      all_goals decide
    rw [reread, ← readPlain_reread value ends, shown, List.cons_append,
      readValue_plain less _ plain.1 plain.2.1 plain.2.2]
  | null => rfl
  | bool value => cases value <;> rfl
  | int value =>
    obtain ⟨first, others, shown, begins⟩ := toString_begins value
    have plain : first ≠ '"' ∧ first ≠ '[' ∧ first ≠ '\x7b' := by
      rcases begins with digit | rfl
      · refine ⟨?_, ?_, ?_⟩ <;> (rintro rfl; revert digit; decide)
      · decide
    have kept : reread (.int value) = .int value := rfl
    rw [scalarText, kept, ← readPlain_int ends value, shown, List.cons_append,
      readValue_plain less _ plain.1 plain.2.1 plain.2.2]
  | text value =>
    have quoted : (quoteText value).toList ++ rest =
        '"' :: ((String.join (value.toList.map escapeChar)).toList ++ '"' :: rest) := by
      simp [quoteText]
    rw [scalarText, quoted, readValue, readString_escaped]
    rfl

/-- A list is read from its items, if there are any. -/
theorem readValue_items (fuel : Nat) {text items rest : List Char} {first : Char}
    {values : List Json} (behind : skipBlanks text = first :: items) (someItem : first ≠ ']')
    (found : readItems fuel (first :: items) = .ok (values, rest)) :
    readValue (fuel + 1) ('[' :: text) = .ok (.arr values, rest) := by
  simp [readValue, behind, someItem, found]

/-- An object is read from its members, if there are any. -/
theorem readValue_members (fuel : Nat) {text members rest : List Char} {pairs : Members}
    (behind : skipBlanks text = '"' :: members)
    (found : readMembers fuel ('"' :: members) = .ok (pairs, rest)) :
    readValue (fuel + 1) ('\x7b' :: text) = .ok (.obj (Members.ofPairs pairs), rest) := by
  simp [readValue, behind, found]

/-- A list is read back if its items are. -/
theorem readsBack_arr (items : List Json) (each : ∀ item ∈ items, ReadsBack indent item) :
    ReadsBack indent (.arr items) := by
  refine .of_succ fun level less rest ends enough => ?_
  rw [writeValue] at enough ⊢
  cases items with
  | nil =>
    rw [writeItems, enclose]
    rfl
  | cons item others =>
    obtain ⟨first, tail, shown, visible, someItem, -⟩ :=
      writeValue_begins indent (level + 1) item
    obtain ⟨more, begins⟩ := joined_begins indent (level + 1)
      (writeValue indent (level + 1) item) (writeItems indent (level + 1) others)
    have bracket : "[".toList = ['['] ∧ "]".toList = [']'] := ⟨rfl, rfl⟩
    rw [writeItems, toList_enclose, ← writeItems, bracket.1, bracket.2] at enough ⊢
    simp only [List.length_append, List.length_cons] at enough
    have found := readItems_joined (level + 1) level (item :: others) (by simp) each less rest
      (by omega)
    have behind := skipBlanks_joined (lineBreak_blank indent (level + 1)) indent (level + 1)
      (writeValue indent (level + 1) item) (writeItems indent (level + 1) others)
      ((lineBreak indent level).toList ++ ']' :: rest) ⟨_, _, shown, visible⟩
    simp only [List.append_assoc, List.cons_append, List.nil_append]
    rw [writeItems, begins, shown] at found
    rw [begins, shown] at behind
    rw [writeItems, begins, shown]
    exact readValue_items less behind someItem found

/-- An object is read back if its names differ and its values are read back. -/
theorem readsBack_obj (members : Members) (distinct : (members.map (·.1)).Nodup)
    (each : ∀ member ∈ members, ReadsBack indent member.2) : ReadsBack indent (.obj members) := by
  refine .of_succ fun level less rest ends enough => ?_
  rw [writeValue] at enough ⊢
  cases members with
  | nil =>
    rw [writeMembers, enclose]
    rfl
  | cons member others =>
    obtain ⟨name, value⟩ := member
    obtain ⟨more, begins⟩ := joined_begins indent (level + 1)
      (quoteText name ++ ": " ++ writeValue indent (level + 1) value)
      (writeMembers indent (level + 1) others)
    have brace : "\x7b".toList = ['\x7b'] ∧ "\x7d".toList = ['\x7d'] := ⟨rfl, rfl⟩
    rw [writeMembers, toList_enclose, ← writeMembers, brace.1, brace.2] at enough ⊢
    simp only [List.length_append, List.length_cons] at enough
    have found := readMembers_joined (level + 1) level ((name, value) :: others) (by simp) each
      less rest (by omega)
    have behind := skipBlanks_joined (lineBreak_blank indent (level + 1)) indent (level + 1)
      (quoteText name ++ ": " ++ writeValue indent (level + 1) value)
      (writeMembers indent (level + 1) others) ((lineBreak indent level).toList ++ '\x7d' :: rest)
      ⟨'"', _, by rw [← List.append_nil (String.toList _), toList_member], rfl⟩
    simp only [List.append_assoc, List.cons_append, List.nil_append]
    rw [writeMembers, begins, List.append_assoc, toList_member] at found
    rw [begins, List.append_assoc, toList_member] at behind
    rw [writeMembers, begins, List.append_assoc, toList_member,
      readValue_members less behind found,
      Members.ofPairs_of_nodup _ (by rwa [names_rereadMembers]), reread]

/-- Every value whose objects have distinct names is read back. -/
theorem readsBack (value : Json) (distinct : value.Distinct) : ReadsBack indent value := by
  induction value using Json.induction with
  | scalar value => exact readsBack_scalar value
  | arr items hypothesis =>
    rw [distinct_arr] at distinct
    exact readsBack_arr items fun item member => hypothesis item member (distinct item member)
  | obj members hypothesis =>
    rw [distinct_obj] at distinct
    exact readsBack_obj members distinct.1 fun member inside =>
      hypothesis member inside (distinct.2 member inside)

/-- A printed value with blanks behind it is parsed to that value with its doubles read again. -/
theorem parse_render_reread (value : Json) (indent : Indent) (distinct : value.Distinct)
    (after : String) (blank : AllBlank after.toList) (ends : EndsNumber after.toList) :
    parse (value.render indent ++ after) = .ok value.reread := by
  obtain ⟨first, others, shown, visible, -, noMark⟩ := writeValue_begins indent 0 value
  have text : (value.render indent ++ after).toList = first :: (others ++ after.toList) := by
    rw [render, String.toList_append, shown, List.cons_append]
  have enough : 2 * (writeValue indent 0 value).toList.length ≤
      enoughFuel (value.render indent ++ after).toList + 1 := by
    simp only [enoughFuel, text, shown, List.length_cons, List.length_append]
    omega
  have found := readsBack value distinct 0 _ after.toList ends enough
  have closed : skipBlanks after.toList = [] := by
    have skipped := skipBlanks_append blank []
    rwa [List.append_nil] at skipped
  rw [shown, List.cons_append, text] at found
  rw [parse, text, readText, skipBlanks_cons visible, found]
  · simp only [closed]
    rfl
  · exact fun tail equal => noMark (List.cons.inj equal).1

/-- A printed value without doubles, with blanks behind it, is parsed to that value. -/
theorem parse_render_append (value : Json) (indent : Indent) (exact : value.Exact)
    (distinct : value.Distinct) (after : String) (blank : AllBlank after.toList)
    (ends : EndsNumber after.toList) : parse (value.render indent ++ after) = .ok value := by
  rw [parse_render_reread value indent distinct after blank ends, reread_of_exact exact]

/-- A printed value without doubles is what its text is parsed to, whatever the indentation. -/
theorem parse_render (value : Json) (indent : Indent) (exact : value.Exact)
    (distinct : value.Distinct) : parse (value.render indent) = .ok value := by
  have plain := parse_render_append value indent exact distinct "" (by simp [AllBlank]) .nil
  rwa [String.append_empty] at plain

end Folio.Json
