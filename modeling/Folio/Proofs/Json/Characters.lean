import Folio.Proofs.Json.Doubles
import Folio.Proofs.Json.Strings

/-!
# The characters of printed values

What is printed for a value are characters of the texts in it and plain characters: the line feed
and what can be seen of ASCII. Control characters of a text are escaped, so whether they are among
those that are allowed makes no difference. It follows that a carriage return is never printed, and
that a printed value means the same to a reader that unifies line ends.
-/

namespace Folio.Text

/-- The line feed, the blank and what can be seen of ASCII. -/
def isPlain (character : Char) : Bool :=
  character == '\n' || (0x20 ≤ character.toNat && character.toNat < 0x7F)

/-- The character is one of ASCII. -/
def isAscii (character : Char) : Bool := character.toNat < 0x80

/-- What is plain is ASCII. -/
theorem isAscii_of_isPlain {character : Char} (plain : isPlain character = true) :
    isAscii character = true := by
  simp only [isPlain, Bool.or_eq_true, beq_iff_eq, Bool.and_eq_true, decide_eq_true_eq] at plain
  rw [isAscii, decide_eq_true_eq]
  obtain rfl | ⟨_, small⟩ := plain
  · decide
  · omega

/-- All characters of a text are allowed. -/
def Consists (allowed : Char → Bool) (text : String) : Prop :=
  ∀ character ∈ text.toList, allowed character = true

instance (allowed : Char → Bool) (text : String) : Decidable (Consists allowed text) :=
  List.decidableBAll _ text.toList

section Consists

variable {allowed : Char → Bool} {first second : String}

/-- A text consists of allowed characters if more are allowed. -/
theorem Consists.mono {more : Char → Bool}
    (still : ∀ character, allowed character = true → more character = true)
    (consists : Consists allowed first) : Consists more first :=
  fun character member => still character (consists character member)

theorem consists_empty : Consists allowed "" :=
  fun character member => by simp at member

/-- A joined text consists of allowed characters if both parts do. -/
theorem consists_append :
    Consists allowed (first ++ second) ↔ Consists allowed first ∧ Consists allowed second := by
  rw [Consists, String.toList_append]
  exact List.forall_mem_append

theorem consists_ofList {characters : List Char} :
    Consists allowed (String.ofList characters) ↔
      ∀ character ∈ characters, allowed character = true := by
  rw [Consists, String.toList_ofList]

/-- Texts of allowed characters are joined to one. -/
theorem consists_join {texts : List String} (each : ∀ text ∈ texts, Consists allowed text) :
    Consists allowed (String.join texts) := by
  induction texts with
  | nil => exact consists_empty
  | cons text rest hypothesis =>
    obtain ⟨here, later⟩ := List.forall_mem_cons.1 each
    rw [String.join_cons]
    exact consists_append.2 ⟨here, hypothesis later⟩

/-- So they are with such a text between them. -/
theorem consists_intercalate {between : String} (separates : Consists allowed between)
    {texts : List String} (each : ∀ text ∈ texts, Consists allowed text) :
    Consists allowed (between.intercalate texts) := by
  induction texts with
  | nil => exact consists_empty
  | cons text rest hypothesis =>
    obtain ⟨here, later⟩ := List.forall_mem_cons.1 each
    cases rest with
    | nil => rwa [String.intercalate_singleton]
    | cons next others =>
      rw [String.intercalate_cons_cons]
      exact consists_append.2 ⟨consists_append.2 ⟨here, separates⟩, hypothesis later⟩

end Consists

end Folio.Text

namespace Folio.Json

open Text (Consists isPlain consists_append consists_ofList)

/-- Digits are plain. -/
theorem isPlain_of_isDigit {digit : Char} (isDigit : Json.isDigit digit = true) :
    isPlain digit = true := by
  simp only [Json.isDigit, Bool.and_eq_true, decide_eq_true_eq] at isDigit
  have least : (48 : Nat) ≤ digit.toNat := isDigit.1
  have most : digit.toNat ≤ (57 : Nat) := isDigit.2
  simp only [isPlain, Bool.or_eq_true, Bool.and_eq_true, decide_eq_true_eq]
  omega

/-- So are lists of digits. -/
theorem AllDigits.isPlain {digits : List Char} (all : AllDigits digits) :
    ∀ digit ∈ digits, isPlain digit = true :=
  fun digit member => isPlain_of_isDigit (all digit member)

/-- Whole numbers are written with digits and a sign. -/
theorem consists_int (number : Int) : Consists isPlain (toString number) := by
  cases number with
  | ofNat count =>
    rw [Consists, toString_ofNat]
    exact (allDigits_toDigits count).isPlain
  | negSucc count =>
    rw [Consists, toString_negSucc]
    exact List.forall_mem_cons.2 ⟨by decide, (allDigits_toDigits (count + 1)).isPlain⟩

/-- So is what stands in front of the point of a double, and behind it. -/
theorem IsWhole.isPlain {whole : List Char} (isWhole : IsWhole whole) :
    ∀ character ∈ whole, isPlain character = true := by
  cases isWhole with
  | zero => exact List.forall_mem_singleton.2 (by decide)
  | digits _ all => exact all.isPlain

/-- What stands behind the point of a double is plain, too. -/
theorem IsTail.isPlain {tail : List Char} (isTail : IsTail tail) :
    ∀ character ∈ tail, isPlain character = true := by
  induction isTail with
  | fraction _ all => exact List.forall_mem_cons.2 ⟨by decide, all.isPlain⟩
  | exponent signed _ all =>
    refine List.forall_mem_cons.2 ⟨by decide, List.forall_mem_cons.2 ⟨?_, all.isPlain⟩⟩
    rcases signed with rfl | rfl <;> decide
  | both _ all _ hypothesis =>
    exact List.forall_mem_cons.2 ⟨by decide, List.forall_mem_append.2 ⟨all.isPlain, hypothesis⟩⟩

/-- Doubles are written with plain characters, if infinity and the double that is no number are. -/
theorem consists_float (value : Float) {infinite notANumber : String}
    (plainInfinite : Consists isPlain infinite) (plainNaN : Consists isPlain notANumber) :
    Consists isPlain (Decimal.text value infinite notANumber) := by
  have size : Consists isPlain (Decimal.Binary.ofBits value.toBits).shortest.text := by
    obtain ⟨whole, tail, shown, isWhole, isTail⟩ :=
      text_eq (Decimal.Binary.ofBits value.toBits).shortest
    rw [Consists, shown]
    exact List.forall_mem_append.2 ⟨isWhole.isPlain, isTail.isPlain⟩
  rw [Decimal.text]
  dsimp only
  split
  · exact plainNaN
  · refine consists_append.2 ⟨?_, ?_⟩
    · split <;> decide
    · split
      · exact plainInfinite
      · exact size

/-- The texts of a value consist of control characters, which are escaped, and of characters that
are allowed. -/
def isSpelled (allowed : Char → Bool) : Json → Bool
  | .str text => text.toList.all fun character => character.toNat < 0x20 || allowed character
  | .obj members =>
    members.all fun member =>
      member.1.toList.all fun character => character.toNat < 0x20 || allowed character
  | _ => true

/-- All texts in a value do so, and all names. -/
def Spelled (allowed : Char → Bool) (value : Json) : Prop := value.all (isSpelled allowed) = true

instance (allowed : Char → Bool) : DecidablePred (Spelled allowed) :=
  fun value => inferInstanceAs (Decidable (value.all (isSpelled allowed) = true))

section Printed

variable {allowed : Char → Bool}

/-- A text of allowed characters is spelled in them. -/
theorem isSpelled_str {text : String} (consists : Consists allowed text) :
    isSpelled allowed (.str text) = true := by
  simpa [isSpelled] using fun character member => Or.inr (consists character member)

/-- So is an object that has such texts for names. -/
theorem isSpelled_obj {members : Members}
    (consists : ∀ member ∈ members, Consists allowed member.1) :
    isSpelled allowed (.obj members) = true := by
  rw [isSpelled, List.all_eq_true]
  intro member inside
  simpa using fun character isIn => Or.inr (consists member inside character isIn)

/-- If ASCII is allowed, a text is spelled in the characters that it consists of. -/
theorem spelled_str_iff
    (ascii : ∀ character, Text.isAscii character = true → allowed character = true)
    {text : String} : (Json.str text).Spelled allowed ↔ Consists allowed text := by
  constructor
  · intro spelled character member
    have spelled : ∀ character ∈ text.toList,
        character.toNat < 0x20 ∨ allowed character = true := by
      simpa [Spelled, all, isSpelled] using spelled
    rcases spelled character member with control | isAllowed
    · exact ascii character (decide_eq_true (by omega))
    · exact isAllowed
  · intro consists
    rw [Spelled, all]
    exact isSpelled_str consists

/-- A list is spelled as its items are. -/
theorem spelled_arr {items : List Json} :
    Spelled allowed (.arr items) ↔ ∀ item ∈ items, item.Spelled allowed := by
  simp [Spelled, all, isSpelled, allItems_iff]

/-- An object is spelled as its names and values are. -/
theorem spelled_obj {members : Members} : Spelled allowed (.obj members) ↔
    (∀ member ∈ members, ∀ character ∈ member.1.toList,
      character.toNat < 0x20 ∨ allowed character = true) ∧
    ∀ member ∈ members, member.2.Spelled allowed := by
  simp [Spelled, all, isSpelled, allMembers_iff]

variable (plain : ∀ character, isPlain character = true → allowed character = true)

include plain

/-- A character is printed as itself or in plain characters. -/
theorem consists_escapeChar {character : Char}
    (spelled : character.toNat < 0x20 ∨ allowed character = true) :
    Consists allowed (escapeChar character) := by
  have literal {text : String} (isPlain : Consists isPlain text) : Consists allowed text :=
    isPlain.mono plain
  unfold escapeChar
  split_ifs with quote escape feed carriage tab backspace formFeed control
  · exact literal (by decide)
  · exact literal (by decide)
  · exact literal (by decide)
  · exact literal (by decide)
  · exact literal (by decide)
  · exact literal (by decide)
  · exact literal (by decide)
  · refine literal (consists_append.2 ⟨by decide, ?_⟩)
    have digit : ∀ value < 16, isPlain (Nat.digitChar value) = true := by decide
    have zero : isPlain '0' = true := digit 0 (by decide)
    rw [Consists, hexText_control _ control]
    simp [zero, digit (character.toNat / 16) (by omega), digit (character.toNat % 16) (by omega)]
  · intro other member
    obtain rfl : other = character := by simpa using member
    exact spelled.resolve_left control

/-- A text is printed in plain characters and its own. -/
theorem consists_quoteText {text : String}
    (spelled : ∀ character ∈ text.toList, character.toNat < 0x20 ∨ allowed character = true) :
    Consists allowed (quoteText text) := by
  have quote : Consists allowed "\"" := Consists.mono plain (by decide)
  have inside : Consists allowed (String.join (text.toList.map escapeChar)) := by
    refine Text.consists_join fun escaped member => ?_
    obtain ⟨character, isIn, rfl⟩ := List.mem_map.1 member
    exact consists_escapeChar plain (spelled character isIn)
  exact consists_append.2 ⟨consists_append.2 ⟨quote, inside⟩, quote⟩

/-- So is a scalar. -/
theorem consists_scalarText {value : Scalar} (spelled : Spelled allowed (.scalar value)) :
    Consists allowed (scalarText value) := by
  cases value with
  | null => exact Consists.mono plain (by decide)
  | bool value => cases value <;> exact Consists.mono plain (by decide)
  | int value => exact (consists_int value).mono plain
  | float value => exact (consists_float value (by decide) (by decide)).mono plain
  | text value =>
    refine consists_quoteText plain ?_
    simpa [Spelled, all, isSpelled] using spelled

/-- Lines are broken and indented with plain characters. -/
theorem consists_lineBreak (indent : Indent) (level : Nat) :
    Consists allowed (lineBreak indent level) := by
  cases indent with
  | none => exact Text.consists_empty
  | some width =>
    refine consists_append.2 ⟨Consists.mono plain (by decide), consists_ofList.2 ?_⟩
    intro character member
    obtain rfl := List.eq_of_mem_replicate member
    exact plain ' ' (by decide)

/-- Items are separated by plain characters. -/
theorem consists_separator (indent : Indent) (level : Nat) :
    Consists allowed (separator indent level) := by
  cases indent with
  | none =>
    rw [separator]
    exact Consists.mono plain (by decide)
  | some width =>
    exact consists_append.2 ⟨Consists.mono plain (by decide), consists_lineBreak plain _ level⟩

/-- Items and brackets make a container of the characters of both. -/
theorem consists_enclose {opening closing : String} (opens : Consists isPlain opening)
    (closes : Consists isPlain closing) (indent : Indent) (level : Nat) {items : List String}
    (each : ∀ item ∈ items, Consists allowed item) :
    Consists allowed (enclose opening closing indent level items) := by
  cases items with
  | nil => exact consists_append.2 ⟨opens.mono plain, closes.mono plain⟩
  | cons item rest =>
    have inside := Text.consists_intercalate (consists_separator plain indent (level + 1)) each
    simp only [enclose, consists_append]
    exact ⟨⟨⟨⟨opens.mono plain, consists_lineBreak plain indent (level + 1)⟩, inside⟩,
      consists_lineBreak plain indent level⟩, closes.mono plain⟩

omit plain

/-- Items are written one by one. -/
theorem writeItems_eq (indent : Indent) (level : Nat) (items : List Json) :
    writeItems indent level items = items.map (writeValue indent level) := by
  induction items with
  | nil => rfl
  | cons item rest hypothesis => rw [writeItems, hypothesis, List.map_cons]

/-- Members are written one by one, with a colon behind the name. -/
theorem writeMembers_eq (indent : Indent) (level : Nat) (members : Members) :
    writeMembers indent level members =
      members.map fun member => quoteText member.1 ++ ": " ++ writeValue indent level member.2 := by
  induction members with
  | nil => rfl
  | cons member rest hypothesis =>
    obtain ⟨name, value⟩ := member
    rw [writeMembers, hypothesis, List.map_cons]

include plain

/-- What is written for a value, at any level, is plain apart from its texts. -/
theorem consists_writeValue (indent : Indent) (level : Nat) {value : Json}
    (spelled : value.Spelled allowed) : Consists allowed (writeValue indent level value) := by
  induction value using Json.induction generalizing level with
  | scalar value =>
    rw [writeValue]
    exact consists_scalarText plain spelled
  | arr items hypothesis =>
    rw [spelled_arr] at spelled
    rw [writeValue, writeItems_eq]
    refine consists_enclose plain (by decide) (by decide) indent level fun text member => ?_
    obtain ⟨item, inside, rfl⟩ := List.mem_map.1 member
    exact hypothesis item inside (level + 1) (spelled item inside)
  | obj members hypothesis =>
    obtain ⟨names, values⟩ := spelled_obj.1 spelled
    rw [writeValue, writeMembers_eq]
    refine consists_enclose plain (by decide) (by decide) indent level fun text member => ?_
    obtain ⟨pair, inside, rfl⟩ := List.mem_map.1 member
    have colon : Consists allowed ": " := Consists.mono plain (by decide)
    exact consists_append.2 ⟨consists_append.2 ⟨consists_quoteText plain (names pair inside),
      colon⟩, hypothesis pair inside (level + 1) (values pair inside)⟩

/-- A printed value consists of plain characters and of the characters of its texts. -/
theorem consists_render (indent : Indent) {value : Json} (spelled : value.Spelled allowed) :
    Consists allowed (value.render indent) :=
  consists_writeValue plain indent 0 spelled

end Printed

/-- A test that everything passes is passed by all parts of a value. -/
theorem all_of_forall {test : Json → Bool} (passed : ∀ value, test value = true) (value : Json) :
    value.all test = true := by
  induction value using Json.induction with
  | scalar value => exact passed _
  | arr items below => rw [all, passed, Bool.true_and, allItems_iff]; exact below
  | obj members below => rw [all, passed, Bool.true_and, allMembers_iff]; exact below

/-- A carriage return is never printed. -/
theorem carriageReturn_notMem_render (value : Json) (indent : Indent) :
    '\r' ∉ (value.render indent).toList := by
  have low (character : Char) : (decide (character.toNat < 0x20) || character != '\r') = true := by
    by_cases carriage : character = '\r'
    · rw [carriage]
      decide
    · simp [carriage]
  have spelled : value.Spelled (· != '\r') :=
    all_of_forall (fun value => by unfold isSpelled; split <;> simp [low]) value
  have other : ∀ character, isPlain character = true → (character != '\r') = true := by
    intro character isPlain
    by_contra carriage
    obtain rfl : character = '\r' := by simpa using carriage
    revert isPlain
    decide
  intro member
  have differs := consists_render other indent spelled '\r' member
  revert differs
  decide

end Folio.Json
