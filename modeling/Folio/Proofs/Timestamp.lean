import Folio.Timestamp.Parser
import Mathlib

/-!
# Timestamps written and read

A valid timestamp is read back from its canonical text, unless its offset is shorter than a
second without being zero: such an offset is written in full and read as none. Readers never
yield one, so what has been read once is read back from its text.
-/

namespace Folio.Timestamp

/-- The digits of a number that fits, padded. -/
theorem padded_spec {width number : Nat} (positive : 0 < width) (fits : number < 10 ^ width) :
    (padded width number).toList.length = width ∧
      (∀ digit ∈ (padded width number).toList, digit.isDigit = true) ∧
      Nat.ofDigitChars 10 (padded width number).toList 0 = number := by
  have text : (padded width number).toList =
      List.replicate (width - (Nat.toDigits 10 number).length) '0' ++ Nat.toDigits 10 number := by
    have digits : (toString number).toList = Nat.toDigits 10 number := Nat.toList_repr
    rw [padded, String.toList_append, String.toList_ofList, digits, ← String.length_toList, digits]
  have short := (Nat.length_toDigits_le_iff (b := 10) (by omega) positive).2 fits
  rw [text]
  refine ⟨?_, ?_, ?_⟩
  · rw [List.length_append, List.length_replicate]
    omega
  · intro digit member
    rcases List.mem_append.1 member with zero | shown
    · rw [List.eq_of_mem_replicate zero]
      rfl
    · exact Nat.isDigit_of_mem_toDigits (by omega) (by omega) shown
  · rw [Nat.ofDigitChars_append, Nat.ofDigitChars_replicate_zero, Nat.mul_zero,
      Nat.ofDigitChars_ten_toDigits]

/-- A padded number is read back. -/
theorem takeDigits?_padded {width number : Nat} (positive : 0 < width)
    (fits : number < 10 ^ width) (rest : List Char) :
    takeDigits? width ((padded width number).toList ++ rest) = some (number, rest) := by
  obtain ⟨length, digits, value⟩ := padded_spec positive fits
  have taken : ((padded width number).toList ++ rest).take width = (padded width number).toList :=
    List.take_left' length
  have left : ((padded width number).toList ++ rest).drop width = rest := List.drop_left' length
  have counted : (padded width number).toList.foldl
      (fun value digit => value * 10 + (digit.toNat - '0'.toNat)) 0 = number := by
    rw [Nat.ofDigitChars_eq_foldl] at value
    simpa only [Nat.mul_comm] using value
  simp only [takeDigits?, taken, left, length, counted, List.all_eq_true.2 digits]
  simp

/-- A padded number begins with a digit. -/
theorem padded_begins {width number : Nat} (positive : 0 < width) (fits : number < 10 ^ width) :
    ∃ digit digits, (padded width number).toList = digit :: digits ∧ digit.isDigit = true ∧
      digits.length + 1 = width := by
  obtain ⟨length, digits, -⟩ := padded_spec positive fits
  cases shown : (padded width number).toList with
  | nil =>
    rw [shown, List.length_nil] at length
    omega
  | cons digit others =>
    rw [shown] at length digits
    exact ⟨digit, others, rfl, digits digit (List.mem_cons_self ..), length⟩

/-- The characters of a date with hyphens. -/
def dateText (year month day : Nat) : List Char :=
  (padded 4 year).toList ++ '-' :: ((padded 2 month).toList ++ '-' :: (padded 2 day).toList)

variable {year month day : Nat}

/-- A date is written in ten characters. -/
theorem length_dateText (yearFits : year < 10 ^ 4) (monthFits : month < 10 ^ 2)
    (dayFits : day < 10 ^ 2) : (dateText year month day).length = 10 := by
  simp only [dateText, List.length_append, List.length_cons,
    (padded_spec (by omega : 0 < 4) yearFits).1, (padded_spec (by omega : 0 < 2) monthFits).1,
    (padded_spec (by omega : 0 < 2) dayFits).1]

/-- Of a text that goes on behind a date with hyphens, ten characters are the date. -/
theorem dateLength?_text (yearFits : year < 10 ^ 4) (monthFits : month < 10 ^ 2)
    (dayFits : day < 10 ^ 2) (rest : List Char) :
    dateLength? (dateText year month day ++ rest) = some 10 := by
  have size := length_dateText yearFits monthFits dayFits
  obtain ⟨digit, digits, shown, isDigit, -⟩ := padded_begins (by omega : 0 < 2) monthFits
  have yearLength := (padded_spec (by omega : 0 < 4) yearFits).1
  have fifth : (dateText year month day ++ rest)[4]? = some '-' := by
    rw [dateText, List.append_assoc, List.getElem?_append_right (by omega), yearLength]
    rfl
  have sixth : (dateText year month day ++ rest)[5]? = some digit := by
    rw [dateText, List.append_assoc, List.getElem?_append_right (by omega), yearLength, shown]
    rfl
  have noWeek : digit ≠ 'W' := by
    rintro rfl
    exact absurd isDigit (by decide)
  rw [dateLength?]
  simp only [fifth, sixth, List.length_append, size]
  rw [if_neg (by simp; omega), if_pos (beq_self_eq_true _), if_neg (by simpa using noWeek)]

/-- A date with hyphens is read back. -/
theorem readDate?_text (yearFits : year < 10 ^ 4) (monthFits : month < 10 ^ 2)
    (dayFits : day < 10 ^ 2) : readDate? (dateText year month day) = some (year, month, day) := by
  obtain ⟨digit, digits, shown, isDigit, -⟩ := padded_begins (by omega : 0 < 2) monthFits
  have noWeek : digit ≠ 'W' := by
    rintro rfl
    exact absurd isDigit (by decide)
  have monthRead := takeDigits?_padded (by omega : 0 < 2) monthFits ('-' :: (padded 2 day).toList)
  have dayRead := takeDigits?_padded (by omega : 0 < 2) dayFits []
  rw [List.append_nil] at dayRead
  rw [shown, List.cons_append] at monthRead
  rw [readDate?, dateText, takeDigits?_padded (by omega) yearFits]
  simp [shown, noWeek, monthRead, dayRead]

/-- A fraction of six digits is read back. -/
theorem readFraction?_padded (clock : Clock) {micros : Nat} (fits : micros < 10 ^ 6) :
    readFraction? clock (padded 6 micros).toList =
      some { clock with microsecond := micros, trailing := false } := by
  have length := (padded_spec (by omega : 0 < 6) fits).1
  have found := takeDigits?_padded (by omega : 0 < 6) fits []
  rw [List.append_nil] at found
  simp [readFraction?, length, found]

variable {clock : Clock} {remaining value : Nat}

/-- A component before a colon is followed by the next one. -/
theorem readComponents?_colon {colons : Option Bool} (colon : colons ≠ some false)
    (fits : value < 10 ^ 2) {tail : List Char} (more : tail ≠ []) :
    readComponents? colons clock (remaining + 1) ((padded 2 value).toList ++ ':' :: tail) =
      readComponents? (some true) (clock.setComponent (remaining + 1) value) remaining tail := by
  rw [readComponents?, takeDigits?_padded (by omega) fits]
  have separated : colons.getD true = true := by
    cases colons with
    | none => rfl
    | some known => cases known <;> simp_all
  simp [separated, more]

/-- A component may be the last one. -/
theorem readComponents?_last (colons : Option Bool) (fits : value < 10 ^ 2) :
    readComponents? colons clock (remaining + 1) (padded 2 value).toList =
      some (clock.setComponent (remaining + 1) value) := by
  have found := takeDigits?_padded (by omega : 0 < 2) fits []
  rw [List.append_nil] at found
  simp [readComponents?, found]

/-- A component behind a colon may be followed by a fraction. -/
theorem readComponents?_fraction (fits : value < 10 ^ 2) {micros : Nat}
    (microsFit : micros < 10 ^ 6) :
    readComponents? (some true) clock (remaining + 1)
        ((padded 2 value).toList ++ '.' :: (padded 6 micros).toList) =
      some { clock.setComponent (remaining + 1) value with
        microsecond := micros, trailing := false } := by
  have more : (padded 6 micros).toList ≠ [] := by
    obtain ⟨digit, digits, shown, -⟩ := padded_begins (by omega : 0 < 6) microsFit
    simp [shown]
  rw [readComponents?, takeDigits?_padded (by omega) fits]
  simp [more, readFraction?_padded _ microsFit]

/-- The characters of hours and minutes, and of what stands behind them. -/
def clockText (hour minute : Nat) (behind : List Char) : List Char :=
  (padded 2 hour).toList ++ ':' :: ((padded 2 minute).toList ++ behind)

/-- The characters of seconds, with a fraction if there is one. -/
def secondText (second micros : Nat) : List Char :=
  (padded 2 second).toList ++ (if micros != 0 then "." ++ padded 6 micros else "").toList

variable {hour minute second micros : Nat}

/-- Seconds are written with at least one character. -/
theorem secondText_ne_nil (secondFits : second < 10 ^ 2) : secondText second micros ≠ [] := by
  obtain ⟨digit, digits, shown, -⟩ := padded_begins (by omega : 0 < 2) secondFits
  simp [secondText, shown]

/-- A time to the minute is read back. -/
theorem readClock?_minutes (hourFits : hour < 10 ^ 2) (minuteFits : minute < 10 ^ 2) :
    readClock? (clockText hour minute []) = some { hour, minute } := by
  obtain ⟨digit, digits, shown, -⟩ := padded_begins (by omega : 0 < 2) minuteFits
  rw [readClock?, clockText, List.append_nil,
    readComponents?_colon (by simp) hourFits (by simp [shown]), readComponents?_last _ minuteFits]
  rfl

/-- A time to the second is read back, with its fraction. -/
theorem readClock?_seconds (hourFits : hour < 10 ^ 2) (minuteFits : minute < 10 ^ 2)
    (secondFits : second < 10 ^ 2) (microsFit : micros < 10 ^ 6) :
    readClock? (clockText hour minute (':' :: secondText second micros)) =
      some { hour, minute, second, microsecond := micros } := by
  rw [readClock?, clockText, readComponents?_colon (by simp) hourFits (by simp),
    readComponents?_colon (by simp) minuteFits (secondText_ne_nil secondFits), secondText]
  by_cases whole : micros = 0
  · subst whole
    simp only [bne_self_eq_false, Bool.false_eq_true, if_false, String.toList_empty,
      List.append_nil]
    rw [readComponents?_last _ secondFits]
    rfl
  · rw [if_pos (by simpa using whole), String.toList_append]
    exact readComponents?_fraction secondFits microsFit

/-- An offset can be told from its text: it is zero or at least a second, and below a day. -/
def OffsetFits (offset : Int) : Prop :=
  offset.natAbs < 86400 * 1000000 ∧ (offset = 0 ∨ 1000000 ≤ offset.natAbs)

/-- The characters of the time that an offset is long, in microseconds. -/
def lengthText (size : Nat) : List Char :=
  clockText (size / 3600000000) (size / 60000000 % 60)
    (if size / 1000000 % 60 != 0 || size % 1000000 != 0 then
      ':' :: secondText (size / 1000000 % 60) (size % 1000000)
    else [])

/-- Seconds are written unless there is nothing below a minute. -/
theorem lengthText_cases (size : Nat) :
    (size % 60000000 = 0 ∧
      lengthText size = clockText (size / 3600000000) (size / 60000000 % 60) []) ∨
      lengthText size = clockText (size / 3600000000) (size / 60000000 % 60)
        (':' :: secondText (size / 1000000 % 60) (size % 1000000)) := by
  rw [lengthText]
  split
  · exact .inr rfl
  · rename_i nothing
    simp only [Bool.or_eq_true, bne_iff_ne, not_or, not_not] at nothing
    exact .inl ⟨by omega, rfl⟩

/-- The characters of an offset are its sign and the time of its size. -/
theorem toList_offsetText (offset : Int) :
    (offsetText offset).toList =
      (if offset < 0 then '-' else '+') :: lengthText offset.natAbs := by
  have sign : (if offset < 0 then "-" else "+" : String).toList =
      [if offset < 0 then '-' else '+'] := by
    split <;> rfl
  simp only [offsetText, String.toList_append, sign, lengthText, clockText, secondText]
  by_cases nothing : offset.natAbs / 1000000 % 60 = 0 ∧ offset.natAbs % 1000000 = 0
  · simp [nothing.1, nothing.2]
  · have shown : (offset.natAbs / 1000000 % 60 != 0 || offset.natAbs % 1000000 != 0) = true := by
      simp only [Bool.or_eq_true, bne_iff_ne]
      omega
    simp [shown]

/-- The length of an offset is read back from its time. -/
theorem readClock?_length {size : Nat} (below : size < 86400 * 1000000)
    (told : size = 0 ∨ 1000000 ≤ size) :
    ∃ clock, readClock? (lengthText size) = some clock ∧ clock.trailing = false ∧
      offsetLength clock = size := by
  obtain ⟨whole, text⟩ | text := lengthText_cases size
  · refine ⟨⟨size / 3600000000, size / 60000000 % 60, 0, 0, false⟩, ?_, rfl, ?_⟩
    · rw [text]
      exact readClock?_minutes (by omega) (by omega)
    · simp only [offsetLength, beq_iff_eq]
      split <;> omega
  · refine ⟨⟨size / 3600000000, size / 60000000 % 60, size / 1000000 % 60, size % 1000000, false⟩,
      ?_, rfl, ?_⟩
    · rw [text]
      exact readClock?_seconds (by omega) (by omega) (by omega) (by omega)
    · simp only [offsetLength, beq_iff_eq]
      split <;> omega

/-- An offset other than `Z` has the length of its time and the sign in front. -/
theorem readOffset?_signed {sign : Char} (signed : sign ≠ 'Z') {clock : Clock} {text : List Char}
    (found : readClock? text = some clock) (whole : clock.trailing = false) :
    readOffset? (sign :: text) =
      some (if sign == '-' then -(offsetLength clock : Int) else (offsetLength clock : Int)) := by
  simp [readOffset?, found, whole]

/-- An offset that can be told from its text is read back. -/
theorem readOffset?_text {offset : Int} (fits : OffsetFits offset) :
    readOffset? (offsetText offset).toList = some offset := by
  obtain ⟨clock, found, whole, size⟩ := readClock?_length fits.1 (by have := fits.2; omega)
  rw [toList_offsetText]
  by_cases negative : offset < 0
  · have minus : -(offset.natAbs : Int) = offset := by omega
    rw [if_pos negative, readOffset?_signed (by decide) found whole, size,
      if_pos (beq_self_eq_true _), minus]
  · have plus : (offset.natAbs : Int) = offset := by omega
    rw [if_neg negative, readOffset?_signed (by decide) found whole, size, if_neg (by decide), plus]

/-- The time of day of a valid timestamp, as characters. -/
def dayTimeText (time : Timestamp) : List Char :=
  clockText time.hour time.minute (':' :: secondText time.second time.microsecond)

/-- The offset of a timestamp, as characters; none if it has none. -/
def offsetPart (time : Timestamp) : List Char :=
  time.offset.elim [] fun offset => (offsetText offset).toList

/-- A canonical text is a date, the letter, a time of day and an offset. -/
theorem toList_text (time : Timestamp) :
    time.text.toList = dateText time.year time.month time.day ++
      'T' :: (dayTimeText time ++ offsetPart time) := by
  rw [text, dayTimeText, offsetPart, clockText, secondText, dateText]
  cases time.offset <;> simp

/-- No digit begins an offset. -/
theorem beginsOffset_digit {digit : Char} (shown : digit.isDigit = true) :
    beginsOffset digit = false := by
  by_contra begins
  simp only [beginsOffset, Bool.not_eq_false, Bool.or_eq_true, beq_iff_eq] at begins
  rcases begins with (rfl | rfl) | rfl <;> exact absurd shown (by decide)

/-- No offset begins inside a number. -/
theorem not_beginsOffset_padded {width number : Nat} (positive : 0 < width)
    (fits : number < 10 ^ width) :
    ∀ character ∈ (padded width number).toList, (!beginsOffset character) = true := by
  intro character member
  rw [beginsOffset_digit ((padded_spec positive fits).2.1 character member)]
  rfl

/-- No month has more than 31 days. -/
theorem daysInMonth_le (year month : Nat) : daysInMonth year month ≤ 31 := by
  unfold daysInMonth
  split_ifs <;> omega

/-- The parts of a valid timestamp have no more digits than are written for them. -/
theorem fits_of_isValid {time : Timestamp} (valid : time.isValid = true) :
    time.year < 10 ^ 4 ∧ time.month < 10 ^ 2 ∧ time.day < 10 ^ 2 ∧ time.hour < 10 ^ 2 ∧
      time.minute < 10 ^ 2 ∧ time.second < 10 ^ 2 ∧ time.microsecond < 10 ^ 6 := by
  have longest := daysInMonth_le time.year time.month
  simp only [isValid, Bool.and_eq_true, decide_eq_true_eq] at valid
  omega

/-- A time of day holds nothing that begins an offset. -/
theorem not_beginsOffset_dayTime {time : Timestamp} (valid : time.isValid = true) :
    ∀ character ∈ dayTimeText time, (!beginsOffset character) = true := by
  obtain ⟨-, -, -, hour, minute, second, micros⟩ := fits_of_isValid valid
  have two : 0 < 2 := by omega
  intro character member
  simp only [dayTimeText, clockText, secondText, List.mem_append, List.mem_cons] at member
  rcases member with inHour | rfl | inMinute | rfl | inSecond | inMicros
  · exact not_beginsOffset_padded two hour character inHour
  · rfl
  · exact not_beginsOffset_padded two minute character inMinute
  · rfl
  · exact not_beginsOffset_padded two second character inSecond
  · split at inMicros
    · rw [String.toList_append, List.mem_append] at inMicros
      rcases inMicros with point | inFraction
      · obtain rfl : character = '.' := by simpa using point
        rfl
      · exact not_beginsOffset_padded (by omega) micros character inFraction
    · simp at inMicros

/-- The time of day and the offset of a valid timestamp are read back. -/
theorem readTime?_text {time : Timestamp} (valid : time.isValid = true)
    (told : ∀ offset ∈ time.offset, OffsetFits offset) :
    readTime? (dayTimeText time ++ offsetPart time) =
      some (⟨time.hour, time.minute, time.second, time.microsecond, false⟩, time.offset) := by
  obtain ⟨-, -, -, hour, minute, second, micros⟩ := fits_of_isValid valid
  have plain := not_beginsOffset_dayTime valid
  have clock : readClock? (dayTimeText time) =
      some ⟨time.hour, time.minute, time.second, time.microsecond, false⟩ :=
    readClock?_seconds hour minute second micros
  rw [readTime?, List.takeWhile_append_of_pos plain, List.dropWhile_append_of_pos plain]
  cases hasOffset : time.offset with
  | none => simp [offsetPart, hasOffset, clock]
  | some offset =>
    have read := readOffset?_text (told offset hasOffset)
    obtain ⟨sign, behind, shown, begins⟩ : ∃ sign behind,
        (offsetText offset).toList = sign :: behind ∧ beginsOffset sign = true := by
      rw [toList_offsetText]
      exact ⟨_, _, rfl, by split <;> rfl⟩
    rw [shown] at read
    simp [offsetPart, hasOffset, shown, begins, clock, read]

/-- A valid timestamp whose offset can be told from its text is read back. -/
theorem parse?_text {time : Timestamp} (valid : time.isValid = true)
    (told : ∀ offset ∈ time.offset, OffsetFits offset) : parse? time.text = some time := by
  obtain ⟨year, month, day, -⟩ := fits_of_isValid valid
  have length := length_dateText year month day
  have date := readDate?_text year month day
  rw [parse?, toList_text, dateLength?_text year month day]
  simp [List.take_left' length, List.drop_left' length, date, readTime?_text valid told, valid]

/-- An offset has no length or lasts at least a second. -/
theorem offsetLength_told (clock : Clock) :
    offsetLength clock = 0 ∨ 1000000 ≤ offsetLength clock := by
  simp only [offsetLength, beq_iff_eq]
  split <;> omega

/-- An offset that was read is zero or at least a second long. -/
theorem told_of_readOffset? {text : List Char} {offset : Int}
    (found : readOffset? text = some offset) : offset = 0 ∨ 1000000 ≤ offset.natAbs := by
  unfold readOffset? at found
  split at found
  · split at found
    · exact .inl (Option.some.inj found).symm
    · cases found
  · rename_i sign rest _
    obtain ⟨clock, -, read⟩ := Option.bind_eq_some_iff.1 found
    have told := offsetLength_told clock
    split at read
    · cases read
    · have size := Option.some.inj read
      split at size <;> omega
  · cases found

/-- An offset that is read is none or at least a second. -/
theorem told_of_readTime? {text : List Char} {clock : Clock} {offset? : Option Int}
    (found : readTime? text = some (clock, offset?)) :
    ∀ offset ∈ offset?, offset = 0 ∨ 1000000 ≤ offset.natAbs := by
  obtain ⟨plain, -, read⟩ := Option.bind_eq_some_iff.1 found
  split at read
  · split at read
    · cases read
    · obtain ⟨-, rfl⟩ := Prod.mk.inj (Option.some.inj read)
      simp
  · obtain ⟨offset, isOffset, same⟩ := Option.bind_eq_some_iff.1 read
    obtain ⟨-, rfl⟩ := Prod.mk.inj (Option.some.inj same)
    rintro other ⟨⟩
    exact told_of_readOffset? isOffset

/-- A timestamp that was read is valid, and its offset can be told from its text. -/
theorem told_of_parse? {text : String} {time : Timestamp} (found : parse? text = some time) :
    time.isValid = true ∧ ∀ offset ∈ time.offset, OffsetFits offset := by
  obtain ⟨length, -, read⟩ := Option.bind_eq_some_iff.1 found
  obtain ⟨⟨year, month, day⟩, -, read⟩ := Option.bind_eq_some_iff.1 read
  have assembled : ∃ result : Timestamp,
      (∀ offset ∈ result.offset, offset = 0 ∨ 1000000 ≤ offset.natAbs) ∧
        (if result.isValid then some result else none) = some time := by
    simp only at read
    split at read
    · exact ⟨_, by simp, read⟩
    · obtain ⟨⟨clock, offset?⟩, isTime, read⟩ := Option.bind_eq_some_iff.1 read
      exact ⟨_, told_of_readTime? isTime, read⟩
  obtain ⟨result, told, checked⟩ := assembled
  split at checked
  · rename_i valid
    obtain rfl := Option.some.inj checked
    refine ⟨valid, fun offset isOffset => ⟨?_, told offset isOffset⟩⟩
    have hasOffset : result.offset = some offset := isOffset
    simp only [isValid, Bool.and_eq_true, hasOffset, Option.all_some, dayLength] at valid
    have lower := of_decide_eq_true valid.2.1
    have upper := of_decide_eq_true valid.2.2
    omega
  · cases checked

/-- What has been read once is read back from its text. -/
theorem parse?_text_of_parse? {text : String} {time : Timestamp}
    (found : parse? text = some time) : parse? time.text = some time := by
  obtain ⟨valid, told⟩ := told_of_parse? found
  exact parse?_text valid told

end Folio.Timestamp
