import Folio.Json.Parser
import Folio.Setting
import Folio.Timestamp.Parser

/-!
# Reading TOML text

A TOML text is a sequence of lines: table headers, headers of tables in an array, and
entries. This module reads them; `Toml.Document` puts them together. The reader knows
strings in their four forms, moments, whole numbers, floats, truth values, arrays and inline
tables. It does not tell what is wrong with a text that it refuses.
-/

namespace Folio.Toml

/-- The names of a dotted key. -/
abbrev Key := List String

/-- A line of a document. -/
inductive Statement where
  | table (key : Key)
  | arrayTable (key : Key)
  | entry (key : Key) (value : Setting)
  deriving Inhabited, Repr

/-- Put a character in front of what was read. -/
def withFirst (character : Char) (reading : Option (List Char × List Char)) :
    Option (List Char × List Char) :=
  reading.map fun (characters, rest) => (character :: characters, rest)

/-- Blanks within a line. -/
def isBlank (character : Char) : Bool := character == ' ' || character == '\t'

/-- A character that may not stand in a text as it is: a control character but the tab. -/
def isControl (character : Char) : Bool :=
  (character.toNat < 0x20 && character != '\t') || character.toNat == 0x7F

/-- The text behind leading blanks. -/
def skipBlanks (text : List Char) : List Char := text.dropWhile isBlank

/-- The text behind a comment, if one stands here; the line end is kept. -/
def skipComment : List Char → Option (List Char)
  | '#' :: rest =>
    let comment := rest.takeWhile (· != '\n')
    if comment.any isControl then none else some (rest.dropWhile (· != '\n'))
  | text => some text

/-- The text behind blanks, line ends and comments. -/
def skipFiller (inComment : Bool) : List Char → Option (List Char)
  | [] => some []
  | '\n' :: rest => skipFiller false rest
  | character :: rest =>
    if inComment then if isControl character then none else skipFiller true rest
    else if isBlank character then skipFiller false rest
    else if character == '#' then skipFiller true rest
    else some (character :: rest)

/-- The character with a hexadecimal code, if there is one. -/
def codePoint? (digits : List Char) : Option Char := do
  let values ← digits.mapM Json.hexDigit?
  let code := values.foldl (fun value digit => value * 16 + digit) 0
  if code < 0xD800 || (0xDFFF < code && code < 0x110000) then some (Char.ofNat code) else none

/-- The character that a short escape stands for. -/
def shortEscape? : Char → Option Char
  | '"' => some '"'
  | '\\' => some '\\'
  | 'b' => some '\x08'
  | 't' => some '\t'
  | 'n' => some '\n'
  | 'f' => some '\x0c'
  | 'r' => some '\r'
  | _ => none

/-- How far an escaped line end has been read: not at all, up to blanks that must end in a
line end, or up to the blank characters that are dropped behind it. -/
inductive Trimming where
  | no
  | beforeLineEnd
  | behindLineEnd
  deriving DecidableEq

/-- The characters of a string with escapes, up to its closing quotes. -/
def readEscaped (multiline : Bool) : Trimming → List Char → Option (List Char × List Char)
  | _, [] => none
  | .beforeLineEnd, character :: rest =>
    if isBlank character then readEscaped multiline .beforeLineEnd rest
    else if character == '\n' then readEscaped multiline .behindLineEnd rest
    else none
  | _, '"' :: rest =>
    match multiline, rest with
    | false, rest => some ([], rest)
    | true, '"' :: '"' :: after => some ([], after)
    | true, rest => withFirst '"' (readEscaped multiline .no rest)
  | _, '\\' :: 'u' :: a :: b :: c :: d :: rest => do
    let character ← codePoint? [a, b, c, d]
    withFirst character (readEscaped multiline .no rest)
  | _, '\\' :: 'U' :: a :: b :: c :: d :: e :: f :: g :: h :: rest => do
    let character ← codePoint? [a, b, c, d, e, f, g, h]
    withFirst character (readEscaped multiline .no rest)
  | _, '\\' :: code :: rest =>
    match shortEscape? code with
    | some character => withFirst character (readEscaped multiline .no rest)
    | none =>
      if multiline && code == '\n' then readEscaped multiline .behindLineEnd rest
      else if multiline && isBlank code then readEscaped multiline .beforeLineEnd rest
      else none
  | trimming, character :: rest =>
    if trimming == .behindLineEnd && (isBlank character || character == '\n') then
      readEscaped multiline .behindLineEnd rest
    else if isControl character && !(multiline && character == '\n') then none
    else withFirst character (readEscaped multiline .no rest)

/-- The characters of a string without escapes, up to its closing quotes. -/
def readLiteral (multiline : Bool) : List Char → Option (List Char × List Char)
  | [] => none
  | '\'' :: rest =>
    match multiline, rest with
    | false, rest => some ([], rest)
    | true, '\'' :: '\'' :: after => some ([], after)
    | true, rest => withFirst '\'' (readLiteral multiline rest)
  | character :: rest =>
    if isControl character && !(multiline && character == '\n') then none
    else withFirst character (readLiteral multiline rest)

/-- Up to two quotes right behind a string of several lines belong to it. -/
def withExtraQuotes (mark : Char) : List Char × List Char → List Char × List Char
  | (characters, first :: second :: rest) =>
    if first == mark then
      if second == mark then (characters ++ [mark, mark], rest)
      else (characters ++ [mark], second :: rest)
    else (characters, first :: second :: rest)
  | (characters, [single]) =>
    if single == mark then (characters ++ [mark], []) else (characters, [single])
  | other => other

/-- The text behind a line end right at its start. -/
def skipFirstLineEnd : List Char → List Char
  | '\n' :: rest => rest
  | text => text

/-- A string in any of the four forms. -/
def readString : List Char → Option (List Char × List Char)
  | '"' :: '"' :: '"' :: rest =>
    (readEscaped true .no (skipFirstLineEnd rest)).map (withExtraQuotes '"')
  | '"' :: rest => readEscaped false .no rest
  | '\'' :: '\'' :: '\'' :: rest =>
    (readLiteral true (skipFirstLineEnd rest)).map (withExtraQuotes '\'')
  | '\'' :: rest => readLiteral false rest
  | _ => none

/-- The characters of a name without quotes. -/
def isBareChar (character : Char) : Bool :=
  ('a' ≤ character && character ≤ 'z') || ('A' ≤ character && character ≤ 'Z') ||
    Json.isDigit character || character == '-' || character == '_'

/-- One name of a key: bare, or a string of one line. -/
def readName : List Char → Option (String × List Char)
  | '"' :: rest => (readEscaped false .no rest).map fun (name, after) => (String.ofList name, after)
  | '\'' :: rest => (readLiteral false rest).map fun (name, after) => (String.ofList name, after)
  | text =>
    let name := text.takeWhile isBareChar
    if name.isEmpty then none else some (String.ofList name, text.dropWhile isBareChar)

/-- A dotted key and the blanks behind it. -/
def readKey : (names : Nat) → List Char → Option (Key × List Char)
  | 0, _ => none
  | names + 1, text => do
    let (name, after) ← readName text
    match skipBlanks after with
    | '.' :: rest =>
      let (others, last) ← readKey names (skipBlanks rest)
      some (name :: others, last)
    | rest => some ([name], rest)

/-- Digits with single underscores between them. -/
def readGroups (isDigit : Char → Bool) : List Char → List Char × List Char
  | '_' :: digit :: rest =>
    if isDigit digit then
      let (digits, after) := readGroups isDigit rest
      (digit :: digits, after)
    else ([], '_' :: digit :: rest)
  | digit :: rest =>
    if isDigit digit then
      let (digits, after) := readGroups isDigit rest
      (digit :: digits, after)
    else ([], digit :: rest)
  | [] => ([], [])

/-- At least one digit, with single underscores between digits. -/
def readDigits (isDigit : Char → Bool) (text : List Char) : Option (List Char × List Char) :=
  match text with
  | digit :: _ => if isDigit digit then some (readGroups isDigit text) else none
  | [] => none

/-- The digits of a base. -/
def isDigitOf (base : Nat) (character : Char) : Bool :=
  (Json.hexDigit? character).any fun value => value < base

/-- A whole number behind a sign for its base. -/
def readBased (base : Nat) (text : List Char) : Option (Setting × List Char) := do
  let (digits, rest) ← readDigits (isDigitOf base) text
  let value := digits.foldl (fun value digit => value * base + (Json.hexDigit? digit).getD 0) 0
  some (.int value, rest)

/-- The integer part of a decimal number. -/
def readWhole : List Char → Option (List Char × List Char)
  | '0' :: rest => some (['0'], rest)
  | text => readDigits Json.isDigit text

/-- The fraction of a decimal number, without its point. -/
def readFraction (text : List Char) : Option (List Char × List Char) :=
  match text with
  | '.' :: rest => readDigits Json.isDigit rest
  | _ => none

/-- The exponent of a decimal number. -/
def readExponent (text : List Char) : Option (Int × List Char) :=
  match text with
  | letter :: rest =>
    if letter == 'e' || letter == 'E' then
      let (sign, digits) : Int × List Char :=
        match rest with
        | '-' :: tail => (-1, tail)
        | '+' :: tail => (1, tail)
        | tail => (1, tail)
      (readDigits Json.isDigit digits).map fun (shown, after) =>
        (sign * Json.digitsValue shown, after)
    else none
  | [] => none

/-- A decimal number behind its sign. -/
def readDecimal (negative : Bool) (text : List Char) : Option (Setting × List Char) := do
  let (whole, afterWhole) ← readWhole text
  let fraction := readFraction afterWhole
  let afterFraction := (fraction.map (·.2)).getD afterWhole
  let exponent := readExponent afterFraction
  let rest := (exponent.map (·.2)).getD afterFraction
  if fraction.isNone && exponent.isNone then
    let size : Int := Json.digitsValue whole
    some (.int (if negative then -size else size), rest)
  else
    let shown := (fraction.map (·.1)).getD []
    let size := Json.scientific (Json.digitsValue (whole ++ shown))
      ((exponent.map (·.1)).getD 0 - shown.length)
    some (.scalar (.float (if negative then -size else size)), rest)

/-- A float that is no number or not finite, behind its sign. -/
def readSpecial (negative : Bool) : List Char → Option (Setting × List Char)
  | 'i' :: 'n' :: 'f' :: rest =>
    some (.scalar (.float (if negative then -1.0 / 0.0 else 1.0 / 0.0)), rest)
  | 'n' :: 'a' :: 'n' :: rest => some (.scalar (.float (0.0 / 0.0)), rest)
  | _ => none

/-- A number behind its sign. -/
def readSigned (negative : Bool) (text : List Char) : Option (Setting × List Char) :=
  (readDecimal negative text).orElse fun _ => readSpecial negative text

/-- A number. -/
def readNumber (text : List Char) : Option (Setting × List Char) :=
  match text with
  | '0' :: 'x' :: rest => (readBased 16 rest).orElse fun _ => readSigned false text
  | '0' :: 'o' :: rest => (readBased 8 rest).orElse fun _ => readSigned false text
  | '0' :: 'b' :: rest => (readBased 2 rest).orElse fun _ => readSigned false text
  | '-' :: rest => readSigned true rest
  | '+' :: rest => readSigned false rest
  | _ => readSigned false text

/-- A number of two digits below a bound. -/
def readPart (bound : Nat) (text : List Char) : Option (Nat × List Char) := do
  let (number, rest) ← Timestamp.takeDigits? 2 text
  if number < bound then some (number, rest) else none

/-- A number of two digits below a bound, behind a mark. -/
def readMarked (mark : Char) (bound : Nat) : List Char → Option (Nat × List Char)
  | first :: rest => if first == mark then readPart bound rest else none
  | [] => none

/-- A date: its year, month and day. -/
def readDate (text : List Char) : Option ((Nat × Nat × Nat) × List Char) := do
  let (year, afterYear) ← Timestamp.takeDigits? 4 text
  let (month, afterMonth) ← readMarked '-' 13 afterYear
  let (day, rest) ← readMarked '-' 32 afterMonth
  some ((year, month, day), rest)

/-- The microseconds of a fraction of a second; of its digits six count. -/
def readMicroseconds : List Char → Nat × List Char
  | '.' :: digit :: rest =>
    if Json.isDigit digit then
      let digits := (digit :: rest).takeWhile Json.isDigit
      let counted := digits.take 6
      (Json.digitsValue (counted ++ List.replicate (6 - counted.length) '0'),
        (digit :: rest).dropWhile Json.isDigit)
    else (0, '.' :: digit :: rest)
  | text => (0, text)

/-- A time of day: its hour, minute, second and microsecond. -/
def readClock (text : List Char) : Option ((Nat × Nat × Nat × Nat) × List Char) := do
  let (hour, afterHour) ← readPart 24 text
  let (minute, afterMinute) ← readMarked ':' 60 afterHour
  let (second, afterSecond) ← readMarked ':' 60 afterMinute
  let (microsecond, rest) := readMicroseconds afterSecond
  some ((hour, minute, second, microsecond), rest)

/-- An offset from universal time in microseconds, if one stands here. -/
def readOffset (text : List Char) : Option Int × List Char :=
  let distance (rest : List Char) : Option (Int × List Char) := do
    let (hours, afterHours) ← readPart 24 rest
    let (minutes, after) ← readMarked ':' 60 afterHours
    some (((hours * 60 + minutes) * 60000000 : Nat), after)
  match text with
  | 'Z' :: rest | 'z' :: rest => (some 0, rest)
  | '+' :: rest =>
    ((distance rest).map fun (size, after) => (some size, after)).getD (none, text)
  | '-' :: rest =>
    ((distance rest).map fun (size, after) => (some (-size), after)).getD (none, text)
  | _ => (none, text)

/-- The mark between a date and a time of day. -/
def isTimeMark (character : Char) : Bool :=
  character == 'T' || character == 't' || character == ' '

/-- A date with or without a time of day behind it, or a time of day. -/
def readDateOrTime (text : List Char) : Option (Moment × List Char) :=
  match readDate text with
  | none =>
    (readClock text).map fun ((hour, minute, second, microsecond), rest) =>
      (.time hour minute second microsecond, rest)
  | some ((year, month, day), afterDate) =>
    let clock := match afterDate with
      | mark :: rest => if isTimeMark mark then readClock rest else none
      | [] => none
    match clock with
    | none => some (.date year month day, afterDate)
    | some ((hour, minute, second, microsecond), afterClock) =>
      let (offset, rest) := readOffset afterClock
      some (.whole { year, month, day, hour, minute, second, microsecond, offset }, rest)

/-- A moment; a date that no calendar has is none. -/
def readMoment (text : List Char) : Option (Setting × List Char) := do
  let (moment, rest) ← readDateOrTime text
  if moment.isValid then some (.foreign moment.foreign, rest) else none

/-- Change the table that a key leads to, making the tables on the way that are missing.
With `intoArrays`, an array on the way stands for its last table. -/
def changeTable (intoArrays : Bool) (change : Settings → Option Settings) :
    Key → Settings → Option Settings
  | [], entries => change entries
  | name :: rest, entries =>
    match entries.named? name with
    | none => do
      let inner ← changeTable intoArrays change rest []
      some (entries.put (.text name) (.table inner))
    | some (.table inner) => do
      let changed ← changeTable intoArrays change rest inner
      some (entries.put (.text name) (.table changed))
    | some (.list items) =>
      match intoArrays, items.getLast? with
      | true, some (.table inner) => do
        let changed ← changeTable intoArrays change rest inner
        some (entries.put (.text name) (.list (items.dropLast ++ [.table changed])))
      | _, _ => none
    | some (.scalar _) | some (.foreign _) => none

/-- Add an entry whose name is new. -/
def addNew (name : String) (value : Setting) (entries : Settings) : Option Settings :=
  match entries.named? name with
  | none => some (entries ++ [(.text name, value)])
  | some _ => none

/-- The setting is an array or a table. -/
def isContainer : Setting → Bool
  | .scalar _ | .foreign _ => false
  | .list _ | .table _ => true

/-- The table that the entries of an inline table make; `closed` are the keys of containers
among those before, into which nothing more can be put. -/
def inlineTable (entries : Settings) (closed : List Key) :
    List (Key × Setting) → Option Settings
  | [] => some entries
  | (key, value) :: rest =>
    if closed.any (·.isPrefixOf key) then none
    else
      match key.getLast? with
      | none => none
      | some name => do
        let changed ← changeTable false (addNew name value) key.dropLast entries
        inlineTable changed (if isContainer value then key :: closed else closed) rest

mutual

/-- A value. -/
def readValue : (fuel : Nat) → List Char → Option (Setting × List Char)
  | 0, _ => none
  | fuel + 1, text =>
    match text with
    | 't' :: 'r' :: 'u' :: 'e' :: rest => some (.bool true, rest)
    | 'f' :: 'a' :: 'l' :: 's' :: 'e' :: rest => some (.bool false, rest)
    | '"' :: _ | '\'' :: _ =>
      (readString text).map fun (characters, rest) => (.text (String.ofList characters), rest)
    | '[' :: rest => do
      let start ← skipFiller false rest
      let (items, after) ← readItems fuel start
      some (.list items, after)
    | '\x7b' :: rest =>
      match skipBlanks rest with
      | '\x7d' :: after => some (.table [], after)
      | start => do
        let (pairs, after) ← readPairs fuel start
        let entries ← inlineTable [] [] pairs
        some (.table entries, after)
    | _ => (readMoment text).orElse fun _ => readNumber text

/-- The items of an array, up to its closing bracket. -/
def readItems : (fuel : Nat) → List Char → Option (List Setting × List Char)
  | 0, _ => none
  | _ + 1, ']' :: rest => some ([], rest)
  | fuel + 1, text => do
    let (item, after) ← readValue fuel text
    let next ← skipFiller false after
    match next with
    | ']' :: rest => some ([item], rest)
    | ',' :: rest =>
      let start ← skipFiller false rest
      let (items, last) ← readItems fuel start
      some (item :: items, last)
    | _ => none

/-- The entries of an inline table, up to its closing brace. -/
def readPairs : (fuel : Nat) → List Char → Option ((List (Key × Setting)) × List Char)
  | 0, _ => none
  | fuel + 1, text => do
    let (pair, after) ← readPair fuel text
    match skipBlanks after with
    | '\x7d' :: rest => some ([pair], rest)
    | ',' :: rest =>
      let (pairs, last) ← readPairs fuel (skipBlanks rest)
      some (pair :: pairs, last)
    | _ => none

/-- A key and its value. -/
def readPair : (fuel : Nat) → List Char → Option ((Key × Setting) × List Char)
  | 0, _ => none
  | fuel + 1, text => do
    let (key, after) ← readKey (text.length + 1) text
    match after with
    | '=' :: rest =>
      let (value, last) ← readValue fuel (skipBlanks rest)
      some ((key, value), last)
    | _ => none

end

/-- Nested calls use at most three units of fuel for every character. -/
def enoughFuel (text : List Char) : Nat := 3 * text.length + 3

/-- The text behind a statement: blanks, a comment and the line end are passed over. -/
def skipLineEnd (text : List Char) : Option (List Char) := do
  let rest ← skipComment (skipBlanks text)
  match rest with
  | [] => some []
  | '\n' :: after => some after
  | _ => none

/-- The statement at the start of a line, if there is one. -/
def readStatement (text : List Char) : Option (Option Statement × List Char) :=
  match text with
  | [] => some (none, [])
  | '\n' :: _ | '#' :: _ => some (none, text)
  | '[' :: '[' :: rest => do
    let (key, after) ← readKey (text.length + 1) (skipBlanks rest)
    match after with
    | ']' :: ']' :: last => some (some (.arrayTable key), last)
    | _ => none
  | '[' :: rest => do
    let (key, after) ← readKey (text.length + 1) (skipBlanks rest)
    match after with
    | ']' :: last => some (some (.table key), last)
    | _ => none
  | _ => do
    let ((key, value), after) ← readPair (enoughFuel text) text
    some (some (.entry key value), after)

/-- All statements of a text, of which no more than `lines` lines are read. -/
def readStatements : (lines : Nat) → List Char → Option (List Statement)
  | 0, _ => none
  | lines + 1, text => do
    let (statement, after) ← readStatement (skipBlanks text)
    let rest ← skipLineEnd after
    if rest.isEmpty then some statement.toList
    else
      let others ← readStatements lines rest
      some (statement.toList ++ others)

end Folio.Toml
