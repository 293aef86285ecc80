import Folio.Json

/-!
# Reading JSON text

The reader works on the characters still unread, so a fault is told by what was unread
when it was met, and its place follows from the length of that remainder. Beyond the
standard grammar it knows the words `NaN`, `Infinity` and `-Infinity`. Of members with one
name the last value counts.
-/

namespace Folio.Json

/-- What can be wrong with a JSON text. -/
inductive Problem where
  | byteOrderMark
  | expectingValue
  | extraData
  | expectingName
  | expectingColon
  | expectingComma
  | unterminatedString
  | controlCharacter
  | invalidEscape
  | invalidUnicodeEscape
  deriving Repr, DecidableEq

/-- The wording of a problem, without its place. -/
def Problem.text : Problem → String
  | byteOrderMark => "Unexpected UTF-8 BOM (decode using utf-8-sig)"
  | expectingValue => "Expecting value"
  | extraData => "Extra data"
  | expectingName => "Expecting property name enclosed in double quotes"
  | expectingColon => "Expecting ':' delimiter"
  | expectingComma => "Expecting ',' delimiter"
  | unterminatedString => "Unterminated string starting at"
  | controlCharacter => "Invalid control character at"
  | invalidEscape => "Invalid \\escape"
  | invalidUnicodeEscape => "Invalid \\uXXXX escape"

/-- A problem and the text from its place on. -/
structure Stop where
  problem : Problem
  unread : List Char

/-- What a reader yields: a result and the text behind it, or the problem met. -/
abbrev Reading (α : Type) := Except Stop (α × List Char)

/-- Blanks between tokens. -/
def isBlank (character : Char) : Bool :=
  character == ' ' || character == '\t' || character == '\n' || character == '\r'

/-- The text behind leading blanks. -/
def skipBlanks (text : List Char) : List Char := text.dropWhile isBlank

/-- The value of a hexadecimal digit. -/
def hexDigit? (character : Char) : Option Nat :=
  if '0' ≤ character && character ≤ '9' then some (character.toNat - '0'.toNat)
  else if 'a' ≤ character && character ≤ 'f' then some (character.toNat - 'a'.toNat + 10)
  else if 'A' ≤ character && character ≤ 'F' then some (character.toNat - 'A'.toNat + 10)
  else none

/-- The value of four hexadecimal digits. -/
def hexUnit? (a b c d : Char) : Option Nat := do
  return (((← hexDigit? a) * 16 + (← hexDigit? b)) * 16 + (← hexDigit? c)) * 16 + (← hexDigit? d)

/-- The character that a short escape stands for. -/
def shortEscape? : Char → Option Char
  | '"' => some '"'
  | '\\' => some '\\'
  | '/' => some '/'
  | 'b' => some '\x08'
  | 'f' => some '\x0c'
  | 'n' => some '\n'
  | 'r' => some '\r'
  | 't' => some '\t'
  | _ => none

/-- The characters that code units write: a high surrogate and the low one behind it make
one character, and half a pair on its own stays what it is. -/
def joinUnits : List Nat → List Char
  | [] => []
  | high :: low :: rest =>
    if 0xD800 ≤ high && high ≤ 0xDBFF && 0xDC00 ≤ low && low ≤ 0xDFFF then
      Char.ofNat (0x10000 + (high - 0xD800) * 0x400 + (low - 0xDC00)) :: joinUnits rest
    else unitChar high :: joinUnits (low :: rest)
  | [unit] => [unitChar unit]
where
  /-- The character of a unit that stands alone. -/
  unitChar (unit : Nat) : Char :=
    if 0xD800 ≤ unit && unit ≤ 0xDFFF then Text.ofHalf unit else Char.ofNat unit

/-- Put a code unit in front of what was read. -/
def Reading.cons (unit : Nat) : Reading (List Nat) → Reading (List Nat)
  | .ok (units, rest) => .ok (unit :: units, rest)
  | .error stop => .error stop

/-- The code units of a string up to its closing quote; `opening` is the text from the
opening quote on. An escape of four digits needs at least one more character behind it. -/
def readUnits (opening : List Char) : List Char → Reading (List Nat)
  | [] => .error ⟨.unterminatedString, opening⟩
  | '"' :: rest => .ok ([], rest)
  | ['\\'] => .error ⟨.unterminatedString, opening⟩
  | '\\' :: 'u' :: a :: b :: c :: d :: rest =>
    match rest.isEmpty, hexUnit? a b c d with
    | false, some unit => (readUnits opening rest).cons unit
    | _, _ => .error ⟨.invalidUnicodeEscape, 'u' :: a :: b :: c :: d :: rest⟩
  | '\\' :: 'u' :: rest => .error ⟨.invalidUnicodeEscape, 'u' :: rest⟩
  | '\\' :: code :: rest =>
    match shortEscape? code with
    | some character => (readUnits opening rest).cons character.toNat
    | none => .error ⟨.invalidEscape, '\\' :: code :: rest⟩
  | character :: rest =>
    if character.toNat < 0x20 then .error ⟨.controlCharacter, character :: rest⟩
    else (readUnits opening rest).cons character.toNat

/-- A string behind its opening quote, with the text behind its closing quote. -/
def readString (opening text : List Char) : Reading String :=
  match readUnits opening text with
  | .ok (units, rest) => .ok (String.ofList (joinUnits units), rest)
  | .error stop => .error stop

/-- The digits 0 to 9. -/
def isDigit (character : Char) : Bool := '0' ≤ character && character ≤ '9'

/-- The number that decimal digits write. -/
def digitsValue (digits : List Char) : Nat :=
  digits.foldl (fun value digit => value * 10 + (digit.toNat - '0'.toNat)) 0

/-- The double nearest to `digits * 10 ^ exponent`. Exponents beyond the range of doubles
are decided without computing the power. -/
def scientific (digits : Nat) (exponent : Int) : Float :=
  let leading := (toString digits).length + exponent
  if digits == 0 || leading < -400 then 0.0
  else if 400 < leading then 1.0 / 0.0
  else Float.ofScientific digits (exponent < 0) exponent.natAbs

/-- The fraction behind an integer part: a point and at least one digit. -/
def readFraction : List Char → List Char × List Char
  | '.' :: digit :: rest =>
    if isDigit digit then ((digit :: rest).takeWhile isDigit, (digit :: rest).dropWhile isDigit)
    else ([], '.' :: digit :: rest)
  | text => ([], text)

/-- The exponent of a number: a letter, a sign if any, and at least one digit. -/
def readExponent (text : List Char) : Option (Int × List Char) :=
  match text with
  | letter :: rest =>
    if letter == 'e' || letter == 'E' then
      let (sign, digits) : Int × List Char :=
        match rest with
        | '-' :: tail => (-1, tail)
        | '+' :: tail => (1, tail)
        | tail => (1, tail)
      let shown := digits.takeWhile isDigit
      if shown.isEmpty then none
      else some (sign * digitsValue shown, digits.dropWhile isDigit)
    else none
  | [] => none

/-- The integer part of a number: a zero alone, or digits that do not begin with one. -/
def readWhole : List Char → Option (List Char × List Char)
  | '0' :: rest => some (['0'], rest)
  | digit :: rest =>
    if isDigit digit then some (digit :: rest.takeWhile isDigit, rest.dropWhile isDigit) else none
  | [] => none

/-- A number without its sign. -/
def readUnsigned (negative : Bool) (text : List Char) : Option (Json × List Char) := do
  let (whole, afterWhole) ← readWhole text
  let (fraction, afterFraction) := readFraction afterWhole
  match fraction, readExponent afterFraction with
  | [], none =>
    let size : Int := digitsValue whole
    some (.int (if negative then -size else size), afterFraction)
  | _, found =>
    let (exponent, rest) := found.getD (0, afterFraction)
    let size := scientific (digitsValue (whole ++ fraction)) (exponent - fraction.length)
    some (.float (if negative then -size else size), rest)

/-- A word or number at the start of the text. -/
def readPlain (text : List Char) : Reading Json :=
  match text with
  | 'n' :: 'u' :: 'l' :: 'l' :: rest => .ok (.null, rest)
  | 't' :: 'r' :: 'u' :: 'e' :: rest => .ok (.bool true, rest)
  | 'f' :: 'a' :: 'l' :: 's' :: 'e' :: rest => .ok (.bool false, rest)
  | 'N' :: 'a' :: 'N' :: rest => .ok (.float (0.0 / 0.0), rest)
  | 'I' :: 'n' :: 'f' :: 'i' :: 'n' :: 'i' :: 't' :: 'y' :: rest => .ok (.float (1.0 / 0.0), rest)
  | '-' :: 'I' :: 'n' :: 'f' :: 'i' :: 'n' :: 'i' :: 't' :: 'y' :: rest =>
    .ok (.float (-1.0 / 0.0), rest)
  | _ =>
    let found :=
      match text with
      | '-' :: rest => readUnsigned true rest
      | _ => readUnsigned false text
    match found with
    | some reading => .ok reading
    | none => .error ⟨.expectingValue, text⟩

mutual

/-- A value at the start of the text. -/
def readValue : Nat → List Char → Reading Json
  | 0, text => .error ⟨.expectingValue, text⟩
  | fuel + 1, text =>
    match text with
    | '"' :: rest =>
      match readString text rest with
      | .ok (body, after) => .ok (.str body, after)
      | .error stop => .error stop
    | '[' :: rest =>
      match skipBlanks rest with
      | ']' :: after => .ok (.arr [], after)
      | items =>
        match readItems fuel items with
        | .ok (values, after) => .ok (.arr values, after)
        | .error stop => .error stop
    | '\x7b' :: rest =>
      match skipBlanks rest with
      | '\x7d' :: after => .ok (.obj [], after)
      | members =>
        match readMembers fuel members with
        | .ok (pairs, after) => .ok (.obj (Members.ofPairs pairs), after)
        | .error stop => .error stop
    | _ => readPlain text

/-- The items of an array, from the first one on, and its closing bracket. -/
def readItems : Nat → List Char → Reading (List Json)
  | 0, text => .error ⟨.expectingValue, text⟩
  | fuel + 1, text =>
    match readValue fuel text with
    | .error stop => .error stop
    | .ok (value, after) =>
      match skipBlanks after with
      | ']' :: rest => .ok ([value], rest)
      | ',' :: rest =>
        match readItems fuel (skipBlanks rest) with
        | .ok (values, tail) => .ok (value :: values, tail)
        | .error stop => .error stop
      | unread => .error ⟨.expectingComma, unread⟩

/-- The members of an object, from the first name on, and its closing brace. -/
def readMembers : Nat → List Char → Reading (List (String × Json))
  | 0, text => .error ⟨.expectingName, text⟩
  | fuel + 1, text =>
    match text with
    | '"' :: rest =>
      match readString text rest with
      | .error stop => .error stop
      | .ok (name, afterName) =>
        match skipBlanks afterName with
        | ':' :: beforeValue =>
          match readValue fuel (skipBlanks beforeValue) with
          | .error stop => .error stop
          | .ok (value, afterValue) =>
            match skipBlanks afterValue with
            | '\x7d' :: tail => .ok ([(name, value)], tail)
            | ',' :: tail =>
              match readMembers fuel (skipBlanks tail) with
              | .ok (pairs, last) => .ok ((name, value) :: pairs, last)
              | .error stop => .error stop
            | unread => .error ⟨.expectingComma, unread⟩
        | unread => .error ⟨.expectingColon, unread⟩
    | _ => .error ⟨.expectingName, text⟩

end

/-- Nested calls use at most two units of fuel for every character. -/
def enoughFuel (text : List Char) : Nat := 2 * text.length + 2

/-- A whole text: one value between blanks. -/
def readText (text : List Char) : Except Stop Json :=
  match text with
  | '\uFEFF' :: _ => .error ⟨.byteOrderMark, text⟩
  | _ =>
    match readValue (enoughFuel text) (skipBlanks text) with
    | .error stop => .error stop
    | .ok (value, after) =>
      match skipBlanks after with
      | [] => .ok value
      | unread => .error ⟨.extraData, unread⟩

/-- A problem with its place: how many characters come before it, and line and column
counted from 1. -/
structure ParseError where
  problem : Problem
  offset : Nat
  line : Nat
  column : Nat
  deriving Repr, DecidableEq

/-- The place where `unread` begins in `text`. -/
def Stop.locate (text : List Char) (stop : Stop) : ParseError :=
  let offset := text.length - stop.unread.length
  let before := text.take offset
  ⟨stop.problem, offset, before.count '\n' + 1,
    (before.reverse.takeWhile (· != '\n')).length + 1⟩

/-- The wording of an error. -/
def ParseError.message (error : ParseError) : String :=
  s!"{error.problem.text}: line {error.line} column {error.column} (char {error.offset})"

/-- The value that a JSON text writes. -/
def parse (text : String) : Except ParseError Json :=
  (readText text.toList).mapError (Stop.locate text.toList)

end Folio.Json
