import Folio.Setting
import Folio.Yaml.Scalar

/-!
# Reading YAML text

The reader knows block and flow collections, scalars with and without quotes, comments and
document marks. Structure in block collections follows from columns: the entries of a
collection begin in one column, their contents in later ones. A text holds one document. The
reader does not tell what is wrong with a text that it refuses.
-/

namespace Folio.Yaml

/-- A place in a text: what is unread, the line and the column. -/
structure Cursor where
  rest : List Char
  line : Nat := 0
  column : Nat := 0
  deriving Repr, Inhabited

namespace Cursor

/-- The place behind the next character. -/
def advance (cursor : Cursor) : Cursor :=
  match cursor.rest with
  | [] => cursor
  | '\n' :: rest => ⟨rest, cursor.line + 1, 0⟩
  | _ :: rest => ⟨rest, cursor.line, cursor.column + 1⟩

/-- The place behind some characters of the line. -/
def skip (count : Nat) (cursor : Cursor) : Cursor :=
  { cursor with rest := cursor.rest.drop count, column := cursor.column + count }

/-- The text ends here. -/
def atEnd (cursor : Cursor) : Bool := cursor.rest.isEmpty

end Cursor

/-- A blank, a line end or the end of the text. -/
def isGap (next : Option Char) : Bool :=
  match next with
  | none => true
  | some character => character == ' ' || character == '\t' || character == '\n'

/-- The document mark at the start of a line: `-` for the one before a document, `.` for the
one behind it. -/
def markAt (text : List Char) : Option Char :=
  match text with
  | '-' :: '-' :: '-' :: rest => if isGap rest.head? then some '-' else none
  | '.' :: '.' :: '.' :: rest => if isGap rest.head? then some '.' else none
  | _ => none

/-- A document mark or the end of the text: no collection goes on here. -/
def Cursor.closes (cursor : Cursor) : Bool :=
  cursor.atEnd || (cursor.column == 0 && (markAt cursor.rest).isSome)

/-- The place of the next token: spaces, comments and line ends are passed over. -/
def nextToken (inComment : Bool) : List Char → Nat → Nat → Cursor
  | '\n' :: rest, line, _ => nextToken false rest (line + 1) 0
  | ' ' :: rest, line, column => nextToken inComment rest line (column + 1)
  | '#' :: rest, line, column => nextToken true rest line (column + 1)
  | character :: rest, line, column =>
    if inComment then nextToken true rest line (column + 1)
    else ⟨character :: rest, line, column⟩
  | [], line, column => ⟨[], line, column⟩

/-- The next token from a place on. -/
def Cursor.token (cursor : Cursor) : Cursor :=
  nextToken false cursor.rest cursor.line cursor.column

/-- The place behind spaces. -/
def Cursor.behindSpaces (cursor : Cursor) : Cursor :=
  cursor.skip (cursor.rest.takeWhile (· == ' ')).length

/-- What stands between two parts of a scalar on different lines: one line end is a space,
further ones are kept. -/
def folded (lineEnds : Nat) : List Char :=
  if lineEnds == 1 then [' '] else List.replicate (lineEnds - 1) '\n'

/-- The blanks at a place: those of the line, or, if the line ends, the number of line ends
up to the next text. `none` if a document mark stands at the start of a line. -/
def readBlanks (isBlank : Char → Bool) : (fuel : Nat) → Nat → Cursor → Option (Nat × Cursor)
  | 0, _, _ => none
  | fuel + 1, lineEnds, cursor =>
    let behind := cursor.skip (cursor.rest.takeWhile isBlank).length
    match behind.rest with
    | '\n' :: _ =>
      let next := behind.advance
      if (markAt next.rest).isSome then none
      else readBlanks isBlank fuel (lineEnds + 1) next
    | _ => some (lineEnds, behind)

/-- The characters that a quoted scalar shows for blanks at a place, and the place behind
them. -/
def foldBlanks (cursor : Cursor) : Option (List Char × Cursor) := do
  let isBlank (character : Char) : Bool := character == ' ' || character == '\t'
  let (lineEnds, behind) ← readBlanks isBlank (cursor.rest.length + 1) 0 cursor
  let shown := if lineEnds == 0 then cursor.rest.takeWhile isBlank else folded lineEnds
  some (shown, behind)

/-- A scalar between apostrophes, behind the first: two of them stand for one. -/
def readSingle : (fuel : Nat) → Cursor → Option (List Char × Cursor)
  | 0, _ => none
  | fuel + 1, cursor =>
    match cursor.rest with
    | [] => none
    | '\'' :: '\'' :: _ => do
      let (shown, behind) ← readSingle fuel (cursor.skip 2)
      some ('\'' :: shown, behind)
    | '\'' :: _ => some ([], cursor.skip 1)
    | character :: _ => do
      if isGap (some character) then
        let (blanks, next) ← foldBlanks cursor
        let (shown, behind) ← readSingle fuel next
        some (blanks ++ shown, behind)
      else
        let (shown, behind) ← readSingle fuel (cursor.skip 1)
        some (character :: shown, behind)

/-- The character that a short escape stands for. -/
def shortEscape? : Char → Option Char
  | '0' => some '\x00'
  | 'a' => some '\x07'
  | 'b' => some '\x08'
  | 't' => some '\t'
  | '\t' => some '\t'
  | 'n' => some '\n'
  | 'v' => some '\x0b'
  | 'f' => some '\x0c'
  | 'r' => some '\r'
  | 'e' => some '\x1b'
  | ' ' => some ' '
  | '"' => some '"'
  | '\\' => some '\\'
  | '/' => some '/'
  | 'N' => some '\u0085'
  | '_' => some '\u00a0'
  | 'L' => some '\u2028'
  | 'P' => some '\u2029'
  | _ => none

/-- The number of hexadecimal digits behind an escape letter. -/
def codeLength? : Char → Option Nat
  | 'x' => some 2
  | 'u' => some 4
  | 'U' => some 8
  | _ => none

/-- The character with a hexadecimal code. -/
def codePoint? (length : Nat) (text : List Char) : Option Char := do
  let digits := text.take length
  let values ← digits.mapM Json.hexDigit?
  let code := values.foldl (fun value digit => value * 16 + digit) 0
  if digits.length == length && code < 0x110000 then some (Char.ofNat code) else none

/-- A scalar between double quotes, behind the first. -/
def readDouble : (fuel : Nat) → Cursor → Option (List Char × Cursor)
  | 0, _ => none
  | fuel + 1, cursor =>
    match cursor.rest with
    | [] => none
    | '"' :: _ => some ([], cursor.skip 1)
    | '\\' :: '\n' :: _ => do
      let isBlank (character : Char) : Bool := character == ' ' || character == '\t'
      let (lineEnds, next) ← readBlanks isBlank fuel 0 (cursor.skip 1)
      let (shown, behind) ← readDouble fuel next
      some (List.replicate (lineEnds - 1) '\n' ++ shown, behind)
    | '\\' :: code :: rest => do
      let (character, length) ←
        match shortEscape? code, codeLength? code with
        | some character, _ => some (character, 2)
        | none, some length => (codePoint? length rest).map fun found => (found, length + 2)
        | none, none => none
      let (shown, behind) ← readDouble fuel (cursor.skip length)
      some (character :: shown, behind)
    | character :: _ => do
      if isGap (some character) then
        let (blanks, next) ← foldBlanks cursor
        let (shown, behind) ← readDouble fuel next
        some (blanks ++ shown, behind)
      else
        let (shown, behind) ← readDouble fuel (cursor.skip 1)
        some (character :: shown, behind)

/-- The marks that structure flow collections. -/
def isFlowMark (character : Char) : Bool :=
  character == ',' || character == '[' || character == ']' || character == '\x7b' ||
    character == '\x7d'

/-- A scalar without quotes can begin here. -/
def startsPlain (inFlow : Bool) (text : List Char) : Bool :=
  match text with
  | [] => false
  | character :: rest =>
    let isMark := isFlowMark character ||
      ['-', '?', ':', '#', '&', '*', '!', '|', '>', '\'', '"', '%', '@', '\x60'].contains character
    if isGap (some character) then false
    else if !isMark then true
    else
      !isGap rest.head? &&
        (character == '-' || (!inFlow && (character == '?' || character == ':')))

/-- The next part of a scalar without quotes, up to a blank or a mark. -/
def readPart (inFlow : Bool) : List Char → List Char
  | [] => []
  | character :: rest =>
    let colonEnds := character == ':' &&
      (isGap rest.head? || (inFlow && rest.head?.any isFlowMark))
    if isGap (some character) || colonEnds ||
        (inFlow && (isFlowMark character || character == '?')) then []
    else character :: readPart inFlow rest

/-- A scalar without quotes, with the place behind its last part. It goes on in later lines
that are not less indented than `indent`. -/
def readPlain (inFlow : Bool) (indent : Nat) : (fuel : Nat) → Cursor → List Char × Cursor
  | 0, cursor => ([], cursor)
  | fuel + 1, cursor =>
    let part := readPart inFlow cursor.rest
    let behind := cursor.skip part.length
    match readBlanks (· == ' ') (behind.rest.length + 1) 0 behind with
    | none => (part, behind)
    | some (lineEnds, next) =>
      let goesOn := next.rest.length < behind.rest.length && next.rest.head? != some '#' &&
        (inFlow || lineEnds == 0 || indent ≤ next.column)
      if goesOn && !(readPart inFlow next.rest).isEmpty then
        let (others, last) := readPlain inFlow indent fuel next
        let blanks := if lineEnds == 0 then behind.rest.takeWhile (· == ' ') else folded lineEnds
        (part ++ blanks ++ others, last)
      else (part, behind)

/-- The table of some entries: the last value of a key counts, at the place of the first. -/
def tableOf? (entries : List (Setting × Setting)) : Option Setting := do
  let pairs ← entries.mapM fun (key, value) => key.key?.map fun name => (name, value)
  some (.table (pairs.foldl (fun table pair => Settings.put pair.1 pair.2 table) []))

/-- The mark of a value stands here. -/
def marksValue (inFlow : Bool) (cursor : Cursor) : Bool :=
  match cursor.rest with
  | ':' :: rest => inFlow || isGap rest.head?
  | _ => false

/-- The mark of an item stands here. -/
def marksItem (cursor : Cursor) : Bool :=
  match cursor.rest with
  | '-' :: rest => isGap rest.head?
  | _ => false

/-- A value without quotes; two forms are reserved. -/
def plainSetting? (characters : List Char) : Option Setting :=
  if characters == ['='] || characters == ['<', '<'] then none
  else some (.scalar (plainValue (String.ofList characters)))

mutual

/-- A scalar or a flow collection. -/
def readAtom (inFlow : Bool) (indent : Nat) : (fuel : Nat) → Cursor → Option (Setting × Cursor)
  | 0, _ => none
  | fuel + 1, cursor =>
    match cursor.rest with
    | '\'' :: _ => (readSingle (cursor.rest.length + 1) (cursor.skip 1)).map
        fun (shown, behind) => (.text (String.ofList shown), behind)
    | '"' :: _ => (readDouble (cursor.rest.length + 1) (cursor.skip 1)).map
        fun (shown, behind) => (.text (String.ofList shown), behind)
    | '[' :: _ => do
      let (items, behind) ← readFlowItems fuel (cursor.skip 1)
      some (.list items, behind)
    | '\x7b' :: _ => do
      let (entries, behind) ← readFlowEntries fuel (cursor.skip 1)
      let table ← tableOf? entries
      some (table, behind)
    | text =>
      if startsPlain inFlow text then do
        let (shown, behind) := readPlain inFlow indent (text.length + 1) cursor
        let value ← plainSetting? shown
        some (value, behind)
      else none

/-- The value of an entry in a flow collection, behind the mark of the value. -/
def readFlowValue : (fuel : Nat) → Cursor → Option (Setting × Cursor)
  | 0, _ => none
  | fuel + 1, cursor =>
    let start := cursor.token
    match start.rest with
    | ',' :: _ | ']' :: _ | '\x7d' :: _ => some (.null, start)
    | _ => readAtom true 0 fuel start

/-- An entry of a flow collection: a key with a value, or a node alone. -/
def readFlowEntry : (fuel : Nat) → Cursor → Option (Setting × Option Setting × Cursor)
  | 0, _ => none
  | fuel + 1, cursor => do
    let (key, behind) ← readAtom true 0 fuel cursor
    let next := behind.token
    if marksValue true next then
      if next.line == cursor.line then
        let (value, last) ← readFlowValue fuel (next.skip 1)
        some (key, some value, last)
      else none
    else some (key, none, next)

/-- The items of a flow list, up to its closing bracket. -/
def readFlowItems : (fuel : Nat) → Cursor → Option (List Setting × Cursor)
  | 0, _ => none
  | fuel + 1, cursor =>
    let start := cursor.token
    match start.rest with
    | ']' :: _ => some ([], start.skip 1)
    | _ => do
      let (key, value, behind) ← readFlowEntry fuel start
      let item ← match value with
        | none => some key
        | some value => tableOf? [(key, value)]
      let next := behind.token
      match next.rest with
      | ']' :: _ => some ([item], next.skip 1)
      | ',' :: _ => do
        let (items, last) ← readFlowItems fuel (next.skip 1)
        some (item :: items, last)
      | _ => none

/-- The entries of a flow table, up to its closing brace. -/
def readFlowEntries : (fuel : Nat) → Cursor → Option (List (Setting × Setting) × Cursor)
  | 0, _ => none
  | fuel + 1, cursor =>
    let start := cursor.token
    match start.rest with
    | '\x7d' :: _ => some ([], start.skip 1)
    | _ => do
      let (key, value, behind) ← readFlowEntry fuel start
      let next := behind.token
      match next.rest with
      | '\x7d' :: _ => some ([(key, value.getD .null)], next.skip 1)
      | ',' :: _ => do
        let (entries, last) ← readFlowEntries fuel (next.skip 1)
        some ((key, value.getD .null) :: entries, last)
      | _ => none

end

mutual

/-- A node that begins at a place, inside a collection whose entries begin in column
`indent - 1`. With `opens`, it may be a block collection. -/
def readNode (indent : Nat) (opens : Bool) : (fuel : Nat) → Cursor → Option (Setting × Cursor)
  | 0, _ => none
  | fuel + 1, cursor =>
    if marksItem cursor then
      if opens then do
        let (items, behind) ← readItems cursor.column fuel cursor
        some (.list items, behind)
      else none
    else do
      let (value, behind) ← readAtom false indent (cursor.rest.length * 4 + 4) cursor
      let next := behind.behindSpaces
      if marksValue false next then
        if opens && behind.line == cursor.line then
          let (entries, last) ← readEntries cursor.column value fuel (next.skip 1)
          let table ← tableOf? entries
          some (table, last)
        else none
      else some (value, behind)
termination_by structural fuel => fuel

/-- The content of an entry, which begins in column `column`. `mark` is the place behind its
mark; without content of its own the entry holds nothing. -/
def readContent (column : Nat) (opens : Bool) :
    (fuel : Nat) → Cursor → Option (Setting × Cursor)
  | 0, _ => none
  | fuel + 1, mark =>
    let start := mark.token
    if start.closes then some (.null, mark)
    else if start.line == mark.line then readNode (column + 1) opens fuel start
    else if column < start.column then readNode (column + 1) true fuel start
    else if !opens && column == start.column && marksItem start then do
      let (items, behind) ← readItems column fuel start
      some (.list items, behind)
    else some (.null, mark)
termination_by structural fuel => fuel

/-- The items of a block list whose marks stand in column `column`, the first at the given
place. -/
def readItems (column : Nat) : (fuel : Nat) → Cursor → Option (List Setting × Cursor)
  | 0, _ => none
  | fuel + 1, cursor => do
    let (item, behind) ← readContent column true fuel (cursor.skip 1)
    let next := behind.token
    if next.closes || next.column < column then some ([item], behind)
    else if next.line == behind.line || column < next.column then none
    else if marksItem next then
      let (items, last) ← readItems column fuel next
      some (item :: items, last)
    else some ([item], behind)
termination_by structural fuel => fuel

/-- The entries of a block table whose keys begin in column `column`; the first key has been
read up to the place behind its mark. -/
def readEntries (column : Nat) (key : Setting) :
    (fuel : Nat) → Cursor → Option (List (Setting × Setting) × Cursor)
  | 0, _ => none
  | fuel + 1, mark => do
    let (value, behind) ← readContent column false fuel mark
    let next := behind.token
    if next.closes || next.column < column then some ([(key, value)], behind)
    else if next.line == behind.line || column < next.column || marksItem next then none
    else
      let (nextKey, afterKey) ← readAtom false (column + 1) (next.rest.length * 4 + 4) next
      let nextMark := afterKey.behindSpaces
      if marksValue false nextMark && afterKey.line == next.line then
        let (entries, last) ← readEntries column nextKey fuel (nextMark.skip 1)
        some ((key, value) :: entries, last)
      else none
termination_by structural fuel => fuel

end

/-- A character that may stand in a text. -/
def isAllowed (character : Char) : Bool :=
  let code := character.toNat
  code == 0x09 || code == 0x0A || code == 0x0D || (0x20 ≤ code && code ≤ 0x7E) ||
    code == 0x85 || (0xA0 ≤ code && code ≤ 0xD7FF) || (0xE000 ≤ code && code ≤ 0xFFFD) ||
    0x10000 ≤ code

/-- Nothing but marks of the end of a document follows. -/
def isFinished : (marks : Nat) → Cursor → Bool
  | 0, _ => false
  | marks + 1, cursor =>
    let next := cursor.token
    next.atEnd ||
      (next.column == 0 && markAt next.rest == some '.' && isFinished marks (next.skip 3))

/-- The node of a document that begins at a place. -/
def readRoot (opens : Bool) (start : Cursor) : Option Setting := do
  let (value, behind) ← readNode 0 opens (start.rest.length * 4 + 4) start
  let next := behind.token
  if next.atEnd || (next.line != behind.line && isFinished (next.rest.length + 1) next) then
    some value
  else none

/-- The value that a YAML text writes, nothing for an empty text; `none` if the text is
malformed. -/
def parse? (text : String) : Option Setting :=
  let characters := match text.toList with
    | '\uFEFF' :: rest => rest
    | characters => characters
  if !characters.all isAllowed then none
  else
    let start := Cursor.token ⟨characters, 0, 0⟩
    if start.atEnd then some .null
    else if start.column == 0 && markAt start.rest == some '-' then
      let mark := start.skip 3
      let content := mark.token
      if content.closes then
        if isFinished (content.rest.length + 1) content then some .null else none
      else readRoot (content.line != mark.line) content
    else readRoot true start

end Folio.Yaml
