import Folio.Fault
import Folio.Outline
import Folio.Text.Markup
import Folio.Text.Width

/-!
# Drawings

Outlines are drawn as branches of a tree and rows of cells as a boxed grid. A text of several
lines goes on below its first line.
-/

namespace Folio.Drawing

/-- The lines of a text. -/
def splitLines : List Char → List (List Char)
  | [] => [[]]
  | '\n' :: rest => [] :: splitLines rest
  | character :: rest =>
    match splitLines rest with
    | line :: others => (character :: line) :: others
    | [] => [[character]]

/-- What is shown for an entry: its title and, in a faint style, its reference, which must be
a text. -/
def label (title : String) (reference : Scalar) : Except Fault (List Char) :=
  match reference with
  | .text reference =>
    .ok <| Markup.shown <|
      Markup.escape title.toList ++ " [dim]#".toList ++ Markup.escape reference.toList ++
        "[/dim]".toList
  | other => .error (.notMarkup other.typeName)

/-- What leads to the label of an entry, and what stands below that. -/
def guide (last : Bool) : String := if last then "└── " else "├── "

/-- What stands before everything below an entry. -/
def guideBelow (last : Bool) : String := if last then "    " else "│   "

/-- The lines of a label, the first one at the end of a branch. -/
def labelLines (before : String) (last : Bool) (text : List Char) : List String :=
  match splitLines text with
  | [] => []
  | first :: rest =>
    (before ++ guide last ++ String.ofList first) ::
      rest.map fun line => before ++ guideBelow last ++ String.ofList line

mutual

/-- An entry with its branches. -/
def branch (before : String) (last : Bool) : Outline → Except Fault (List String)
  | .entry title reference below => do
    let text ← label title reference
    let inside ← branches (before ++ guideBelow last) below
    pure (labelLines before last text ++ inside)

/-- Some entries below the same one. -/
def branches (before : String) : List Outline → Except Fault (List String)
  | [] => .ok []
  | first :: rest => do
    let above ← branch before rest.isEmpty first
    let others ← branches before rest
    pure (above ++ others)

end

/-- An outline below a title. -/
def ofOutline (title : String) (entries : List Outline) : Except Fault (List String) :=
  (branches "" entries).map fun lines =>
    (splitLines (Markup.styled "bold" title.toList)).map String.ofList ++ lines

/-- Some columns filled with a character. -/
def fill (count : Nat) (character : Char) : String :=
  String.ofList (List.replicate count character)

/-- A text filled up with spaces. -/
def padded (columns : Nat) (text : List Char) : String :=
  String.ofList text ++ fill (columns - Text.width text) ' '

/-- A text in the middle; an odd space goes to its right. -/
def centred (columns : Nat) (text : String) : String :=
  let free := columns - Text.width text.toList
  fill (free / 2) ' ' ++ text ++ fill (free - free / 2) ' '

/-- The width of the widest line of some cells. -/
def widest (cells : List (List (List Char))) : Nat :=
  (cells.flatten.map Text.width).foldl max 0

/-- A line of two cells between bars. -/
def line (bar : String) (first second : Nat) (cells : List Char × List Char) : String :=
  bar ++ " " ++ padded first cells.1 ++ " " ++ bar ++ " " ++ padded second cells.2 ++ " " ++ bar

/-- A line of the box: its left end, the crossing, its right end and what is between. -/
def border (left crossing right : String) (between : Char) (first second : Nat) : String :=
  left ++ fill (first + 2) between ++ crossing ++ fill (second + 2) between ++ right

/-- The lines of a row, as many as its longer cell has. -/
def row (first second : Nat) (cells : List (List Char) × List (List Char)) : List String :=
  (List.range (max cells.1.length cells.2.length)).map fun index =>
    line "│" first second ((cells.1[index]?).getD [], (cells.2[index]?).getD [])

/-- A grid of two columns under a title. -/
def grid (title : String) (header : String × String) (rows : List (String × String)) :
    List String :=
  let cell (text : String) : List (List Char) := splitLines (Markup.unstyled text.toList)
  let cells := rows.map fun entry => (cell entry.1, cell entry.2)
  let first := widest ([header.1.toList] :: cells.map (·.1))
  let second := widest ([header.2.toList] :: cells.map (·.2))
  centred (first + second + 7) title ::
    border "┏" "┳" "┓" '━' first second ::
    line "┃" first second (header.1.toList, header.2.toList) ::
    border "┡" "╇" "┩" '━' first second ::
    cells.flatMap (row first second) ++
    [border "└" "┴" "┘" '─' first second]

end Folio.Drawing
