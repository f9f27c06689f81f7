import RepoVitals.Text.Width
/-!
Ruled tables of plain characters.

Owns:
- cells, which may have several lines and stand to the left or to the right;
- the widths of the columns, which are as narrow as their widest line;
- the lines of a table, with rules above, below and between its rows.

Widths are counted in columns of a terminal.
-/

namespace RepoVitals.Text

/-- On which side of its column a cell stands. -/
inductive Side where
  | left
  | right
  deriving DecidableEq

/-- A cell: its lines and its side. -/
structure Cell where
  lines : List (List Char)
  side : Side
  deriving DecidableEq

namespace Cell

/-- Cut a text at its line breaks. -/
def splitLines : List Char → List (List Char)
  | [] => [[]]
  | letter :: rest =>
    match splitLines rest with
    | [] => [[letter]]
    | first :: others =>
      if letter = '\n' then [] :: first :: others else (letter :: first) :: others

/-- A cell with a text. -/
def ofText (side : Side) (content : String) : Cell :=
  ⟨splitLines content.toList, side⟩

/-- The number of columns of the widest line. -/
def width (cell : Cell) : Nat :=
  cell.lines.foldl (fun widest line => max widest (lineWidth line)) 0

/-- One line of the cell, filled up to the width of its column and with a blank on both sides; a
line that the cell does not have is blank. -/
def renderLine (cell : Cell) (columnWidth position : Nat) : List Char :=
  let line := cell.lines.getD position []
  let filling := List.replicate (columnWidth - lineWidth line) ' '
  let filled :=
    match cell.side with
    | .left => line ++ filling
    | .right => filling ++ line
  ' ' :: filled ++ [' ']

end Cell

/-- A table: its header and its rows, all of the same length. -/
structure Table where
  header : List Cell
  rows : List (List Cell)

namespace Table

/-- The larger width of each column. -/
def widen (widths : List Nat) (row : List Cell) : List Nat :=
  List.zipWith (fun width cell => max width cell.width) widths row

/-- The widths of the columns. -/
def widths (table : Table) : List Nat :=
  table.rows.foldl widen (table.header.map Cell.width)

/-- Pieces with a character in front of the first, between two, and after the last. -/
def joined (before between after : Char) (pieces : List (List Char)) : List Char :=
  before :: [between].intercalate pieces ++ [after]

/-- A rule across all columns. -/
def rule (before between after stroke : Char) (widths : List Nat) : List Char :=
  joined before between after (widths.map (fun width => List.replicate (width + 2) stroke))

/-- The lines of a row: as many as its highest cell has. -/
def rowLines (widths : List Nat) (row : List Cell) : List (List Char) :=
  let height := row.foldl (fun highest cell => max highest cell.lines.length) 1
  (List.range height).map (fun position =>
    joined '|' '|' '|'
      (List.zipWith (fun width cell => cell.renderLine width position) widths row))

/-- The lines of all rows, with a rule between two of them. -/
def bodyLines (widths : List Nat) : List (List Cell) → List (List Char)
  | [] => []
  | [last] => rowLines widths last
  | row :: next :: rest =>
    rowLines widths row ++ rule '|' '+' '|' '-' widths :: bodyLines widths (next :: rest)

/-- The lines of the table. -/
def lines (table : Table) : List String :=
  let widths := table.widths
  let border := rule '+' '+' '+' '-' widths
  let all := border :: rowLines widths table.header ++ rule '+' '=' '+' '=' widths ::
    bodyLines widths table.rows ++ [border]
  all.map String.ofList

end Table

end RepoVitals.Text
