import PlanarPipe.Text.Width

/-!
# Tables

A table of one row under a header, drawn with box characters. Every cell has a blank on both sides and
is as wide as the widest cell of its column; a cell with several lines makes the row as high. A table is
as wide as its cells want it: how long cells are broken on a terminal that is too narrow is left out.
-/

namespace PlanarPipe.Text

def cellLines (cell : String) : List String := (cell.toList.splitOn '\n').map String.ofList

def cellWidth (cell : String) : Nat := ((cellLines cell).map width).foldr max 0

/-- A text filled up with blanks to a number of columns. -/
def fill (columns : Nat) (text : String) : String := text.pushn ' ' (columns - width text)

/-- One line across all cells, between upright rules. -/
def tableLine (widths : List Nat) (texts : List String) : String :=
  let cells := List.zipWith (fun w t => s!" {fill w t} ") widths texts
  "│" ++ "┆".intercalate cells ++ "│"

/-- The lines of a row of cells. -/
def tableRow (widths : List Nat) (cells : List String) : List String :=
  let columns := cells.map cellLines
  let height := (columns.map List.length).foldr max 0
  (List.range height).map fun i => tableLine widths (columns.map fun lines => lines[i]?.getD "")

def tableRule (left : String) (line : Char) (cross right : String) (widths : List Nat) : String :=
  left ++ cross.intercalate (widths.map fun w => "".pushn line (w + 2)) ++ right

/-- A table of one row under a header. -/
def table (header row : List String) : String :=
  let widths := List.zipWith (fun h r => max (cellWidth h) (cellWidth r)) header row
  "\n".intercalate <|
    [tableRule "┌" '─' "┬" "┐" widths] ++ tableRow widths header ++
    [tableRule "╞" '═' "╪" "╡" widths] ++ tableRow widths row ++
    [tableRule "└" '─' "┴" "┘" widths]

end PlanarPipe.Text
