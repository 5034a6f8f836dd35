import CredentialVault.Text.Width

/-!
# Grids

A grid shows rows of cells in columns with lines around them. A column is as wide as its widest line
of text, and a cell with line feeds takes several lines.
-/

namespace CredentialVault.Text

/-- A table of texts under a header. -/
structure Grid where
  /-- The titles of the columns. -/
  header : List String
  /-- The rows; each has a cell for each column. -/
  rows : List (List String)
deriving DecidableEq, Repr

namespace Grid

/-- The lines of a cell. -/
def cellLines (cell : String) : List String := cell.splitOn "\n"

/-- The width of a cell. -/
def cellWidth (cell : String) : Nat :=
  (cellLines cell).foldl (fun width line => max width (columns line)) 0

/-- The widths of the columns. -/
def widths (grid : Grid) : List Nat :=
  grid.rows.foldl (fun ws row => List.zipWith (fun w cell => max w (cellWidth cell)) ws row)
    (grid.header.map cellWidth)

/-- A character some number of times. -/
def run (c : Char) (count : Nat) : String := String.ofList (List.replicate count c)

/-- A line of one cell, with a space on each side, filled up to a width. -/
def padLine (width : Nat) (line : String) : String :=
  " " ++ line ++ run ' ' (width - columns line + 1)

/-- The lines of a row. -/
def rowLines (ws : List Nat) (row : List String) : List String :=
  let cells := row.map cellLines
  let height := cells.foldl (fun height lines => max height lines.length) 0
  (List.range height).map fun i =>
    let padded := List.zipWith (fun w lines => padLine w (lines.getD i "")) ws cells
    "|" ++ "|".intercalate padded ++ "|"

/-- A line across the grid that is crossed by the lines between the columns. -/
def rule (ends : String) (ws : List Nat) : String :=
  ends ++ "+".intercalate (ws.map fun w => run '-' (w + 2)) ++ ends

/-- The line under the header. -/
def headerRule (ws : List Nat) : String :=
  "+" ++ run '=' (ws.foldl (fun total w => total + (w + 3)) 0 - 1) ++ "+"

/-- The lines of the grid. -/
def lines (grid : Grid) : List String :=
  let ws := grid.widths
  let rows := grid.rows.map (rowLines ws)
  [rule "+" ws] ++ rowLines ws grid.header ++ [headerRule ws] ++
    [rule "|" ws].intercalate rows ++ [rule "+" ws]

/-- The text of the grid, in which each line ends with a line feed. -/
def render (grid : Grid) : String :=
  String.join (grid.lines.map (· ++ "\n"))

end Grid

end CredentialVault.Text
