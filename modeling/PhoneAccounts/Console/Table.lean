import PhoneAccounts.Console.Line

/-!
Contract: a table with a heavy head and light rows.

A column is as wide as its widest cell, its heading among them, and one blank at each
side.  A cell of several lines makes its row taller; the other cells of the row have their
text at the top.

Owns: `Column`, `Table` and `Table.lines`.

Does not own: what the cells say.
-/

namespace PhoneAccounts.Console

/-- A column: its heading, and the side at which its cells stand. -/
structure Column where
  heading : List Char
  side : Side := .left

/-- Columns, and rows that have a cell for each of them. -/
structure Table where
  columns : List Column
  rows : List (List (List Char))

namespace Table

/-- The characters of a horizontal line: at the left end, between the columns, at the right
end, and along the columns. -/
structure Edge where
  left : Char
  between : Char
  right : Char
  along : Char

/-- The line above the headings. -/
def topEdge : Edge := ⟨'┏', '┳', '┓', '━'⟩

def headEdge : Edge := ⟨'┡', '╇', '┩', '━'⟩

def bottomEdge : Edge := ⟨'└', '┴', '┘', '─'⟩

def joinWith (between : Char) : List (List Char) → List Char
  | [] => []
  | [part] => part
  | part :: parts => part ++ between :: joinWith between parts

/-- A horizontal line over columns of the given widths. -/
def Edge.line (edge : Edge) (widths : List Nat) : List Char :=
  let parts := widths.map fun width => List.replicate (width + 2) edge.along
  edge.left :: joinWith edge.between parts ++ [edge.right]

/-- Width of the column at a place, without the blanks at its sides. -/
def columnWidth (table : Table) (place : Nat) (column : Column) : Nat :=
  (table.rows.map fun row => textWidth ((row[place]?).getD [])).foldl max
    (textWidth column.heading)

def widths (table : Table) : List Nat :=
  table.columns.zipIdx.map fun (column, place) => table.columnWidth place column

def cellLines (side : Side) (width : Nat) (text : List Char) : List (List Char) :=
  (textLines width text).map (pad side width)

def rowLine (bar : Char) (widths : List Nat) (cells : List (List (List Char))) (height : Nat) :
    List Char :=
  let parts := (cells.zip widths).map fun (lines, width) =>
    ' ' :: (lines[height]?).getD (List.replicate width ' ') ++ [' ']
  bar :: joinWith bar parts ++ [bar]

def rowLines (bar : Char) (columns : List (Column × Nat)) (row : List (List Char)) :
    List (List Char) :=
  let cells := (columns.zip row).map fun ((column, width), text) =>
    cellLines column.side width text
  let height := (cells.map List.length).foldl max 1
  (List.range height).map (rowLine bar (columns.map Prod.snd) cells)

def lines (table : Table) : List (List Char) :=
  let widths := table.widths
  let columns := table.columns.zip widths
  topEdge.line widths :: rowLines '┃' columns (table.columns.map Column.heading) ++
    headEdge.line widths :: table.rows.flatMap (rowLines '│' columns) ++
    [bottomEdge.line widths]

end Table

end PhoneAccounts.Console
