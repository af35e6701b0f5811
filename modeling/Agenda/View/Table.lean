import Agenda.Text.Width

/-!
# Tables of text

A table has a head row and body rows of cells. Each column is as wide as its widest line, each row
as high as its highest cell, and cells are aligned to the left. Frames are drawn in ASCII.
-/

namespace Agenda.View

/-- The lines of a cell. A line break at the end starts one more line. -/
def cellLines (cell : String) : List (List Char) := cell.toList.splitOn '\n'

/-- A row as the lines of each of its cells. -/
abbrev Row := List (List (List Char))

/-- A row of cells. -/
def rowOf (cells : List String) : Row := cells.map cellLines

/-- The columns that a cell needs. -/
def cellWidth (cell : List (List Char)) : Nat := (cell.map Text.width).foldl max 0

/-- The widths of the columns of a table with `count` columns. -/
def columnWidths (count : Nat) (rows : List Row) : List Nat :=
  (List.range count).map fun i =>
    (rows.map fun row => cellWidth ((row[i]?).getD [])).foldl max 0

/-- A line filled up with spaces. -/
def padded (width : Nat) (line : List Char) : List Char :=
  line ++ List.replicate (width - Text.width line) ' '

/-- One printed line of a row. -/
def printedLine (widths : List Nat) (row : Row) (line : Nat) : List Char :=
  let cells := (widths.zip row).map fun (width, cell) =>
    ' ' :: padded width ((cell[line]?).getD []) ++ [' ']
  '|' :: ['|'].intercalate cells ++ ['|']

/-- The printed lines of a row, at least one. -/
def printedRow (widths : List Nat) (row : Row) : List (List Char) :=
  let height := max 1 ((row.map List.length).foldl max 0)
  (List.range height).map (printedLine widths row)

/-- A ruled line: a fill of each column's width and its margins, with marks at the ends and between
columns. -/
def ruledLine (widths : List Nat) (stop fill between : Char) : List Char :=
  stop :: [between].intercalate (widths.map fun width => List.replicate (width + 2) fill) ++ [stop]

/-- The printed lines of a table. -/
def tableLines (head : List String) (body : List (List String)) : List (List Char) :=
  let headRow := rowOf head
  let bodyRows := body.map rowOf
  let widths := columnWidths head.length (headRow :: bodyRows)
  let border := ruledLine widths '+' '-' '+'
  [border] ++ printedRow widths headRow ++ [ruledLine widths '+' '=' '='] ++
    [ruledLine widths '|' '-' '+'].intercalate (bodyRows.map (printedRow widths)) ++ [border]

/-- The text of a table, each line ended. -/
def tableText (head : List String) (body : List (List String)) : String :=
  String.ofList ((tableLines head body).flatMap (· ++ ['\n']))

end Agenda.View
