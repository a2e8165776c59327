import ProxyHistory.Text.Width

/-!
# Tables

Records of cells drawn in a frame: columns as wide as their widest cell, a blank on either side of
each cell, and a line between two records.
-/

namespace ProxyHistory.Table

/-- The lines of a cell. -/
def cellLines (cell : Text) : List Text :=
  cell.splitOn '\n'

/-- The width of a cell. -/
def cellWidth (cell : Text) : Nat :=
  ((cellLines cell).map Text.width).foldl max 0

/-- The widths of the columns that a record takes at least. -/
def widen : List Nat → List Text → List Nat
  | width :: widths, cell :: cells => max width (cellWidth cell) :: widen widths cells
  | [], cells => cells.map cellWidth
  | widths, [] => widths

/-- The widths of the columns of records. -/
def columnWidths (records : List (List Text)) : List Nat :=
  records.foldl widen []

/-- A line of the frame, with the given characters at its start, between its columns and at its
end. -/
def border (left between right : Char) (widths : List Nat) : Text :=
  left :: List.intercalate [between] (widths.map fun width => List.replicate (width + 2) '─') ++
    [right]

/-- A text filled up to a width. -/
def fill (width : Nat) (text : Text) : Text :=
  text ++ List.replicate (width - Text.width text) ' '

/-- The number of lines of a record. -/
def height (record : List Text) : Nat :=
  (record.map fun cell => (cellLines cell).length).foldl max 1

/-- A line of a record, of which the given number come before it. -/
def contentLine (widths : List Nat) (record : List Text) (index : Nat) : Text :=
  let parts := (widths.zip record).map fun (width, cell) =>
    ' ' :: fill width ((cellLines cell).getD index []) ++ [' ']
  '│' :: List.intercalate ['│'] parts ++ ['│']

/-- The lines of a record. -/
def contentLines (widths : List Nat) (record : List Text) : List Text :=
  (List.range (height record)).map (contentLine widths record)

/-- The lines of a table. Without columns there are none. -/
def lines (records : List (List Text)) : List Text :=
  let widths := columnWidths records
  if widths.isEmpty then
    []
  else
    let separated := (records.map (contentLines widths)).intersperse [border '├' '┼' '┤' widths]
    border '┌' '┬' '┐' widths :: separated.flatten ++ [border '└' '┴' '┘' widths]

/-- The text of a table. -/
def render (records : List (List Text)) : Text :=
  List.intercalate ['\n'] (lines records)

end ProxyHistory.Table
