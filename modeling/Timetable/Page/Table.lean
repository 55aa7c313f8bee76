import Timetable.Page.Lines

/-!
Tables with a title, a row of headings and rows of cells. A column is as wide as its widest cell, and a
title is broken into lines of the width of the table. Main definition: `Table.lines`.
-/
namespace Timetable.Page

/-- A table. Rows have as many cells as there are headings. -/
structure Table where
  title : List Char
  headings : List (List Char)
  rows : List (List (List Char))
  deriving DecidableEq, Repr

namespace Table

/-- The characters at which a cell is measured line by line. -/
def endsLine (c : Char) : Bool :=
  let n := c.toNat
  (Nat.ble 0x0a n && Nat.ble n 0x0d) || (Nat.ble 0x1c n && Nat.ble n 0x1e) || n == 0x85 ||
    n == 0x2028 || n == 0x2029

def cellWidth (cell : List Char) : Nat :=
  ((cell.splitOnP endsLine).map Text.width).foldl max 0

/-- The widths of the columns: of the headings, and then of one row after the other. -/
def columnWidths (t : Table) : List Nat :=
  t.rows.foldl (fun widths row => List.zipWith max widths (row.map cellWidth))
    (t.headings.map cellWidth)

def width (t : Table) : Nat :=
  t.columnWidths.foldl (fun n w => n + w + 3) 1

def border (left fill middle right : Char) (widths : List Nat) : List Char :=
  left :: Text.joinWith [middle] (widths.map fun w => List.replicate (w + 2) fill) ++ [right]

/-- One line of a row: the pieces of the cells between bars. -/
def barLine (bar : Char) (widths : List Nat) (pieces : List (List Char)) : List Char :=
  bar :: Text.joinWith [bar] (List.zipWith (fun w p => ' ' :: padRight w p ++ [' ']) widths pieces) ++
    [bar]

def rowLines (bar : Char) (widths : List Nat) (row : List (List Char)) : List (List Char) :=
  let cells := List.zipWith (wrap .ellipsis) widths row
  let height := (cells.map List.length).foldl max 1
  (List.range height).map fun k => barLine bar widths (cells.map fun lines => lines.getD k [])

def lines (t : Table) : List (List Char) :=
  let widths := t.columnWidths
  (wrap .fold t.width t.title).map (center t.width) ++
    border '┏' '━' '┳' '┓' widths ::
    rowLines '┃' widths t.headings ++
    border '┡' '━' '╇' '┩' widths ::
    t.rows.flatMap (rowLines '│' widths) ++
    [border '└' '─' '┴' '┘' widths]

end Table

end Timetable.Page
