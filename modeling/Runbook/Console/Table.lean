import Runbook.Console.Wrap
import Runbook.Number.Binary64

/-!
# Tables on a console

A table has a title, a header, and rows between drawn lines. Each column is as wide as its widest
cell; when the console is too narrow, the widest columns give way first, and what does not fit in a
cell is broken into lines or cut. A column without a cell between its blanks shows nothing.
-/

namespace Runbook.Console

/-- A column: its head, and where its cells stand. -/
structure Column where
  head : List Char
  place : Justify
  deriving Repr

/-- The cells that the widest line of a text takes. -/
def textNeeds (s : List Char) : Nat :=
  ((Text.lines (dropControls s)).map fun line =>
    width (line.filter fun c => !Text.isLineBreak c)).foldl max 0

/-- The cells that a text needs with so many blanks around it, where there are `limit` cells; if
none is left for the text, it needs them all. -/
def cellNeeds (limit blanks : Nat) (s : List Char) : Nat :=
  if limit < blanks + 1 then limit else min limit (textNeeds s + blanks)

/-- Takes from the values in proportion to the ratios, at most the maximum each, the shares rounded
to the nearest number one after the other. -/
def reduceBy (total ratioSum maximum : Nat) : List Nat → List Nat → List Nat
  | ratio :: ratios, value :: values =>
    if ratio = 0 ∨ ratioSum = 0 then value :: reduceBy total ratioSum maximum ratios values
    else
      let share := min maximum (Binary64.divideEven (ratio * total) ratioSum)
      (value - share) :: reduceBy (total - share) (ratioSum - ratio) maximum ratios values
  | _, values => values

/-- Narrows the widest columns step by step until the columns fit. -/
def collapse (fuel limit : Nat) (widths : List Nat) : List Nat :=
  match fuel with
  | 0 => widths
  | fuel + 1 =>
    let excess := sumOf widths - limit
    if excess = 0 then widths
    else
      let widest := widths.foldl max 0
      let second := (widths.filter (· != widest)).foldl max 0
      let ratios := widths.map fun w => if w = widest then 1 else 0
      if widest = second then widths
      else
        collapse fuel limit
          (reduceBy excess (sumOf ratios) (min excess (widest - second)) ratios widths)

/-- The widths of columns on a console that leaves them so many cells; a column needs at least
one. -/
def columnWidths (limit : Nat) (needs : List Nat) : List Nat :=
  let natural := needs.map (max 1)
  if sumOf natural ≤ limit then natural else collapse (sumOf natural + 1) limit natural

/-- The lines of a cell in a column of the given width, with a blank at either side. -/
def cellLines (cells : Nat) (place : Justify) (s : List Char) : List Line :=
  if cells ≤ 2 then []
  else
    (wrap (cells - 2) .ellipsis s).map fun line =>
      [' '] :: Line.fill (cells - 2) [justify (cells - 2) .ellipsis place line] ++ [[' ']]

/-- The lines with a bar between neighbours and at both ends. -/
def barred (left middle right : Char) (lines : List Line) : Line :=
  [left] :: [[middle]].intercalate lines ++ [[right]]

/-- A drawn line across the table. -/
def rule (left line middle right : Char) (widths : List Nat) : Line :=
  barred left middle right (widths.map fun w => [List.replicate w line])

/-- The lines of a row: its cells side by side, short ones filled with blanks below. -/
def rowLines (bar : Char) (widths : List Nat) (columns : List Column) (row : List (List Char)) :
    List Line :=
  let cells := (widths.zip (columns.zip row)).map fun (w, column, text) =>
    (w, cellLines w column.place text)
  let height := (cells.map fun cell => cell.2.length).foldl max 1
  (List.range height).map fun n =>
    barred bar bar bar (cells.map fun (w, lines) => (lines[n]?).getD (Line.fill w []))

/-- The lines of a table on a console of the given width. -/
def tableLines (cells : Nat) (title : List Char) (columns : List Column)
    (rows : List (List (List Char))) : List Line :=
  let extra := columns.length + 1
  let limit := cells - extra
  let needs := columns.mapIdx fun n column =>
    ((column.head :: rows.map fun row => row.getD n []).map (cellNeeds limit 2)).foldl max 0
  let widths := columnWidths limit needs
  let total := sumOf widths + extra
  (wrap total .fold title).map (fun line => [justify total .fold .center line])
    ++ rule '┏' '━' '┳' '┓' widths :: rowLines '┃' widths columns (columns.map Column.head)
    ++ rule '┡' '━' '╇' '┩' widths :: rows.flatMap (rowLines '│' widths columns)
    ++ [rule '└' '─' '┴' '┘' widths]

end Runbook.Console
