import Gapfill.Text.Columns
import Gapfill.Text.Split

/-!
# Tables as text

A table has a head and rows of cells, and a cell has one or more lines. Every column is as wide as
its widest line, with a blank on either side. A cell keeps to the left and to the top of its place.
-/

namespace Gapfill

/-- A table with a head, where every row has as many cells as the head. -/
structure Table where
  head : List String
  rows : List (List String)
deriving DecidableEq

namespace Table

def cellLines (cell : String) : List String := (splitLines cell.toList).map String.ofList

/-- The columns of the widest line of a cell. -/
def cellWidth (cell : String) : Nat := ((cellLines cell).map columns).foldl max 0

def widths (table : Table) : List Nat :=
  table.rows.foldl (fun widths row => List.zipWith max widths (row.map cellWidth))
    (table.head.map cellWidth)

def repeated (c : Char) (count : Nat) : String := String.ofList (List.replicate count c)

/-- A line from edge to edge, with a cross between the columns. -/
def rule (edge line cross : Char) (widths : List Nat) : String :=
  String.singleton edge ++
    (String.singleton cross).intercalate (widths.map fun width => repeated line (width + 2)) ++
    String.singleton edge

def rowLine (widths : List Nat) (texts : List String) : String :=
  "|" ++ "|".intercalate
    (List.zipWith (fun width text => " " ++ text ++ repeated ' ' (width - columns text + 1)) widths
      texts) ++ "|"

/-- The lines of a row: as many as the highest cell has. -/
def rowLines (widths : List Nat) (row : List String) : List String :=
  let cells := row.map cellLines
  let height := (cells.map List.length).foldl max 0
  (List.range height).map fun i => rowLine widths (cells.map fun lines => lines.getD i "")

def lines (table : Table) : List String :=
  let widths := table.widths
  let border := rule '+' '-' '+' widths
  [border] ++ rowLines widths table.head ++ [rule '+' '=' '=' widths] ++
    [rule '|' '-' '+' widths].intercalate (table.rows.map (rowLines widths)) ++ [border]

/-- The table, without a newline behind its last line. -/
def text (table : Table) : String := "\n".intercalate table.lines

end Table

end Gapfill
