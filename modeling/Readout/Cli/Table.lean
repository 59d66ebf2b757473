/-
# Tables in text

A table has a row of headings and rows of cells below it, in frames of box characters.  A cell may have
several lines; a row is as high as its highest cell.  A column is as wide as its widest line, with a
blank on each side; dashed lines stand between columns and rows, a double line below the headings.
-/
import Readout.Text.Parts
import Readout.Text.Width

namespace Readout.Cli.Table

/-! ## 1. Cells -/

/-- The lines of a cell. -/
def cellLines (cell : String) : List (List Char) := Text.parts '\n' cell.toList

/-- The places that a cell takes: those of its widest line. -/
def width (cell : String) : Nat := ((cellLines cell).map Text.lineWidth).max?.getD 0

/-- The width of each column: that of its widest cell. -/
def columnWidths (rows : List (List String)) : List Nat :=
  rows.foldl (fun widths row => List.zipWith max (row.map width) widths)
    (List.replicate ((rows.map List.length).max?.getD 0) 0)

/-- How many lines a row has: as many as its highest cell. -/
def height (cells : List String) : Nat := (cells.map fun cell => (cellLines cell).length).max?.getD 0

/-! ## 2. Lines -/

/-- A text repeated. -/
def times (n : Nat) (s : String) : String := String.join (List.replicate n s)

/-- A line between rows, from its parts: left end, filling, crossing, right end. -/
def rule (left fill cross right : String) (widths : List Nat) : String :=
  left ++ cross.intercalate (widths.map fun w => times (w + 2) fill) ++ right

/-- A line of a cell, filled with blanks up to a width, with one more on each side.  Below its last
line a cell is blank. -/
def cellLine (i w : Nat) (cell : String) : String :=
  let line := (cellLines cell).getD i []
  " " ++ String.ofList line ++ times (w - Text.lineWidth line) " " ++ " "

/-- The lines of a row of cells. -/
def row (widths : List Nat) (cells : List String) : List String :=
  (List.range (height cells)).map fun i =>
    "│" ++ "┆".intercalate (List.zipWith (cellLine i) widths cells) ++ "│"

/-- The lines of a table. -/
def lines (headings : List String) (rows : List (List String)) : List String :=
  let widths := columnWidths (headings :: rows)
  let body := (rows.map (row widths)).intersperse [rule "├" "╌" "┼" "┤" widths]
  [rule "┌" "─" "┬" "┐" widths] ++ row widths headings ++ [rule "╞" "═" "╪" "╡" widths] ++
    body.flatten ++ [rule "└" "─" "┴" "┘" widths]

end Readout.Cli.Table
