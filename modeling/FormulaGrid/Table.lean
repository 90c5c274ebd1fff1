/-
# Sheets as tables of text

A sheet is printed as one line for the column letters and one for each row. A line starts
with the row's number, aligned to the right, and has each cell after a space, a bar and a
space, filled up with spaces to the width of its column: the length of the longest text in
it, the letters included. Lengths are counted in characters. Blanks at the end of a line
are left out, and every line ends in a line feed.

      | A | B
    1 | 5 | 10

Texts are filled up to 65535 characters at most. A sheet with a wider column is not printed.
-/

import FormulaGrid.Sheet.Basic

namespace FormulaGrid
namespace Table

/-- A text filled up with spaces after it. -/
def padRight (width : Nat) (cs : List Char) : List Char :=
  cs ++ List.replicate (width - cs.length) ' '

/-- A text filled up with spaces before it. -/
def padLeft (width : Nat) (cs : List Char) : List Char :=
  List.replicate (width - cs.length) ' ' ++ cs

/-- A text filled up has at least the width asked for. -/
theorem length_padRight (width : Nat) (cs : List Char) :
    (padRight width cs).length = max cs.length width := by
  simp only [padRight, List.length_append, List.length_replicate]
  omega

/-- What stands between two columns. -/
def bar : List Char := [' ', '|', ' ']

/-- The letters of a column, counted from zero. -/
def heading (col : Nat) : List Char := Column.letters (col + 1)

/-- What a cell shows. -/
def entry (s : Sheet) (row col : Nat) : List Char := (s.shown ⟨row, col⟩).toList

/-- The width of a column. -/
def width (s : Sheet) (col : Nat) : Nat :=
  ((List.range s.rows).map fun row => (entry s row col).length).foldl max (heading col).length

/-- The width of the row numbers. -/
def labelWidth (s : Sheet) : Nat := (Nat.toDigits 10 s.rows).length

/-- A line before the blanks at its end are left out: a label, and a text for each column. -/
def fullLine (widths : List Nat) (label : List Char) (texts : List (List Char)) : List Char :=
  label ++ (List.zipWith padRight widths texts).flatMap (bar ++ ·)

/-- A line without the blanks at its end, and its line feed. -/
def line (widths : List Nat) (label : List Char) (texts : List (List Char)) : List Char :=
  Text.trimEnd (fullLine widths label texts) ++ ['\n']

/-- The line of the column letters. -/
def headingLine (s : Sheet) (widths : List Nat) : List Char :=
  line widths (padRight (labelWidth s) []) ((List.range s.cols).map heading)

/-- The line of a row. -/
def rowLine (s : Sheet) (widths : List Nat) (row : Nat) : List Char :=
  line widths (padLeft (labelWidth s) (Nat.toDigits 10 (row + 1)))
    ((List.range s.cols).map (entry s row))

/-- **A sheet as a table.** -/
def ofSheet (s : Sheet) : String :=
  let widths := (List.range s.cols).map (width s)
  String.ofList
    (headingLine s widths ++ (List.range s.rows).flatMap (rowLine s widths))

/-- The greatest width that a text is filled up to. -/
def maxWidth : Nat := 0xFFFF

/-- **A sheet as it is printed,** if none of its columns is too wide. -/
def print? (s : Sheet) : Option String :=
  if (List.range s.cols).all fun col => width s col ≤ maxWidth then some (ofSheet s) else none

end Table
end FormulaGrid
