/-
# Sheets

A sheet is a grid of cells and a view: it shows either the values of its cells or their
texts. Only the texts matter to what a sheet computes.
-/

import FormulaGrid.Grid
import FormulaGrid.Sheet.Cell

namespace FormulaGrid

/-- A grid of cells, showing values or, in formula view, texts. -/
structure Sheet where
  cells : Grid Cell
  formulaView : Bool

namespace Sheet

/-- The number of rows. -/
def rows (s : Sheet) : Nat := s.cells.rows

/-- The number of columns. -/
def cols (s : Sheet) : Nat := s.cells.cols

/-- Whether an address lies in the sheet. -/
def inBounds (s : Sheet) (a : Address) : Bool := s.cells.inBounds a

/-- The text of a cell, if there is a cell. -/
def text? (s : Sheet) (a : Address) : Option String := (s.cells.get? a).map Cell.text

/-- There is a text exactly inside the bounds. -/
theorem isSome_text? (s : Sheet) (a : Address) : (s.text? a).isSome = s.inBounds a := by
  simp [text?, inBounds, Grid.isSome_get?]

/-- The value last computed for a cell, empty outside the sheet. -/
def value (s : Sheet) (a : Address) : Value := ((s.cells.get? a).map Cell.value).getD .empty

/-- The text of a cell, empty outside the sheet. -/
def text (s : Sheet) (a : Address) : String := (s.text? a).getD ""

/-- **What is shown of a cell:** its text in formula view, else its value. -/
def shown (s : Sheet) (a : Address) : String :=
  if s.formulaView then s.text a else (s.value a).shown

/-- A sheet of empty cells; no rows or columns count as one. -/
def blank (rows cols : Nat) : Sheet :=
  ⟨Grid.filled (max rows 1) (max cols 1) (by omega) (by omega) Cell.blank, false⟩

/-- The number of rows, and of columns, of a sheet if nothing else is said. -/
def usualExtent : Nat := 20

/-- The sheet if nothing else is said. -/
def usual : Sheet := blank usualExtent usualExtent

/-- The sheet with given texts, row by row, nothing computed yet. There is none if the rows
are no rectangle or there is no cell. -/
def ofTexts? (rows : List (List String)) : Option Sheet :=
  (Grid.ofLists? rows).map fun g => ⟨g.map Cell.ofText, false⟩

/-- The texts of a sheet, row by row. -/
def texts (s : Sheet) : List (List String) := (s.cells.map Cell.text).toLists

/-- Whether two sheets have the same texts, the same values and the same view. -/
def same (s t : Sheet) : Bool :=
  s.texts == t.texts && s.cells.addresses.all (fun a => (s.value a).same (t.value a)) &&
    s.formulaView == t.formulaView

/-- The sheet with the other view. -/
def toggleView (s : Sheet) : Sheet := { s with formulaView := !s.formulaView }

end Sheet
end FormulaGrid
