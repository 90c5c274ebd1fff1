/-
# Changing sheets

Every change of a text or of the extent is followed by a pass over all cells, row by row,
that stores the value of each cell anew. The pass reads texts only, so it does not matter
that some cells already hold new values while others still hold old ones.

Rows and columns come and go at the end.
-/

import FormulaGrid.Sheet.Evaluate

namespace FormulaGrid
namespace Sheet

/-- Stores a value in a cell. -/
def setValue (s : Sheet) (a : Address) (v : Value) : Sheet :=
  { s with cells := s.cells.modify a fun c => { c with value := v } }

/-- Stores the value of one cell anew. -/
def refresh (s : Sheet) (a : Address) : Sheet := s.setValue a (s.valueOf a)

/-- **Stores the value of every cell anew**, row by row. -/
def recalculate (s : Sheet) : Sheet := s.cells.addresses.foldl refresh s

/-- Changes the text of a cell. Nothing happens outside the sheet, or if the cell has that
text already. -/
def update? (s : Sheet) (a : Address) (text : String) : Option Sheet :=
  match s.text? a with
  | none => none
  | some old =>
    if old = text then none
    else some ({ s with cells := s.cells.modify a fun c => { c with text := text } }).recalculate

/-- Adds a row of empty cells. -/
def addRow (s : Sheet) : Sheet := ({ s with cells := s.cells.addRow Cell.blank }).recalculate

/-- Adds a column of empty cells. -/
def addColumn (s : Sheet) : Sheet :=
  ({ s with cells := s.cells.addColumn Cell.blank }).recalculate

/-- Deletes the last row, unless it is the only one. -/
def deleteRow? (s : Sheet) : Option Sheet :=
  s.cells.dropRow?.map fun g => ({ s with cells := g }).recalculate

/-- Deletes the last column, unless it is the only one. -/
def deleteColumn? (s : Sheet) : Option Sheet :=
  s.cells.dropColumn?.map fun g => ({ s with cells := g }).recalculate

/-- Takes over the cells of another sheet and keeps the view. -/
def replaceCells (s other : Sheet) : Sheet := ({ s with cells := other.cells }).recalculate

end Sheet
end FormulaGrid
