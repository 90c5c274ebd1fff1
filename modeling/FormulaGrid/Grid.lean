/-
# Rectangles of entries

A grid has at least one row and one column, and all its rows have the same length. It
grows and shrinks by its last row or column, and keeps one of each.

What an operation does is said by `get?`, the entry at an address. An entry exists exactly
inside the bounds (`isSome_get?`), and changing one leaves the others (`get?_modify`).
-/

import FormulaGrid.Address

namespace FormulaGrid

/-- A rectangle of entries, never empty. -/
structure Grid (α : Type) where
  lines : Array (Array α)
  cols : Nat
  rows_pos : 0 < lines.size
  cols_pos : 0 < cols
  size_line : ∀ (i : Nat) (h : i < lines.size), lines[i].size = cols

namespace Grid

variable {α β : Type}

/-- The number of rows. -/
def rows (g : Grid α) : Nat := g.lines.size

/-- Whether an address lies in the grid. -/
def inBounds (g : Grid α) (a : Address) : Bool := a.row < g.rows && a.col < g.cols

/-- The entry at an address, if it lies in the grid. -/
def get? (g : Grid α) (a : Address) : Option α := g.lines[a.row]?.bind (·[a.col]?)

/-- **There is an entry exactly inside the bounds.** -/
theorem isSome_get? (g : Grid α) (a : Address) : (g.get? a).isSome = g.inBounds a := by
  unfold get? inBounds rows
  by_cases h : a.row < g.lines.size
  · have hs := g.size_line a.row h
    by_cases hc : a.col < g.cols
    · simp [h, hc, hs]
    · simp [h, hc, hs]
  · simp [h]

/-- Two grids with the same rows are the same. -/
theorem ext_lines {g k : Grid α} (h : g.lines = k.lines) : g = k := by
  obtain ⟨lines, cols, hr, hc, hs⟩ := g
  obtain ⟨lines', cols', hr', hc', hs'⟩ := k
  obtain rfl : lines = lines' := h
  obtain rfl : cols = cols' := by rw [← hs 0 hr, ← hs' 0 hr]
  rfl

/-- The grid of a number of rows and columns, both at least one, filled with one entry. -/
def filled (rows cols : Nat) (hr : 0 < rows) (hc : 0 < cols) (x : α) : Grid α where
  lines := Array.replicate rows (Array.replicate cols x)
  cols := cols
  rows_pos := by simpa using hr
  cols_pos := hc
  size_line := by simp

/-- The grid of given rows, if there are any and all have the same length, not zero. -/
def ofLists? (rows : List (List α)) : Option (Grid α) :=
  match rows with
  | [] => none
  | first :: rest =>
    if h : 0 < first.length ∧ ∀ row ∈ rest, row.length = first.length then
      some
        { lines := ((first :: rest).map List.toArray).toArray
          cols := first.length
          rows_pos := by simp
          cols_pos := h.1
          size_line := by
            intro i hi
            simp only [List.getElem_toArray, List.getElem_map, List.size_toArray]
            match i with
            | 0 => rfl
            | i + 1 => exact h.2 _ (List.getElem_mem _) }
    else none

/-- The rows of a grid. -/
def toLists (g : Grid α) : List (List α) := g.lines.toList.map Array.toList

/-- The grid with every entry changed by a function. -/
def map (f : α → β) (g : Grid α) : Grid β where
  lines := g.lines.map (·.map f)
  cols := g.cols
  rows_pos := by simpa using g.rows_pos
  cols_pos := g.cols_pos
  size_line := by simpa using g.size_line

/-- The grid with one entry changed by a function; nothing changes outside the bounds. -/
def modify (g : Grid α) (a : Address) (f : α → α) : Grid α where
  lines := g.lines.modify a.row (·.modify a.col f)
  cols := g.cols
  rows_pos := by simpa using g.rows_pos
  cols_pos := g.cols_pos
  size_line := by
    intro i h
    rw [Array.getElem_modify]
    split <;> simp [g.size_line i (by simpa using h)]

/-- The entry after a function was applied to one. -/
theorem get?_modify (g : Grid α) (a b : Address) (f : α → α) :
    (g.modify a f).get? b = if a = b then (g.get? b).map f else g.get? b := by
  obtain ⟨r, c⟩ := a
  obtain ⟨r', c'⟩ := b
  simp only [get?, modify, Array.getElem?_modify, Address.mk.injEq]
  by_cases hr : r = r'
  · subst hr
    cases g.lines[r]? with
    | none => simp
    | some line => by_cases hc : c = c' <;> simp [hc, Array.getElem?_modify]
  · simp [hr]

/-- The grid with one more row, of copies of an entry, at the end. -/
def addRow (g : Grid α) (x : α) : Grid α where
  lines := g.lines.push (Array.replicate g.cols x)
  cols := g.cols
  rows_pos := by simp
  cols_pos := g.cols_pos
  size_line := by
    intro i h
    rw [Array.getElem_push]
    split
    · exact g.size_line i _
    · simp

/-- The grid with one more column, of copies of an entry, at the end. -/
def addColumn (g : Grid α) (x : α) : Grid α where
  lines := g.lines.map (·.push x)
  cols := g.cols + 1
  rows_pos := by simpa using g.rows_pos
  cols_pos := Nat.succ_pos _
  size_line := by
    intro i h
    simp [g.size_line i (by simpa using h)]

/-- The grid without its last row, unless that is its only one. -/
def dropRow? (g : Grid α) : Option (Grid α) :=
  if h : 1 < g.lines.size then
    some
      { lines := g.lines.pop
        cols := g.cols
        rows_pos := by rw [Array.size_pop]; omega
        cols_pos := g.cols_pos
        size_line := by
          intro i hi
          rw [Array.getElem_pop]
          exact g.size_line i _ }
  else none

/-- The grid without its last column, unless that is its only one. -/
def dropColumn? (g : Grid α) : Option (Grid α) :=
  if h : 1 < g.cols then
    some
      { lines := g.lines.map (·.pop)
        cols := g.cols - 1
        rows_pos := by simpa using g.rows_pos
        cols_pos := by omega
        size_line := by
          intro i hi
          simp [g.size_line i (by simpa using hi)] }
  else none

/-- **The addresses of a grid**, row by row. -/
def addresses (g : Grid α) : List Address :=
  (List.range g.rows).flatMap fun row => (List.range g.cols).map fun col => ⟨row, col⟩

/-- The addresses are those inside the bounds. -/
theorem mem_addresses {g : Grid α} {a : Address} : a ∈ g.addresses ↔ g.inBounds a = true := by
  obtain ⟨row, col⟩ := a
  simp [addresses, inBounds]

end Grid
end FormulaGrid
