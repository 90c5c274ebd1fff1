/-
# Grids as functions of addresses

A grid is known by its entries: two grids with the same entries at the same addresses have
the same extent and are the same (`Grid.ext_get?`). The rows of a grid as lists say the same
as `get?`, and all of them have the length that the grid has columns. A grid that grows or shrinks
by its last row or column keeps all other entries (`get?_addRow`, `get?_of_dropRow?`).
-/

import FormulaGrid.Grid

namespace FormulaGrid
namespace Grid

variable {α β : Type}

/-- The entry of a grid that was changed everywhere. -/
theorem get?_map (f : α → β) (g : Grid α) (a : Address) :
    (g.map f).get? a = (g.get? a).map f := by
  rw [get?, get?, map, Array.getElem?_map]
  cases g.lines[a.row]? with
  | none => rfl
  | some line => simp

/-- A grid that was changed everywhere has as many rows. -/
theorem rows_map (f : α → β) (g : Grid α) : (g.map f).rows = g.rows := by
  rw [rows, map, Array.size_map, rows]

/-- All entries of a filled grid are the one it is filled with. -/
theorem eq_of_get?_filled {rows cols : Nat} (hr : 0 < rows) (hc : 0 < cols) {x y : α} {a : Address}
    (h : (filled rows cols hr hc x).get? a = some y) : y = x := by
  obtain ⟨line, hline, hy⟩ := Option.bind_eq_some_iff.1 h
  rw [filled, Array.getElem?_replicate] at hline
  split at hline
  · cases hline
    rw [Array.getElem?_replicate] at hy
    split at hy
    · exact (Option.some.inj hy).symm
    · cases hy
  · cases hline

/-- There is no entry outside the bounds. -/
theorem get?_eq_none {g : Grid α} {a : Address} (h : g.inBounds a = false) : g.get? a = none := by
  rw [← isSome_get?] at h
  exact Option.isNone_iff_eq_none.1 (Option.isSome_eq_false_iff.1 h)

/-- The entry is the one in the list of rows. -/
theorem get?_eq_toLists (g : Grid α) (a : Address) :
    g.get? a = g.toLists[a.row]?.bind (·[a.col]?) := by
  rw [get?, toLists, List.getElem?_map, Array.getElem?_toList]
  cases g.lines[a.row]? <;> simp

/-- There are as many lists as rows. -/
theorem length_toLists (g : Grid α) : g.toLists.length = g.rows := by
  simp [toLists, rows]

/-- **All rows have the same length.** -/
theorem length_of_mem_toLists {g : Grid α} {row : List α} (h : row ∈ g.toLists) :
    row.length = g.cols := by
  obtain ⟨line, hline, rfl⟩ := List.mem_map.1 h
  obtain ⟨i, hi, rfl⟩ := Array.mem_iff_getElem.1 (Array.mem_toList_iff.1 hline)
  exact g.size_line i hi

/-- The entry inside the bounds. -/
theorem get?_of_lt {g : Grid α} {r c : Nat} (hr : r < g.lines.size) (hc : c < g.lines[r].size) :
    g.get? ⟨r, c⟩ = some g.lines[r][c] := by
  simp [get?, hr, hc]

/-- Grids with the same entries have the same bounds. -/
theorem extent_eq {g : Grid α} {k : Grid β} (h : ∀ a, (g.get? a).isSome = (k.get? a).isSome) :
    g.rows = k.rows ∧ g.cols = k.cols := by
  have hin : ∀ r c, (r < g.rows ∧ c < g.cols) ↔ r < k.rows ∧ c < k.cols := by
    intro r c
    have := h ⟨r, c⟩
    rw [isSome_get?, isSome_get?, Bool.eq_iff_iff] at this
    simpa [inBounds] using this
  have hrows := hin g.rows 0
  have hrows' := hin k.rows 0
  have hcols := hin 0 g.cols
  have hcols' := hin 0 k.cols
  have hg : 0 < g.rows ∧ 0 < g.cols := ⟨g.rows_pos, g.cols_pos⟩
  have hk : 0 < k.rows ∧ 0 < k.cols := ⟨k.rows_pos, k.cols_pos⟩
  omega

/-- **Grids with the same entries are the same.** -/
theorem ext_get? {g k : Grid α} (h : ∀ a, g.get? a = k.get? a) : g = k := by
  obtain ⟨hrows, hcols⟩ := extent_eq fun a => congrArg Option.isSome (h a)
  refine ext_lines (Array.ext hrows fun r hr hr' => ?_)
  have hg := g.size_line r hr
  have hk := k.size_line r hr'
  refine Array.ext (by omega) fun c hc hc' => ?_
  have := h ⟨r, c⟩
  rw [get?_of_lt hr hc, get?_of_lt hr' hc'] at this
  exact Option.some.inj this

/-! ## Growing and shrinking -/

/-- The entries of a grid with one more row. -/
theorem get?_addRow (g : Grid α) (x : α) (a : Address) :
    (g.addRow x).get? a = if a.row = g.rows ∧ a.col < g.cols then some x else g.get? a := by
  rw [get?, get?, addRow, Array.getElem?_push, rows]
  by_cases hr : a.row = g.lines.size
  · by_cases hc : a.col < g.cols <;> simp [hr, hc]
  · simp [hr]

/-- The entries of a grid with one more column. -/
theorem get?_addColumn (g : Grid α) (x : α) (a : Address) :
    (g.addColumn x).get? a = if a.row < g.rows ∧ a.col = g.cols then some x else g.get? a := by
  rw [get?, get?, addColumn, Array.getElem?_map, rows]
  by_cases hr : a.row < g.lines.size
  · have hsize := g.size_line a.row hr
    by_cases hc : a.col = g.cols <;> simp [hr, hc, Array.getElem?_push, Array.getElem_push, hsize]
  · simp [hr]

/-- A grid of more than one row can lose the last one. -/
theorem exists_dropRow?_iff {g : Grid α} :
    (∃ k, g.dropRow? = some k) ↔ 1 < g.rows := by
  rw [dropRow?, rows]
  split <;> simp [*]

/-- A grid of more than one column can lose the last one. -/
theorem exists_dropColumn?_iff {g : Grid α} :
    (∃ k, g.dropColumn? = some k) ↔ 1 < g.cols := by
  rw [dropColumn?]
  split <;> simp [*]

/-- The extent of a grid without its last row. -/
theorem extent_of_dropRow? {g k : Grid α} (h : g.dropRow? = some k) :
    k.rows = g.rows - 1 ∧ k.cols = g.cols := by
  rw [dropRow?] at h
  split at h
  · cases h
    exact ⟨Array.size_pop, rfl⟩
  · cases h

/-- The extent of a grid without its last column. -/
theorem extent_of_dropColumn? {g k : Grid α} (h : g.dropColumn? = some k) :
    k.rows = g.rows ∧ k.cols = g.cols - 1 := by
  rw [dropColumn?] at h
  split at h
  · cases h
    exact ⟨Array.size_map, rfl⟩
  · cases h

/-- The entries of a grid without its last row. -/
theorem get?_of_dropRow? {g k : Grid α} (h : g.dropRow? = some k) (a : Address) :
    k.get? a = if a.row < k.rows then g.get? a else none := by
  rw [dropRow?] at h
  split at h
  · cases h
    simp only [get?, rows, Array.getElem?_pop, Array.size_pop]
    split <;> simp
  · cases h

/-- The entries of a grid without its last column. -/
theorem get?_of_dropColumn? {g k : Grid α} (h : g.dropColumn? = some k) (a : Address) :
    k.get? a = if a.col < k.cols then g.get? a else none := by
  rw [dropColumn?] at h
  split at h
  · cases h
    simp only [get?, Array.getElem?_map]
    by_cases hr : a.row < g.lines.size
    · have hsize := g.size_line a.row hr
      simp [hr, Array.getElem?_pop, hsize]
    · simp [hr]
  · cases h

/-! ## Rows -/

/-- **Rows that are a rectangle** of some rows and columns. -/
def IsRectangle (rows cols : Nat) (lists : List (List α)) : Prop :=
  0 < rows ∧ 0 < cols ∧ lists.length = rows ∧ ∀ row ∈ lists, row.length = cols

/-- The rows of a grid are a rectangle. -/
theorem isRectangle_toLists (g : Grid α) : IsRectangle g.rows g.cols g.toLists :=
  ⟨g.rows_pos, g.cols_pos, g.length_toLists, fun _ h => length_of_mem_toLists h⟩

/-- The rows of a grid are those that it was made of. -/
theorem toLists_of_ofLists? {g : Grid α} {lists : List (List α)} (h : ofLists? lists = some g) :
    g.toLists = lists := by
  cases lists with
  | nil => cases h
  | cons first rest =>
    rw [ofLists?] at h
    split at h
    · cases h
      simp [toLists, Function.comp_def]
    · cases h

/-- **A grid can be made of rows** exactly if they are a rectangle. -/
theorem exists_ofLists?_iff {lists : List (List α)} :
    (∃ g, ofLists? lists = some g) ↔ ∃ rows cols, IsRectangle rows cols lists := by
  constructor
  · rintro ⟨g, h⟩
    exact ⟨_, _, toLists_of_ofLists? h ▸ g.isRectangle_toLists⟩
  · rintro ⟨rows, cols, hrows, hcols, rfl, hlength⟩
    cases lists with
    | nil => cases hrows
    | cons first rest =>
      obtain ⟨rfl, hrest⟩ := List.forall_mem_cons.1 hlength
      rw [ofLists?, dif_pos ⟨hcols, hrest⟩]
      exact ⟨_, rfl⟩

end Grid
end FormulaGrid
