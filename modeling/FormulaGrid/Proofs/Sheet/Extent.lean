/-
# Sheets that grow and shrink

A sheet that gets or loses its last row or column keeps the text of every cell that it has before
and afterwards, and a cell that it gets is empty (`Resized`). Only the last row or column of
several can be deleted. A pass over the cells and a new text leave the extent alone.
-/

import FormulaGrid.Proofs.Sheet.Update

namespace FormulaGrid
namespace Sheet

/-- **A sheet of another extent:** its cells hold the texts that they held before, and those that
it did not have are empty. -/
structure Resized (s t : Sheet) (rows cols : Nat) : Prop where
  rows : t.rows = rows
  cols : t.cols = cols
  text : ∀ a, t.inBounds a = true → t.text a = s.text a
  view : t.formulaView = s.formulaView

/-- **A sheet with one other text.** -/
structure Retexted (s t : Sheet) (a : Address) (text : String) : Prop where
  rows : t.rows = s.rows
  cols : t.cols = s.cols
  text : t.text? a = some text
  others : ∀ b, b ≠ a → t.text? b = s.text? b
  view : t.formulaView = s.formulaView

variable {s t : Sheet} {a : Address} {rows cols : Nat} {text : String}

/-- Sheets with cells at the same places have the same extent. -/
theorem extent_eq (h : ∀ a, t.inBounds a = s.inBounds a) : t.rows = s.rows ∧ t.cols = s.cols :=
  Grid.extent_eq fun a => by
    rw [Grid.isSome_get?, Grid.isSome_get?]
    exact h a

/-- Recalculation changes no bounds. -/
theorem inBounds_recalculate (s : Sheet) (a : Address) :
    s.recalculate.inBounds a = s.inBounds a := by
  rw [← isSome_text?, text?_recalculate, isSome_text?]

/-- Recalculation keeps the extent. -/
theorem extent_recalculate (s : Sheet) :
    s.recalculate.rows = s.rows ∧ s.recalculate.cols = s.cols :=
  extent_eq s.inBounds_recalculate

/-- An update keeps the extent. -/
theorem extent_update (s : Sheet) (a : Address) (text : String) :
    ((s.update? a text).getD s).rows = s.rows ∧ ((s.update? a text).getD s).cols = s.cols :=
  extent_eq (s.inBounds_update a text)

/-- An update keeps the view. -/
theorem formulaView_update (s : Sheet) (a : Address) (text : String) :
    ((s.update? a text).getD s).formulaView = s.formulaView := by
  rw [update?]
  cases s.text? a with
  | none => rfl
  | some old =>
    by_cases hold : old = text
    · simp [hold]
    · simp [hold, formulaView_recalculate]

/-- **An update changes one text.** -/
theorem retexted_update (h : s.inBounds a = true) (text : String) :
    s.Retexted ((s.update? a text).getD s) a text where
  rows := (s.extent_update a text).1
  cols := (s.extent_update a text).2
  text := by
    obtain ⟨old, hold⟩ := Option.isSome_iff_exists.1 ((s.isSome_text? a).trans h)
    rw [text?_update, hold]
    simp
  others b hb := by
    rw [text?_update]
    simp [hb.symm]
  view := s.formulaView_update a text

/-- Recalculation does not matter to what has become of the texts. -/
theorem Resized.recalculate (h : s.Resized t rows cols) : s.Resized t.recalculate rows cols where
  rows := t.extent_recalculate.1.trans h.rows
  cols := t.extent_recalculate.2.trans h.cols
  text a ha := by
    rw [inBounds_recalculate] at ha
    rw [Sheet.text, text?_recalculate]
    exact h.text a ha
  view := t.formulaView_recalculate.trans h.view

/-- **A sheet gets an empty row.** -/
theorem resized_addRow (s : Sheet) : s.Resized s.addRow (s.rows + 1) s.cols := by
  refine Resized.recalculate ⟨Array.size_push _, rfl, fun a ha => ?_, rfl⟩
  rw [Sheet.text, Sheet.text, text?, text?, Grid.get?_addRow]
  by_cases hnew : a.row = s.cells.rows ∧ a.col < s.cells.cols
  · have hout : s.cells.inBounds a = false := by simp [Grid.inBounds, hnew.1]
    rw [if_pos hnew, Grid.get?_eq_none hout]
    rfl
  · rw [if_neg hnew]

/-- **A sheet gets an empty column.** -/
theorem resized_addColumn (s : Sheet) : s.Resized s.addColumn s.rows (s.cols + 1) := by
  refine Resized.recalculate ⟨Array.size_map, rfl, fun a ha => ?_, rfl⟩
  rw [Sheet.text, Sheet.text, text?, text?, Grid.get?_addColumn]
  by_cases hnew : a.row < s.cells.rows ∧ a.col = s.cells.cols
  · have hout : s.cells.inBounds a = false := by simp [Grid.inBounds, hnew.2]
    rw [if_pos hnew, Grid.get?_eq_none hout]
    rfl
  · rw [if_neg hnew]

/-- **A sheet of several rows loses the last one.** -/
theorem resized_of_deleteRow? (h : s.deleteRow? = some t) :
    1 < s.rows ∧ s.Resized t (s.rows - 1) s.cols := by
  obtain ⟨g, hg, rfl⟩ := Option.map_eq_some_iff.1 h
  obtain ⟨hrows, hcols⟩ := Grid.extent_of_dropRow? hg
  refine ⟨Grid.exists_dropRow?_iff.1 ⟨g, hg⟩, Resized.recalculate ⟨hrows, hcols, fun a ha => ?_, rfl⟩⟩
  have hrow : a.row < g.rows := by
    simp only [inBounds, Grid.inBounds, Bool.and_eq_true, decide_eq_true_eq] at ha
    exact ha.1
  rw [Sheet.text, Sheet.text, text?, text?, Grid.get?_of_dropRow? hg, if_pos hrow]

/-- **A sheet of several columns loses the last one.** -/
theorem resized_of_deleteColumn? (h : s.deleteColumn? = some t) :
    1 < s.cols ∧ s.Resized t s.rows (s.cols - 1) := by
  obtain ⟨g, hg, rfl⟩ := Option.map_eq_some_iff.1 h
  obtain ⟨hrows, hcols⟩ := Grid.extent_of_dropColumn? hg
  refine ⟨Grid.exists_dropColumn?_iff.1 ⟨g, hg⟩,
    Resized.recalculate ⟨hrows, hcols, fun a ha => ?_, rfl⟩⟩
  have hcol : a.col < g.cols := by
    simp only [inBounds, Grid.inBounds, Bool.and_eq_true, decide_eq_true_eq] at ha
    exact ha.2
  rw [Sheet.text, Sheet.text, text?, text?, Grid.get?_of_dropColumn? hg, if_pos hcol]

/-- The only row stays. -/
theorem deleteRow?_eq_none_iff : s.deleteRow? = none ↔ ¬ 1 < s.rows := by
  rw [deleteRow?, Option.map_eq_none_iff, ← Option.not_isSome_iff_eq_none,
    Option.isSome_iff_exists, Grid.exists_dropRow?_iff]
  rfl

/-- The only column stays. -/
theorem deleteColumn?_eq_none_iff : s.deleteColumn? = none ↔ ¬ 1 < s.cols := by
  rw [deleteColumn?, Option.map_eq_none_iff, ← Option.not_isSome_iff_eq_none,
    Option.isSome_iff_exists, Grid.exists_dropColumn?_iff]
  rfl

end Sheet
end FormulaGrid
