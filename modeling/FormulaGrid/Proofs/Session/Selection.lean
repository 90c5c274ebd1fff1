/-
# The selected cell

The selected cell is always a cell of the sheet, and the window always shows it
(`SelectionShown`). Rows and columns do not matter to one another: in each direction a place is
to be less than a count and to lie in a window of some size (`InView`).

What brings a place into view is `follow`. It takes a size from a number only where the number is
at least as great, so it may as well be done with a subtraction that has no answer below zero
(`follow?_eq`). Whatever changes the selection or the window ends with it; what makes the sheet
smaller also moves the selection back first. So the selection is shown after any keys, calls and
changes of the window, in any order (`selectionShown_acted`).
-/

import FormulaGrid.Proofs.Sheet.Extent
import FormulaGrid.Proofs.Session.Events
import Mathlib.Data.Nat.PSub

namespace FormulaGrid
namespace Session

/-! ## One direction -/

/-- **A place in view:** it is one of `count`, and one of the `size` that are shown from `first`
on. -/
structure InView (place first size count : Nat) : Prop where
  lt_count : place < count
  size_pos : 0 < size
  first_le : first ≤ place
  lt_end : place < first + size

section
variable {place first size count : Nat}

/-- To follow a place is to have it in view. -/
theorem inView_follow (hplace : place < count) (hsize : 0 < size) :
    InView place (follow place first size) size count :=
  ⟨hplace, hsize, (follow_bounds hsize).1, (follow_bounds hsize).2⟩

/-- A place stays in view if there are not fewer. -/
theorem InView.mono {count' : Nat} (h : InView place first size count) (hcount : count ≤ count') :
    InView place first size count' :=
  ⟨Nat.lt_of_lt_of_le h.lt_count hcount, h.size_pos, h.first_le, h.lt_end⟩

/-- What is in view need not be moved to. -/
theorem InView.min_first (h : InView place first size count) : min first place = first :=
  Nat.min_eq_left h.first_le

/-- A number that was moved is less than the count. -/
theorem moved_lt (n : Nat) (distance : Int) (hcount : 0 < count) :
    moved n distance count < count := by
  have hle : moved n distance count ≤ count - 1 := Nat.min_le_right _ _
  omega

/-- `follow` with a subtraction that has no answer below zero. -/
def follow? (selected first size : Nat) : Option Nat :=
  if selected < first then some selected
  else if first + size ≤ selected then Nat.psub (selected + 1) size
  else some first

/-- **To follow a place takes nothing from a smaller number.** -/
theorem follow?_eq (selected first size : Nat) :
    follow? selected first size = some (follow selected first size) := by
  rw [follow?, follow]
  split
  · rfl
  · split
    · next hend =>
      have hle : size ≤ selected + 1 := by omega
      exact Nat.psub_eq_sub hle
    · rfl

end

/-! ## Both directions -/

/-- **The selected cell is in the sheet and in the window.** -/
structure SelectionShown (s : Session) : Prop where
  row : InView s.selected.row s.scroll.row s.viewRows s.sheet.rows
  col : InView s.selected.col s.scroll.col s.viewCols s.sheet.cols

/-- Scrolling with a subtraction that has no answer below zero. -/
def showSelected? (s : Session) : Option Session := do
  let row ← follow? s.selected.row s.scroll.row s.viewRows
  let col ← follow? s.selected.col s.scroll.col s.viewCols
  pure { s with scroll := ⟨row, col⟩ }

/-- **Scrolling takes nothing from a smaller number.** -/
theorem showSelected?_eq (s : Session) : s.showSelected? = some s.showSelected := by
  simp only [showSelected?, follow?_eq]
  rfl

variable {s : Session}

/-- The window shows the selected cell after scrolling to it. -/
theorem selectionShown_showSelected (hrow : s.selected.row < s.sheet.rows)
    (hcol : s.selected.col < s.sheet.cols) (hrows : 0 < s.viewRows) (hcols : 0 < s.viewCols) :
    s.showSelected.SelectionShown :=
  ⟨inView_follow hrow hrows, inView_follow hcol hcols⟩

/-- A moved selection is shown, wherever it was before. -/
theorem selectionShown_move (rows cols : Int) (hrows : 0 < s.viewRows) (hcols : 0 < s.viewCols) :
    (s.move rows cols).SelectionShown :=
  selectionShown_showSelected (moved_lt _ _ s.sheet.cells.rows_pos)
    (moved_lt _ _ s.sheet.cells.cols_pos) hrows hcols

/-- The selection is shown in a sheet that has become smaller. -/
theorem selectionShown_clampSelection (hrows : 0 < s.viewRows) (hcols : 0 < s.viewCols) :
    s.clampSelection.SelectionShown := by
  have h := selectionShown_move (s := s) 0 0 hrows hcols
  refine ⟨?_, ?_⟩
  · rw [clampSelection, h.row.min_first]
    exact h.row
  · rw [clampSelection, h.col.min_first]
    exact h.col

/-- The first cell is shown at the window's first place. -/
theorem selectionShown_first (hselected : s.selected = ⟨0, 0⟩) (hscroll : s.scroll = ⟨0, 0⟩)
    (hrows : 0 < s.viewRows) (hcols : 0 < s.viewCols) : s.SelectionShown := by
  have hr := s.sheet.cells.rows_pos
  have hc := s.sheet.cells.cols_pos
  constructor
  · rw [hselected, hscroll]
    exact ⟨hr, hrows, Nat.le_refl _, by simpa using hrows⟩
  · rw [hselected, hscroll]
    exact ⟨hc, hcols, Nat.le_refl _, by simpa using hcols⟩

namespace SelectionShown

/-- The selection stays shown in a sheet that is not smaller. -/
theorem of_extent (h : s.SelectionShown) (sheet : Sheet) (hrows : s.sheet.rows ≤ sheet.rows)
    (hcols : s.sheet.cols ≤ sheet.cols) : ({ s with sheet } : Session).SelectionShown :=
  ⟨h.row.mono hrows, h.col.mono hcols⟩

/-- A new text for the selected cell leaves it where it is. -/
theorem setSelected (h : s.SelectionShown) (text : String) :
    (s.setSelected text).SelectionShown := by
  obtain ⟨hrows, hcols⟩ := s.sheet.extent_update s.selected text
  exact h.of_extent _ (Nat.le_of_eq hrows.symm) (Nat.le_of_eq hcols.symm)

/-- A row more. -/
theorem addRow (h : s.SelectionShown) : s.addRow.SelectionShown := by
  have hsheet := s.sheet.resized_addRow
  have h' := h.of_extent s.sheet.addRow (by rw [hsheet.rows]; omega) (by rw [hsheet.cols])
  exact ⟨h'.row, h'.col⟩

/-- A column more. -/
theorem addColumn (h : s.SelectionShown) : s.addColumn.SelectionShown := by
  have hsheet := s.sheet.resized_addColumn
  have h' := h.of_extent s.sheet.addColumn (by rw [hsheet.rows]) (by rw [hsheet.cols]; omega)
  exact ⟨h'.row, h'.col⟩

/-- A row less, if there is one to spare. -/
theorem deleteRow (h : s.SelectionShown) : s.deleteRow.SelectionShown := by
  rw [Session.deleteRow]
  cases s.sheet.deleteRow? with
  | some sheet => exact selectionShown_clampSelection h.row.size_pos h.col.size_pos
  | none => exact ⟨h.row, h.col⟩

/-- A column less, if there is one to spare. -/
theorem deleteColumn (h : s.SelectionShown) : s.deleteColumn.SelectionShown := by
  rw [Session.deleteColumn]
  cases s.sheet.deleteColumn? with
  | some sheet => exact selectionShown_clampSelection h.row.size_pos h.col.size_pos
  | none => exact ⟨h.row, h.col⟩

/-- All values computed anew. -/
theorem recalculate (h : s.SelectionShown) : s.recalculate.SelectionShown := by
  obtain ⟨hrows, hcols⟩ := s.sheet.extent_recalculate
  have h' := h.of_extent s.sheet.recalculate (Nat.le_of_eq hrows.symm) (Nat.le_of_eq hcols.symm)
  exact ⟨h'.row, h'.col⟩

/-- The cell below is selected, if there is one. -/
theorem finishEditing (h : s.SelectionShown) : s.finishEditing.SelectionShown := by
  have hcleared : ({ s with input := "" } : Session).SelectionShown := ⟨h.row, h.col⟩
  have h' := hcleared.setSelected s.input
  rw [Session.finishEditing]
  generalize ({ s with input := "" } : Session).setSelected s.input = t at h' ⊢
  split
  · next hbelow =>
    have hshown := selectionShown_showSelected
      (s := { t with selected := ⟨t.selected.row + 1, t.selected.col⟩ })
      hbelow h'.col.lt_count h'.row.size_pos h'.col.size_pos
    exact ⟨hshown.row, hshown.col⟩
  · exact ⟨h'.row, h'.col⟩

/-- A saved sheet is the one that is shown. -/
theorem saved (h : s.SelectionShown) (path : String) (failure : Option StorageError) :
    (s.saved path failure).SelectionShown := by
  cases failure <;> exact ⟨h.row, h.col⟩

/-- A loaded sheet is shown from its first cell on. -/
theorem loaded (h : s.SelectionShown) (path : String) (failure : Option StorageError) :
    (s.loaded path failure).SelectionShown := by
  cases failure with
  | none => exact selectionShown_first rfl rfl h.row.size_pos h.col.size_pos
  | some e => exact ⟨h.row, h.col⟩

/-! ## Keys -/

/-- A key with control in normal mode. -/
theorem pressControl (h : s.SelectionShown) (k : Key) : (s.pressControl k).SelectionShown := by
  fun_cases Session.pressControl s k with
  | case1 | case2 => exact ⟨h.row, h.col⟩
  | case3 => exact h.addRow
  | case4 => exact h.deleteRow
  | case5 => exact h.addColumn
  | case6 => exact h.deleteColumn
  | case7 => exact ⟨h.row, h.col⟩
  | case8 => exact h

/-- A key without control in normal mode. -/
theorem pressPlain (h : s.SelectionShown) (k : Key) : (s.pressPlain k).SelectionShown := by
  fun_cases Session.pressPlain s k with
  | case1 | case2 | case3 | case4 | case5 | case6 | case7 | case8 =>
    exact selectionShown_move _ _ h.row.size_pos h.col.size_pos
  | case9 | case10 | case11 | case15 | case16 | case17 => exact ⟨h.row, h.col⟩
  | case12 | case13 => exact h.setSelected ""
  | case14 => exact h.recalculate
  | case18 => exact h

/-- A key while a cell is edited. -/
theorem pressEditing (h : s.SelectionShown) (k : Key) : (s.pressEditing k).SelectionShown := by
  by_cases hk : k = .enter
  · rw [hk]
    exact h.finishEditing
  · obtain ⟨_, _, _, -, heq⟩ := pressEditing_eq (s := s) hk
    rw [heq]
    exact ⟨h.row, h.col⟩

/-- A key while a file name is asked for. -/
theorem pressName (h : s.SelectionShown) (k : Key) : (s.pressName k).SelectionShown := by
  obtain ⟨_, _, _, -, heq⟩ := pressName_eq s k
  rw [heq]
  exact ⟨h.row, h.col⟩

/-- A file name was given to save to. -/
theorem saveNamed (h : s.SelectionShown) (d : Disk) : (s.saveNamed d).1.SelectionShown := by
  rcases saveNamed_cases s d with ⟨_, -, heq⟩ | ⟨_, -, heq⟩
  · rw [heq]
    exact h.saved s.typedFileName none
  · rw [heq]
    exact ⟨h.row, h.col⟩

/-- A file name was given to load from. -/
theorem loadNamed (h : s.SelectionShown) (d : Disk) : (s.loadNamed d).SelectionShown := by
  rcases loadNamed_cases s d with ⟨sheet, -, heq⟩ | ⟨_, -, heq⟩
  · rw [heq]
    exact selectionShown_first rfl rfl h.row.size_pos h.col.size_pos
  · rw [heq]
    exact ⟨h.row, h.col⟩

/-- **Any key in any mode.** -/
theorem press (h : s.SelectionShown) (d : Disk) (k : KeyPress) : (s.press d k).1.SelectionShown := by
  rw [Session.press]
  cases s.mode with
  | normal =>
    have hsilent : ({ s with status := none } : Session).SelectionShown := ⟨h.row, h.col⟩
    dsimp only [pressNormal]
    split
    · exact h.pressControl _
    · exact hsilent.pressPlain _
  | editing => exact h.pressEditing _
  | help =>
    obtain ⟨_, _, -, heq⟩ := pressHelp_eq s k.key
    rw [heq]
    exact ⟨h.row, h.col⟩
  | saveAs =>
    dsimp only
    split
    · exact h.saveNamed d
    · exact h.pressName _
  | loadFile =>
    dsimp only
    split
    · exact h.loadNamed d
    · exact h.pressName _
  | confirmExit =>
    dsimp only [pressConfirm, answerExit]
    split <;> exact ⟨h.row, h.col⟩

end SelectionShown

/-! ## Sessions that are acted on -/

/-- The first cell of a new session is shown. -/
theorem selectionShown_start (sheet : Sheet) : (start sheet).SelectionShown :=
  selectionShown_first rfl rfl (Nat.succ_pos _) (Nat.succ_pos _)

/-- **Every action leaves the selection shown.** -/
theorem SelectionShown.apply (h : s.SelectionShown) (a : Action) : (a.apply s).SelectionShown := by
  cases a with
  | event e =>
    cases e with
    | press k disk => exact h.press disk k
    | resize rows cols =>
      exact selectionShown_showSelected h.row.lt_count h.col.lt_count
        (Nat.lt_of_lt_of_le Nat.one_pos (Nat.le_max_right _ _))
        (Nat.lt_of_lt_of_le Nat.one_pos (Nat.le_max_right _ _))
  | move rows cols => exact selectionShown_move _ _ h.row.size_pos h.col.size_pos
  | showSelected =>
    exact selectionShown_showSelected h.row.lt_count h.col.lt_count h.row.size_pos h.col.size_pos
  | addRow => exact h.addRow
  | deleteRow => exact h.deleteRow
  | addColumn => exact h.addColumn
  | deleteColumn => exact h.deleteColumn
  | recalculate => exact h.recalculate
  | finishEditing => exact h.finishEditing
  | saved path failure => exact h.saved path failure
  | loaded path failure => exact h.loaded path failure
  | answerExit yes => cases yes <;> exact ⟨h.row, h.col⟩
  | toggleView | startEditing | cancelEditing | askSave | askLoad | closePrompt | askExit =>
    exact ⟨h.row, h.col⟩

/-- The selection of a session that was used is shown. -/
theorem selectionShown_used (sheet : Sheet) (events : List Event) :
    (used sheet events).SelectionShown := by
  induction events using List.reverseRecOn with
  | nil => exact selectionShown_start sheet
  | append_singleton events e ih =>
    rw [used_concat]
    exact ih.apply (.event e)

/-- **The selected cell is always in the sheet and in the window,** whatever is done to a session
and in whatever order, and scrolling never takes anything from a smaller number. -/
theorem selectionShown_acted (sheet : Sheet) (actions : List Action) :
    (acted sheet actions).SelectionShown ∧ ∀ s : Session, s.showSelected? = some s.showSelected := by
  refine ⟨?_, showSelected?_eq⟩
  have hstart := selectionShown_start sheet
  rw [acted]
  generalize start sheet = s at hstart
  induction actions generalizing s with
  | nil => exact hstart
  | cons a actions ih => exact ih _ (hstart.apply a)

end Session
end FormulaGrid
