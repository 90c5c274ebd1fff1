/-
# The columns of a table

A line of a table is a label and, for each column, a block: the bar and a text filled up to the
column's width (`fullLine_eq`). The blocks of a column are equally wide in all lines, so the column
stands in the same place in all of them, behind the label and the blocks before it (`offset`).

Trimming takes the spaces off the end of a line. They are known from the widths, so a line filled up
with spaces again is laid out in columns (`LaidOut`), and **the table can be read back**
(`print?_laidOut`). This asks that spaces are the only blanks of what the cells show: another blank
at the end of a line would be taken off too, and a line feed would end the line early.
-/

import Mathlib.Data.List.Basic
import Mathlib.Order.Bounds.Basic
import FormulaGrid.Proofs.Text.Trimming
import FormulaGrid.Table

namespace FormulaGrid
namespace Table

open Text (Spaced trimEnd)

variable {s : Sheet} {label : List Char} {text : Nat → List Char} {row col : Nat}

/-! ## Widths -/

/-- **The width of a column** is the length of the longest text in it, its letters included. -/
theorem width_isGreatest (s : Sheet) (col : Nat) :
    IsGreatest {n | n = (heading col).length ∨ ∃ row < s.rows, n = (entry s row col).length}
      (width s col) := by
  have hmax : ((heading col).length ::
      (List.range s.rows).map fun row => (entry s row col).length).max? = some (width s col) :=
    List.max?_cons'
  obtain ⟨hmem, hle⟩ := List.max?_eq_some_iff.1 hmax
  constructor
  · simpa [eq_comm] using hmem
  · rintro n (rfl | ⟨row, hrow, rfl⟩)
    · exact hle _ (by simp)
    · exact hle _ (List.mem_cons_of_mem _ (List.mem_map.2 ⟨row, List.mem_range.2 hrow, rfl⟩))

/-- The letters of a column fit into it. -/
theorem length_heading_le (s : Sheet) (col : Nat) : (heading col).length ≤ width s col :=
  (width_isGreatest s col).2 (.inl rfl)

/-- What a cell shows fits into its column. -/
theorem length_entry_le (h : row < s.rows) (col : Nat) :
    (entry s row col).length ≤ width s col :=
  (width_isGreatest s col).2 (.inr ⟨row, h, rfl⟩)

/-- The number of a row fits before the first column. -/
theorem length_number_le (h : row < s.rows) :
    (Nat.toDigits 10 (row + 1)).length ≤ labelWidth s := by
  have hrows : s.rows < 10 ^ labelWidth s :=
    (Nat.length_toDigits_le_iff (by decide) Nat.length_toDigits_pos).1 le_rfl
  exact Nat.toDigits_length 10 _ _ Nat.length_toDigits_pos (by omega)

/-- The letters of a column have no blanks. -/
theorem spaced_heading (col : Nat) : Spaced (heading col) :=
  Text.spaced_of_isAlphanum fun c hc => by
    rw [Char.isAlphanum, Column.isAlpha_eq, Column.isUpper_of_mem_letters c hc]
    rfl

/-! ## Lines before they are trimmed -/

/-- A column's part of a line: the bar, and a text filled up to the column's width. -/
def block (s : Sheet) (text : Nat → List Char) (col : Nat) : List Char :=
  bar ++ padRight (width s col) (text col)

/-- Where a column begins in a line. -/
def offset (s : Sheet) (col : Nat) : Nat :=
  labelWidth s + ((List.range col).map fun k => bar.length + width s k).sum

/-- **A line is its label and the blocks of its columns.** -/
theorem fullLine_eq (s : Sheet) (label : List Char) (text : Nat → List Char) :
    fullLine ((List.range s.cols).map (width s)) label ((List.range s.cols).map text) =
      label ++ (List.range s.cols).flatMap (block s text) := by
  rw [fullLine, List.zipWith_map, List.zipWith_self, List.flatMap_map]
  rfl

/-- A block is as wide as the bar and its column. -/
theorem length_block (h : (text col).length ≤ width s col) :
    (block s text col).length = bar.length + width s col := by
  rw [block, List.length_append, length_padRight, Nat.max_eq_right h]

/-- A block adds only spaces to a text. -/
theorem spaced_block (h : Spaced (text col)) : Spaced (block s text col) := by
  have hbar : Spaced bar := by decide
  simp [block, padRight, hbar, h]

/-- The label and the blocks before a column are as long as its offset. -/
theorem length_blocks (hlabel : label.length = labelWidth s)
    (htext : ∀ k < col, (text k).length ≤ width s k) :
    (label ++ (List.range col).flatMap (block s text)).length = offset s col := by
  have hblocks : (List.range col).map (fun k => (block s text k).length) =
      (List.range col).map fun k => bar.length + width s k :=
    List.map_congr_left fun k hk => length_block (htext k (List.mem_range.1 hk))
  rw [List.length_append, List.length_flatMap, hblocks, hlabel, offset]

/-- **A column's block stands at its offset.** -/
theorem drop_fullLine (hlabel : label.length = labelWidth s)
    (htext : ∀ k < s.cols, (text k).length ≤ width s k) (hcol : col < s.cols) :
    ∃ rest, (label ++ (List.range s.cols).flatMap (block s text)).drop (offset s col) =
      block s text col ++ rest := by
  obtain ⟨n, hn⟩ : ∃ n, s.cols = col + (n + 1) := ⟨s.cols - col - 1, by omega⟩
  have hbefore := length_blocks hlabel fun k hk => htext k (hk.trans hcol)
  rw [hn, List.range_add, List.range_succ_eq_map, List.flatMap_append, ← List.append_assoc,
    ← hbefore, List.drop_left]
  simp

/-! ## Lines that are trimmed -/

/-- A line filled up again with the spaces that were taken off its end. -/
def padded (s : Sheet) (line : List Char) : List Char := padRight (offset s s.cols) line

/-- **A line is laid out in columns.** It is one line, no longer than the label and all columns, and
no space ends it. Filled up with spaces, it has the label at its front, and each column's text at
the column's place, after a bar. -/
structure LaidOut (s : Sheet) (label : List Char) (text : Nat → List Char) (line : List Char) :
    Prop where
  unbroken : '\n' ∉ line
  trimmed : line.getLast? ≠ some ' '
  length_le : line.length ≤ offset s s.cols
  label_eq : (padded s line).take (labelWidth s) = label
  bar_eq : ∀ col < s.cols, ((padded s line).drop (offset s col)).take bar.length = bar
  text_eq : ∀ col < s.cols, ((padded s line).drop (offset s col + bar.length)).take (width s col) =
    padRight (width s col) (text col)

/-- **A line that is trimmed is laid out in columns** if its texts fit into them and spaces are
its only blanks. -/
theorem laidOut_trimEnd (hlabel : label.length = labelWidth s)
    (htext : ∀ k < s.cols, (text k).length ≤ width s k) (hlabel' : Spaced label)
    (htext' : ∀ k < s.cols, Spaced (text k)) :
    LaidOut s label text (trimEnd
      (fullLine ((List.range s.cols).map (width s)) label ((List.range s.cols).map text))) := by
  rw [fullLine_eq]
  generalize hfull : label ++ (List.range s.cols).flatMap (block s text) = full
  have hlength : full.length = offset s s.cols := hfull ▸ length_blocks hlabel htext
  have hspaced : Spaced full := by
    rw [← hfull, Text.spaced_append]
    refine ⟨hlabel', fun c hc => ?_⟩
    obtain ⟨k, hk, hc⟩ := List.mem_flatMap.1 hc
    exact spaced_block (htext' k (List.mem_range.1 hk)) c hc
  have hpadded : padded s (trimEnd full) = full := by
    rw [padded, padRight, ← hlength, hspaced.trimEnd_append]
  have hdrop : ∀ col < s.cols, ∃ rest, full.drop (offset s col) = block s text col ++ rest :=
    fun col hcol => hfull ▸ drop_fullLine hlabel htext hcol
  refine ⟨fun h => hspaced.lineFeed_not_mem (Text.mem_of_mem_trimEnd h), fun h => ?_, ?_, ?_,
    fun col hcol => ?_, fun col hcol => ?_⟩
  · exact absurd (Text.isBlank_of_mem_getLast?_trimEnd h) (by decide)
  · exact (Text.length_trimEnd_le full).trans_eq hlength
  · rw [hpadded, ← hfull, ← hlabel, List.take_left]
  · obtain ⟨rest, hrest⟩ := hdrop col hcol
    rw [hpadded, hrest, block, List.append_assoc, List.take_left]
  · obtain ⟨rest, hrest⟩ := hdrop col hcol
    rw [hpadded, ← List.drop_drop, hrest, block, List.append_assoc, List.drop_left]
    exact List.take_left' ((length_padRight _ _).trans (Nat.max_eq_right (htext col hcol)))

/-! ## The table -/

/-- The line of the column letters is laid out in columns. -/
theorem laidOut_heading (s : Sheet) : ∃ line, headingLine s ((List.range s.cols).map (width s)) =
    line ++ ['\n'] ∧ LaidOut s (List.replicate (labelWidth s) ' ') heading line := by
  refine ⟨_, rfl, ?_⟩
  have hlabel : padRight (labelWidth s) [] = List.replicate (labelWidth s) ' ' := rfl
  rw [hlabel]
  exact laidOut_trimEnd List.length_replicate (fun k _ => length_heading_le s k)
    (Text.spaced_replicate _) fun k _ => spaced_heading k

/-- The line of a row is laid out in columns if spaces are the only blanks in it. -/
theorem laidOut_row (hrow : row < s.rows) (h : ∀ col < s.cols, Spaced (entry s row col)) :
    ∃ line, rowLine s ((List.range s.cols).map (width s)) row = line ++ ['\n'] ∧
      LaidOut s (padLeft (labelWidth s) (Nat.toDigits 10 (row + 1))) (entry s row) line := by
  have hlength : (padLeft (labelWidth s) (Nat.toDigits 10 (row + 1))).length = labelWidth s := by
    have := length_number_le hrow
    rw [padLeft, List.length_append, List.length_replicate]
    omega
  have hspaced : Spaced (padLeft (labelWidth s) (Nat.toDigits 10 (row + 1))) :=
    Text.spaced_append.2 ⟨Text.spaced_replicate _, Text.spaced_toDigits _⟩
  exact ⟨_, rfl, laidOut_trimEnd hlength (fun k _ => length_entry_le hrow k) hspaced h⟩

/-- A sheet is printed if no column is too wide. -/
theorem print?_eq_some_iff {t : String} : print? s = some t ↔
    (∀ col < s.cols, width s col ≤ maxWidth) ∧ ofSheet s = t := by
  simp [print?]

/-- **A printed table can be read back.** A sheet is printed unless the longest text of a column is
longer than `maxWidth`. If spaces are the only blanks that its cells show, in the one view or the
other, the table has one line for the letters and one for each row, laid out in columns: behind the
row's number, aligned to the right, each column has the same place in all lines, and there stands
what the cell shows, filled up with spaces to the width of the column. -/
theorem print?_laidOut (s : Sheet)
    (h : ∀ row < s.rows, ∀ col < s.cols, Spaced (entry s row col)) :
    ((print? s).isSome = true ↔ ∀ col < s.cols, width s col ≤ maxWidth) ∧
    (∀ col < s.cols, IsGreatest
      {n | n = (heading col).length ∨ ∃ row < s.rows, n = (entry s row col).length}
      (width s col)) ∧
    ∀ t, print? s = some t → ∃ (first : List Char) (line : Nat → List Char),
      t.toList = (first :: (List.range s.rows).map line).flatMap (· ++ ['\n']) ∧
      LaidOut s (List.replicate (labelWidth s) ' ') heading first ∧
      ∀ row < s.rows, LaidOut s (padLeft (labelWidth s) (Nat.toDigits 10 (row + 1)))
        (entry s row) (line row) := by
  refine ⟨by simp [print?], fun col _ => width_isGreatest s col, fun t ht => ?_⟩
  obtain ⟨-, rfl⟩ := print?_eq_some_iff.1 ht
  obtain ⟨first, hfirst, hfirst'⟩ := laidOut_heading s
  choose! line hline using fun row (hrow : row < s.rows) => laidOut_row hrow (h row hrow)
  have hlines : (List.range s.rows).flatMap (rowLine s ((List.range s.cols).map (width s))) =
      (List.range s.rows).flatMap fun row => line row ++ ['\n'] :=
    List.flatMap_congr fun row hrow => (hline row (List.mem_range.1 hrow)).1
  refine ⟨first, line, ?_, hfirst', fun row hrow => (hline row hrow).2⟩
  rw [ofSheet, String.toList_ofList, hfirst, hlines, List.flatMap_cons, List.flatMap_map]

/-- A square sheet that shows one text in all its cells, of which there is at least one. -/
def uniform (n : Nat) (t : String) : Sheet :=
  ⟨Grid.filled (n + 1) (n + 1) n.succ_pos n.succ_pos ⟨t, .text t⟩, false⟩

/-- All cells of such a sheet show the text. -/
theorem entry_uniform {n : Nat} {t : String} (hrow : row < n + 1) (hcol : col < n + 1) :
    entry (uniform n t) row col = t.toList := by
  simp [entry, uniform, Sheet.shown, Sheet.value, Grid.filled, Grid.get?, hrow, hcol, Value.shown]

/-- **One text that is too long,** and nothing is printed. -/
theorem print?_uniform_eq_none {n : Nat} {t : String} (h : maxWidth < t.toList.length) :
    print? (uniform n t) = none := by
  have hrow : 0 < (uniform n t).rows := Grid.rows_pos _
  have hcol : 0 < (uniform n t).cols := Grid.cols_pos _
  have hwide : maxWidth < width (uniform n t) 0 := by
    have hle := length_entry_le hrow 0
    rw [entry_uniform n.succ_pos n.succ_pos] at hle
    exact h.trans_le hle
  rw [print?, if_neg]
  simpa using ⟨0, hcol, hwide⟩

/-- A letter, written a number of times. -/
def repeated (n : Nat) : String := String.ofList (List.replicate n 'x')

/-- Its length. -/
theorem length_repeated (n : Nat) : (repeated n).toList.length = n := by
  rw [repeated, String.toList_ofList, List.length_replicate]

/-- It has no blanks. -/
theorem spaced_repeated (n : Nat) : Spaced (repeated n).toList := by
  rw [repeated, String.toList_ofList]
  refine Text.spaced_of_isBlank fun c hc => ?_
  rw [List.eq_of_mem_replicate hc]
  decide

/-- A sheet that shows no blanks, and is not printed. -/
theorem print?_uniform_repeated :
    (∀ row < (uniform 0 (repeated (maxWidth + 1))).rows,
      ∀ col < (uniform 0 (repeated (maxWidth + 1))).cols,
        Spaced (entry (uniform 0 (repeated (maxWidth + 1))) row col)) ∧
    print? (uniform 0 (repeated (maxWidth + 1))) = none := by
  refine ⟨fun row hrow col hcol => ?_, print?_uniform_eq_none ?_⟩
  · have hentry : entry (uniform 0 (repeated (maxWidth + 1))) row col =
        (repeated (maxWidth + 1)).toList := entry_uniform hrow hcol
    rw [hentry]
    exact spaced_repeated _
  · rw [length_repeated]
    exact Nat.lt_succ_self _

/-- A text with spaces at its ends and a bar in it, four times, is printed and read back. -/
theorem print?_laidOut_spaces :
    (∀ row < (uniform 1 " a | b ").rows, ∀ col < (uniform 1 " a | b ").cols,
      Spaced (entry (uniform 1 " a | b ") row col)) ∧
    ∃ t first line, print? (uniform 1 " a | b ") = some t ∧
      t.toList = (first :: (List.range 2).map line).flatMap (· ++ ['\n']) ∧
      LaidOut (uniform 1 " a | b ") [' '] heading first ∧
      ∀ row < 2, LaidOut (uniform 1 " a | b ") (padLeft 1 (Nat.toDigits 10 (row + 1)))
        (entry (uniform 1 " a | b ") row) (line row) := by
  have hentry : ∀ row < 2, ∀ col < 2, entry (uniform 1 " a | b ") row col = " a | b ".toList :=
    fun row hrow col hcol => entry_uniform hrow hcol
  have hspaced : ∀ row < 2, ∀ col < 2, Spaced (entry (uniform 1 " a | b ") row col) := by
    intro row hrow col hcol
    rw [hentry row hrow col hcol]
    decide
  obtain ⟨hsome, hwidth, hlines⟩ := print?_laidOut (uniform 1 " a | b ") hspaced
  have hnarrow : ∀ col < 2, width (uniform 1 " a | b ") col ≤ maxWidth := by
    intro col hcol
    rcases (hwidth col hcol).1 with hw | ⟨row, hrow, hw⟩
    · rw [hw]
      obtain rfl | rfl : col = 0 ∨ col = 1 := by omega
      · simp [heading, Column.letters, maxWidth]
      · simp [heading, Column.letters, maxWidth]
    · rw [hw, hentry row hrow col hcol]
      decide
  obtain ⟨t, ht⟩ := Option.isSome_iff_exists.1 (hsome.2 hnarrow)
  obtain ⟨first, line, htext, hfirst, hline⟩ := hlines t ht
  exact ⟨hspaced, t, first, line, ht, htext, hfirst, hline⟩

end Table
end FormulaGrid
