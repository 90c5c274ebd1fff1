/-
# The lines of a table

A table has a line feed at the end of each of its lines, and those of the texts that are printed in
them (`count_lineFeeds`). A text is printed as its cell shows it, in the last column without the
blanks at its end (`printed`). So nothing takes a line away from a table, but a text may add lines.

Numbers and errors add none. After a sheet was loaded, **only a text that was typed with a line feed
in it adds a line**: in formula view any text, else that of a literal (`lineFeeds_of_load`).
-/

import Mathlib.Algebra.BigOperators.Group.List.Basic
import FormulaGrid.Proofs.Sheet.Messages
import FormulaGrid.Proofs.Sheet.Storage
import FormulaGrid.Proofs.Table.Columns

namespace FormulaGrid
namespace Table

open Text (Spaced trimEnd Bytes)

variable {s t : Sheet} {label : List Char} {text : Nat → List Char} {row col : Nat}

/-- **What is printed of a text:** in the last column the blanks at its end are left out. -/
def printed (s : Sheet) (text : Nat → List Char) (col : Nat) : List Char :=
  if col + 1 = s.cols then trimEnd (text col) else text col

/-- What is printed of a text is in the text. -/
theorem mem_of_mem_printed {c : Char} (h : c ∈ printed s text col) : c ∈ text col := by
  rw [printed] at h
  split at h
  · exact Text.mem_of_mem_trimEnd h
  · exact h

/-! ## Line feeds of a line -/

/-- A block has the line feeds of its text. -/
theorem count_block (s : Sheet) (text : Nat → List Char) (col : Nat) :
    (block s text col).count '\n' = (text col).count '\n' := by
  simp [block, bar, padRight, List.count_replicate]

/-- The last block has the line feeds of its text that are not at its end. -/
theorem count_trimEnd_block (s : Sheet) (text : Nat → List Char) (before : List Char) (col : Nat) :
    (trimEnd (before ++ block s text col)).count '\n' =
      before.count '\n' + (trimEnd (text col)).count '\n' := by
  -- trimming stops at the bar, however much of the text it takes off
  have hbar : before ++ block s text col =
      (before ++ [' ']) ++ '|' :: ' ' :: padRight (width s col) (text col) := by
    simp [block, bar]
  have hpadded : trimEnd (padRight (width s col) (text col)) = trimEnd (text col) :=
    Text.trimEnd_append_blanks fun b hb => by rw [List.eq_of_mem_replicate hb]; rfl
  rw [hbar, Text.trimEnd_append_cons (by decide)]
  rcases Text.trimEnd_cons_cases ' ' (padRight (width s col) (text col)) with heq | ⟨heq, hnil⟩
  · rw [heq, hpadded]
    simp
  · rw [heq, ← hpadded, hnil]
    simp

/-- **The line feeds of a line** are those of its label and of what is printed, and the one at its
end. -/
theorem count_line (s : Sheet) (label : List Char) (text : Nat → List Char) :
    (line ((List.range s.cols).map (width s)) label ((List.range s.cols).map text)).count '\n' =
      label.count '\n' +
        ((List.range s.cols).map fun col => (printed s text col).count '\n').sum + 1 := by
  obtain ⟨m, hm⟩ : ∃ m, s.cols = m + 1 := Nat.exists_eq_succ_of_ne_zero s.cells.cols_pos.ne'
  have hinner : (List.range m).map (fun col => (printed s text col).count '\n') =
      (List.range m).map (fun col => (block s text col).count '\n') := by
    refine List.map_congr_left fun col hcol => ?_
    have hne : col + 1 ≠ s.cols := by
      have := List.mem_range.1 hcol
      omega
    rw [printed, if_neg hne, count_block]
  have hlast : printed s text m = trimEnd (text m) := if_pos hm.symm
  have hsum : ((List.range s.cols).map fun col => (printed s text col).count '\n').sum =
      ((List.range m).map fun col => (block s text col).count '\n').sum +
        (trimEnd (text m)).count '\n' := by
    rw [hm, List.range_succ, List.map_append, List.sum_append, hinner, List.map_singleton,
      List.sum_singleton, hlast]
  rw [line, fullLine_eq, hsum, hm, List.range_succ, List.flatMap_append, ← List.append_assoc,
    List.flatMap_singleton, List.count_append, count_trimEnd_block, List.count_append,
    List.count_flatMap, List.count_singleton_self, ← Nat.add_assoc]
  rfl

/-! ## Line feeds of a table -/

/-- A spaced text has no line feeds. -/
theorem count_of_spaced {cs : List Char} (h : Spaced cs) : cs.count '\n' = 0 :=
  List.count_eq_zero.2 h.lineFeed_not_mem

/-- The line of the column letters is one line. -/
theorem count_headingLine (s : Sheet) :
    (headingLine s ((List.range s.cols).map (width s))).count '\n' = 1 := by
  have hlabel : Spaced (padRight (labelWidth s) []) := Text.spaced_replicate _
  have hsum : ((List.range s.cols).map fun col => (printed s heading col).count '\n').sum = 0 := by
    refine List.sum_eq_zero_iff_forall_eq_nat.2 (List.forall_mem_map.2 fun col _ => ?_)
    exact List.count_eq_zero.2 fun h =>
      (spaced_heading col).lineFeed_not_mem (mem_of_mem_printed h)
  rw [headingLine, count_line, count_of_spaced hlabel, hsum]

/-- The line of a row has the line feeds of what is printed in it, and one at its end. -/
theorem count_rowLine (s : Sheet) (row : Nat) :
    (rowLine s ((List.range s.cols).map (width s)) row).count '\n' =
      ((List.range s.cols).map fun col => (printed s (entry s row) col).count '\n').sum + 1 := by
  have hlabel : Spaced (padLeft (labelWidth s) (Nat.toDigits 10 (row + 1))) :=
    Text.spaced_append.2 ⟨Text.spaced_replicate _, Text.spaced_toDigits _⟩
  rw [rowLine, count_line, count_of_spaced hlabel, Nat.zero_add]

/-- **The line feeds of a table** are those at the ends of its lines, and those of the texts that
are printed. -/
theorem count_ofSheet (s : Sheet) : (ofSheet s).toList.count '\n' =
    s.rows + 1 + ((List.range s.rows).map fun row =>
      ((List.range s.cols).map fun col => (printed s (entry s row) col).count '\n').sum).sum := by
  have hrows : ((List.range s.rows).flatMap
      (rowLine s ((List.range s.cols).map (width s)))).count '\n' =
      ((List.range s.rows).map fun row => ((List.range s.cols).map fun col =>
        (printed s (entry s row) col).count '\n').sum + 1).sum := by
    rw [List.count_flatMap]
    exact congrArg List.sum (List.map_congr_left fun row _ => count_rowLine s row)
  rw [ofSheet, String.toList_ofList, List.count_append, count_headingLine, hrows, List.sum_map_add]
  simp only [List.map_const', List.length_range, List.sum_replicate_nat, Nat.mul_one]
  omega

/-- There is one line feed for each line exactly if nothing that is printed has any. -/
theorem count_ofSheet_eq_iff (s : Sheet) : (ofSheet s).toList.count '\n' = s.rows + 1 ↔
    ∀ row < s.rows, ∀ col < s.cols, '\n' ∉ printed s (entry s row) col := by
  rw [count_ofSheet, Nat.add_eq_left, List.sum_eq_zero_iff_forall_eq_nat]
  simp only [List.forall_mem_map, List.mem_range, List.sum_eq_zero_iff_forall_eq_nat,
    List.count_eq_zero]

/-! ## Sheets that were loaded -/

/-- **A cell that shows a line feed** shows its text, which has it. Without formula view the text is
that of a literal. -/
theorem lineFeed_mem_entry {u : Sheet} (hsettled : t.Settled) (hcells : u.cells = t.cells)
    (h : '\n' ∈ entry u row col) : '\n' ∈ (u.text ⟨row, col⟩).toList ∧
      (u.formulaView = true ∨ Cell.isFormula (u.text ⟨row, col⟩) = false) := by
  rw [entry, Sheet.shown] at h
  split at h
  · next hview => exact ⟨h, .inl hview⟩
  have hvalue : u.value ⟨row, col⟩ = t.valueOf ⟨row, col⟩ := by
    rw [← hsettled, Sheet.value, Sheet.value, hcells]
  have htext : u.text? ⟨row, col⟩ = t.text? ⟨row, col⟩ := by
    rw [Sheet.text?, Sheet.text?, hcells]
  rw [hvalue] at h
  rw [Sheet.text, htext]
  cases ht : t.text? ⟨row, col⟩ with
  | none =>
    rw [Sheet.valueOf, ht] at h
    cases h
  | some x =>
    by_cases hx : Cell.isFormula x = true
    · have hformula : t.isFormula ⟨row, col⟩ = true := by rw [Sheet.isFormula, ht]; exact hx
      exact absurd h (Sheet.spaced_shown_valueOf hformula).lineFeed_not_mem
    · rw [Bool.not_eq_true] at hx
      rw [Sheet.shown_valueOf_of_not_isFormula ht hx] at h
      split at h
      · cases h
      · exact ⟨h, .inr hx⟩

/-- **Only texts add lines to a table.** The table of a sheet that was loaded, in the one view or
the other, has a line feed at the end of the line of letters and of each row's line, and one for
each line feed that is printed of a text. So it has one line for each row exactly if no line feed is
printed. Numbers and errors have none: a line feed that is printed is one of the cell's own text,
which without formula view is no formula. -/
theorem lineFeeds_of_load {s t u : Sheet} {doc : Bytes} {table : String} (h : s.load doc = .ok t)
    (hcells : u.cells = t.cells) (hprint : print? u = some table) :
    table.toList.count '\n' = u.rows + 1 + ((List.range u.rows).map fun row =>
      ((List.range u.cols).map fun col => (printed u (entry u row) col).count '\n').sum).sum ∧
    (table.toList.count '\n' = u.rows + 1 ↔
      ∀ row < u.rows, ∀ col < u.cols, '\n' ∉ printed u (entry u row) col) ∧
    ∀ row < u.rows, ∀ col < u.cols, '\n' ∈ printed u (entry u row) col →
      '\n' ∈ (u.text ⟨row, col⟩).toList ∧
      (u.formulaView = true ∨ Cell.isFormula (u.text ⟨row, col⟩) = false) := by
  obtain ⟨-, rfl⟩ := print?_eq_some_iff.1 hprint
  have hsettled : t.Settled := (Sheet.load_eq_ok_iff.1 h).2.2
  exact ⟨count_ofSheet u, count_ofSheet_eq_iff u, fun row _ col _ hmem =>
    lineFeed_mem_entry hsettled hcells (mem_of_mem_printed hmem)⟩

/-- A document with one text, in which a line looks like that of a second row. -/
def forgedDocument : Bytes := Text.utf8 "[[\"5\\n2 | 7\"]]".toList

/-- A sheet of one row is loaded, and its table has two. -/
theorem print?_forgedDocument : ∃ t, (Sheet.blank 1 1).load forgedDocument = .ok t ∧ t.rows = 1 ∧
    print? t = some "  | A\n1 | 5\n2 | 7\n" := by
  have hload : ((Sheet.blank 1 1).load forgedDocument).toOption.any
      (fun t => t.rows == 1 && print? t == some "  | A\n1 | 5\n2 | 7\n") = true := by
    decide +kernel
  cases ht : (Sheet.blank 1 1).load forgedDocument with
  | error e =>
    rw [ht] at hload
    cases hload
  | ok t =>
    rw [ht, Except.toOption, Option.any_some, Bool.and_eq_true, beq_iff_eq, beq_iff_eq] at hload
    exact ⟨t, rfl, hload⟩

/-- In formula view it has two as well, one of them for the line feed in the text. -/
theorem lineFeeds_of_forgedDocument : ∃ t table,
    (Sheet.blank 1 1).load forgedDocument = .ok t ∧ t.toggleView.cells = t.cells ∧
    print? t.toggleView = some table ∧
    table.toList.count '\n' = t.toggleView.rows + 1 + ((List.range t.toggleView.rows).map fun row =>
      ((List.range t.toggleView.cols).map fun col =>
        (printed t.toggleView (entry t.toggleView row) col).count '\n').sum).sum ∧
    ∀ row < t.toggleView.rows, ∀ col < t.toggleView.cols,
      '\n' ∈ printed t.toggleView (entry t.toggleView row) col →
      '\n' ∈ (t.toggleView.text ⟨row, col⟩).toList ∧ (t.toggleView.formulaView = true ∨
        Cell.isFormula (t.toggleView.text ⟨row, col⟩) = false) := by
  have hload : ((Sheet.blank 1 1).load forgedDocument).toOption.any
      (fun t => (print? t.toggleView).isSome) = true := by
    decide +kernel
  cases ht : (Sheet.blank 1 1).load forgedDocument with
  | error e =>
    rw [ht] at hload
    cases hload
  | ok t =>
    rw [ht, Except.toOption, Option.any_some] at hload
    obtain ⟨table, hprint⟩ := Option.isSome_iff_exists.1 hload
    obtain ⟨hcount, -, htexts⟩ := lineFeeds_of_load ht (u := t.toggleView) rfl hprint
    exact ⟨t, table, rfl, rfl, hprint, hcount, htexts⟩

end Table
end FormulaGrid
