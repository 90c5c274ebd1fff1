/-
# Sheets that were edited

Whatever is done to an empty sheet, and in whatever order, it is settled after every step:
each edit that touches a text or the extent recalculates, and each one that does not
recalculate leaves texts and values alone (`Settled.apply`). A sheet with a history is
therefore made by its texts and its view, and the history itself is forgotten
(`edited_settled`).
-/

import FormulaGrid.Proofs.Sheet.Update
import FormulaGrid.Storage

namespace FormulaGrid
namespace Sheet

open Text (Bytes)

variable {s : Sheet}

/-- A sheet stays settled if it was recalculated where it was changed at all. -/
theorem Settled.getD_map {α : Type} (h : s.Settled) (change : Option α) (result : α → Sheet) :
    ((change.map fun x => (result x).recalculate).getD s).Settled := by
  cases change with
  | none => exact h
  | some x => exact settled_recalculate _

/-- What is loaded was recalculated. -/
theorem settled_of_load {t : Sheet} {doc : Bytes} (h : s.load doc = .ok t) : t.Settled := by
  rw [load] at h
  cases hdoc : Document.sheet doc with
  | error refusal => simp [hdoc] at h
  | ok other =>
    rw [hdoc] at h
    cases h
    exact settled_recalculate _

/-- **Every edit leaves a settled sheet settled.** -/
theorem Settled.apply (h : s.Settled) (e : Edit) : (e.apply s).Settled := by
  cases e with
  | update a text => exact h.update a text
  | addRow => exact settled_recalculate _
  | addColumn => exact settled_recalculate _
  | deleteRow => exact h.getD_map _ _
  | deleteColumn => exact h.getD_map _ _
  | toggleView => exact h.toggleView
  | recalculate => exact settled_recalculate _
  | replace other => exact settled_recalculate _
  | load doc =>
    rw [Edit.apply]
    cases hload : s.load doc with
    | ok t => exact settled_of_load hload
    | error _ => exact h

/-- A settled sheet is settled after any edits. -/
theorem Settled.foldl_apply (h : s.Settled) (edits : List Edit) :
    (edits.foldl Edit.apply s).Settled := by
  induction edits generalizing s with
  | nil => exact h
  | cons e edits ih => exact ih (h.apply e)

/-- The rows of a sheet, of which there are some, have one length, which is not zero. -/
theorem rows_rectangular (s : Sheet) :
    s.cells.toLists ≠ [] ∧ 0 < s.cols ∧ ∀ row ∈ s.cells.toLists, row.length = s.cols := by
  refine ⟨fun hnil => ?_, s.cells.cols_pos, fun row hrow => Grid.length_of_mem_toLists hrow⟩
  have hrows := s.cells.rows_pos
  have hlength := s.cells.length_toLists
  rw [hnil, List.length_nil] at hlength
  exact absurd hlength.symm (Nat.pos_iff_ne_zero.1 hrows)

/-- **After any edits a sheet is a settled rectangle.** Nothing is left to recalculate; a pass
over the cells of any sheet, settled or not, stores the same in whatever order it visits them;
and of two histories that end with the same texts and the same view the sheets are the same. -/
theorem edited_settled (rows cols : Nat) (edits : List Edit) :
    let s := edited rows cols edits
    (s.cells.toLists ≠ [] ∧ 0 < s.cols ∧ ∀ row ∈ s.cells.toLists, row.length = s.cols) ∧
      (∀ a, s.value a = s.valueOf a) ∧
      s.recalculate = s ∧
      (∀ (t : Sheet) (order : List Address), (∀ a, t.inBounds a = true → a ∈ order) →
        order.foldl refresh t = t.recalculate) ∧
      ∀ rows' cols' edits', (edited rows' cols' edits').texts = s.texts →
        (edited rows' cols' edits').formulaView = s.formulaView →
        edited rows' cols' edits' = s := by
  have hsettled : ∀ rows cols edits, (edited rows cols edits).Settled :=
    fun rows cols edits => (settled_blank rows cols).foldl_apply edits
  intro s
  have hs : s.Settled := hsettled rows cols edits
  refine ⟨s.rows_rectangular, hs, hs.recalculate_eq, fun t order h => ?_,
    fun rows' cols' edits' htexts hview => ?_⟩
  · exact foldl_refresh_eq_recalculate h
  · exact hs.ext (hsettled rows' cols' edits') (text?_congr htexts) hview

/-- The hypotheses of `edited_settled` hold of a pass from the last cell to the first, and of
two histories that end with one formula. -/
theorem edited_settled_of_detour :
    (∀ a, tall.inBounds a = true → a ∈ tall.cells.addresses.reverse) ∧
      tall.cells.addresses.reverse.foldl refresh tall = tall.recalculate ∧
      (edited 0 1 [.addRow, .toggleView, .update ⟨0, 0⟩ "1", .load [], .deleteRow,
        .update ⟨0, 0⟩ "=A1"]).texts =
        (edited 1 0 [.update ⟨0, 0⟩ "=A1", .toggleView]).texts ∧
      edited 0 1 [.addRow, .toggleView, .update ⟨0, 0⟩ "1", .load [], .deleteRow,
        .update ⟨0, 0⟩ "=A1"] =
        edited 1 0 [.update ⟨0, 0⟩ "=A1", .toggleView] := by
  have hcover : ∀ a, tall.inBounds a = true → a ∈ tall.cells.addresses.reverse :=
    fun a ha => List.mem_reverse.2 (Grid.mem_addresses.2 ha)
  have htexts : (edited 0 1 [.addRow, .toggleView, .update ⟨0, 0⟩ "1", .load [], .deleteRow,
      .update ⟨0, 0⟩ "=A1"]).texts =
      (edited 1 0 [.update ⟨0, 0⟩ "=A1", .toggleView]).texts := by
    decide +kernel
  obtain ⟨_, _, _, horder, hsame⟩ :=
    edited_settled 1 0 [.update ⟨0, 0⟩ "=A1", .toggleView]
  exact ⟨hcover, horder tall _ hcover, htexts, hsame 0 1 _ htexts (by decide +kernel)⟩

end Sheet
end FormulaGrid
