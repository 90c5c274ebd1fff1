/-
# Recalculation

A sheet is settled if every cell holds the value that its text and the other texts make
(`Settled`). Recalculation settles a sheet, though it stores values in the sheet that it reads
from: values come from texts alone, so what has been stored does not matter to what is still
to be stored, and neither does the order in which the cells are visited
(`foldl_refresh_eq_recalculate`). A settled sheet has nothing to it but its texts and its view
(`Settled.ext`).
-/

import FormulaGrid.Proofs.Grid
import FormulaGrid.Proofs.Sheet.Locality
import FormulaGrid.Sheet.Edit

namespace FormulaGrid
namespace Sheet

/-- **Every cell holds its value.** -/
def Settled (s : Sheet) : Prop := ∀ a, s.value a = s.valueOf a

variable {s t : Sheet} {a b : Address} {order : List Address}

/-- Sheets with the same cells and the same view are the same. -/
theorem ext_cells (hcells : t.cells = s.cells) (hview : t.formulaView = s.formulaView) :
    t = s := by
  cases s
  cases t
  cases hcells
  cases hview
  rfl

/-! ## Storing values -/

/-- Storing a value changes one cell, and nothing of it but the value. -/
theorem get?_setValue (s : Sheet) (a : Address) (v : Value) (b : Address) :
    (s.setValue a v).cells.get? b =
      (s.cells.get? b).map fun c => if a = b then { c with value := v } else c := by
  rw [setValue, Grid.get?_modify]
  split <;> simp

/-- Storing a value changes no text. -/
theorem text?_setValue (s : Sheet) (a : Address) (v : Value) (b : Address) :
    (s.setValue a v).text? b = s.text? b := by
  rw [text?, text?, get?_setValue, Option.map_map]
  congr 1
  funext c
  by_cases hab : a = b <;> simp [hab]

/-- Storing a value of one cell leaves what the values of cells are. -/
theorem valueOf_refresh (s : Sheet) (a b : Address) : (s.refresh a).valueOf b = s.valueOf b :=
  valueOf_congr (text?_setValue s a _) b

/-- **What a pass over some cells stores:** the value of each of them in the sheet before the
pass. -/
theorem get?_foldl_refresh (s : Sheet) (order : List Address) (b : Address) :
    (order.foldl refresh s).cells.get? b =
      (s.cells.get? b).map fun c => if b ∈ order then { c with value := s.valueOf b } else c := by
  induction order generalizing s with
  | nil => simp
  | cons a order ih =>
    rw [List.foldl_cons, ih, valueOf_refresh, refresh, get?_setValue, Option.map_map]
    congr 1
    funext c
    by_cases hab : a = b
    · subst hab
      simp
    · have hba : b ≠ a := fun h => hab h.symm
      simp [hab, hba]

/-- A pass over cells keeps the view. -/
theorem formulaView_foldl_refresh (s : Sheet) (order : List Address) :
    (order.foldl refresh s).formulaView = s.formulaView := by
  induction order generalizing s with
  | nil => rfl
  | cons a order ih => exact ih (s.refresh a)

/-- **A pass that visits every cell stores every value.** -/
theorem get?_foldl_refresh_of_forall (h : ∀ a, s.inBounds a = true → a ∈ order) (b : Address) :
    (order.foldl refresh s).cells.get? b =
      (s.cells.get? b).map fun c => { c with value := s.valueOf b } := by
  rw [get?_foldl_refresh]
  cases hb : s.cells.get? b with
  | none => rfl
  | some c =>
    have hin : s.inBounds b = true := by simp [inBounds, ← Grid.isSome_get?, hb]
    simp [h b hin]

/-- **The cells of a sheet that was recalculated.** -/
theorem get?_recalculate (s : Sheet) (b : Address) : s.recalculate.cells.get? b =
    (s.cells.get? b).map fun c => { c with value := s.valueOf b } :=
  get?_foldl_refresh_of_forall (fun _ => Grid.mem_addresses.2) b

/-- Recalculation changes no text. -/
theorem text?_recalculate (s : Sheet) (b : Address) : s.recalculate.text? b = s.text? b := by
  rw [text?, get?_recalculate, Option.map_map]
  rfl

/-- Recalculation keeps the view. -/
theorem formulaView_recalculate (s : Sheet) : s.recalculate.formulaView = s.formulaView :=
  s.formulaView_foldl_refresh _

/-- **A pass over all cells in any order is a recalculation.** -/
theorem foldl_refresh_eq_recalculate (h : ∀ a, s.inBounds a = true → a ∈ order) :
    order.foldl refresh s = s.recalculate := by
  refine ext_cells (Grid.ext_get? fun b => ?_) ?_
  · rw [get?_foldl_refresh_of_forall h, get?_recalculate]
  · rw [formulaView_foldl_refresh, formulaView_recalculate]

/-! ## Settled sheets -/

/-- Outside a sheet there is no value. -/
theorem valueOf_of_get?_eq_none (h : s.cells.get? a = none) : s.valueOf a = .empty := by
  rw [valueOf, text?, h]
  rfl

/-- **Recalculation settles.** -/
theorem settled_recalculate (s : Sheet) : s.recalculate.Settled := by
  intro a
  rw [valueOf_congr s.text?_recalculate, value, get?_recalculate]
  cases ha : s.cells.get? a with
  | none => exact (valueOf_of_get?_eq_none ha).symm
  | some c => rfl

/-- The other view has the same texts. -/
theorem text?_toggleView (s : Sheet) (a : Address) : s.toggleView.text? a = s.text? a := rfl

/-- The view has nothing to do with it. -/
theorem Settled.toggleView (h : s.Settled) : s.toggleView.Settled := by
  intro a
  rw [valueOf_congr s.text?_toggleView]
  exact h a

/-- A sheet of empty cells is settled. -/
theorem settled_blank (rows cols : Nat) : (blank rows cols).Settled := by
  intro a
  cases ha : (blank rows cols).cells.get? a with
  | none => rw [value, ha, valueOf_of_get?_eq_none ha, Option.map_none, Option.getD_none]
  | some c =>
    obtain rfl : c = Cell.blank := Grid.eq_of_get?_filled (by omega) (by omega) ha
    rw [value, valueOf, text?, ha]
    rfl

/-- The cells of a settled sheet are what its texts make. -/
theorem Settled.get?_eq (h : s.Settled) (a : Address) :
    s.cells.get? a = (s.text? a).map fun text => ⟨text, s.valueOf a⟩ := by
  have hvalue := h a
  rw [value] at hvalue
  rw [text?]
  cases ha : s.cells.get? a with
  | none => rfl
  | some c =>
    rw [ha] at hvalue
    simp [← hvalue]

/-- **Settled sheets with the same texts and the same view are the same.** -/
theorem Settled.ext (hs : s.Settled) (ht : t.Settled) (htext : ∀ a, t.text? a = s.text? a)
    (hview : t.formulaView = s.formulaView) : t = s := by
  refine ext_cells (Grid.ext_get? fun a => ?_) hview
  rw [hs.get?_eq, ht.get?_eq, htext, valueOf_congr htext]

/-- Nothing is left to recalculate in a settled sheet. -/
theorem Settled.recalculate_eq (h : s.Settled) : s.recalculate = s :=
  h.ext s.settled_recalculate s.text?_recalculate s.formulaView_recalculate

/-- The text of a cell is the one in the list of texts. -/
theorem text?_eq_texts (s : Sheet) (a : Address) :
    s.text? a = s.texts[a.row]?.bind (·[a.col]?) := by
  rw [texts, ← Grid.get?_eq_toLists, Grid.get?_map, text?]

/-- Sheets with the same list of texts have the same texts. -/
theorem text?_congr (h : t.texts = s.texts) (a : Address) : t.text? a = s.text? a := by
  rw [text?_eq_texts, text?_eq_texts, h]

/-- Sheets with the same texts have the same list of texts. -/
theorem texts_congr (h : ∀ a, t.text? a = s.text? a) : t.texts = s.texts := by
  refine congrArg Grid.toLists (Grid.ext_get? fun a => ?_)
  rw [Grid.get?_map, Grid.get?_map]
  exact h a

end Sheet
end FormulaGrid
