/-
# What cells show

A number and an error are shown in words of the sheet's own, with names of cells and parts of
formulas in them. Neither a name nor a part that is quoted has a blank in it, so **spaces are the
only blanks of a number or an error that is shown** (`spaced_shown_valueOf`). The texts of literals
are shown as they are, and in formula view all texts.
-/

import FormulaGrid.Proofs.Formula.Inquiry
import FormulaGrid.Proofs.Formula.Wording
import FormulaGrid.Proofs.Sheet.Blame

namespace FormulaGrid

open Text (Spaced)
open Formula (spaced_between spaced_of_spelled)

/-- The name of a cell has no blanks. -/
theorem Address.spaced_name (a : Address) : Spaced a.name.toList := spaced_of_spelled a.spelled_name

namespace Formula

/-- A name in a formula has no blanks. -/
theorem spaced_of_mem_references {cs : List Char} {e : Expr} {n : String} (h : parse cs = .ok e)
    (hn : n ∈ e.references) : Spaced n.toList := by
  rw [cellNames_of_parse h] at hn
  obtain ⟨token, htoken, hcell⟩ := List.mem_filterMap.1 hn
  cases token with
  | cell name =>
    obtain rfl : name = n := Option.some.inj hcell
    obtain ⟨letters, digits, hname⟩ := spelled_of_mem_lexemes 0 htoken
    exact spaced_of_spelled hname
  | _ => cases hcell

end Formula

namespace Sheet

variable {s : Sheet} {a last : Address} {front : List Address} {err : Formula.Error}

/-- **An error that is blamed on a path** is worded with spaces alone. -/
theorem Blames.spaced (h : s.Blames front last err) : Spaced err.text.toList := by
  cases err with
  | fault f =>
    obtain ⟨t, body, -, -, hparse⟩ := h
    exact Formula.spaced_of_parse_error hparse
  | divisionByZero => decide +kernel
  | noArguments f => cases f <;> decide +kernel
  | circular name =>
    obtain ⟨b, -, rfl, -⟩ := h
    exact Text.spaced_toList_append.2 ⟨by decide +kernel, b.spaced_name⟩
  | notANumber name =>
    obtain ⟨b, -, rfl, -⟩ := h
    exact spaced_between (by decide +kernel) b.spaced_name (by decide +kernel)
  | outOfRange name =>
    obtain ⟨e, hc, hname, -⟩ := h
    obtain ⟨t, -, hcontent⟩ := Option.map_eq_some_iff.1 hc
    obtain ⟨body, -, hparse⟩ := Cell.content_eq_formula_iff.1 hcontent
    exact spaced_between (by decide +kernel) (Formula.spaced_of_mem_references hparse hname)
      (by decide +kernel)
  | tooDeep name =>
    obtain ⟨rfl, -⟩ := h
    exact spaced_between (by decide +kernel) last.spaced_name (by decide +kernel)

/-- **A number or an error is shown with spaces alone.** -/
theorem spaced_shown_valueOf (h : s.isFormula a = true) : Spaced (s.valueOf a).shown.toList := by
  rw [valueOf_of_isFormula h]
  cases hd : s.descend [] 0 a with
  | ok x => exact Number.spaced_text x
  | error halt =>
    obtain ⟨front, last, -, hblames⟩ := (Trail.single h).blamed_of_descend (Nat.zero_le _) hd
    exact Text.spaced_toList_append.2 ⟨by decide +kernel, hblames.spaced⟩

/-- **What a cell that is no formula shows** is its text, or nothing if that is blank. -/
theorem shown_valueOf_of_not_isFormula {t : String} (ht : s.text? a = some t)
    (h : Cell.isFormula t = false) :
    (s.valueOf a).shown = if Cell.isBlank t then "" else t := by
  rw [valueOf, ht]
  simp only [h]
  split <;> rfl

end Sheet
end FormulaGrid
