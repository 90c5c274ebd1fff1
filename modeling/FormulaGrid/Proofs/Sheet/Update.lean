/-
# What an update changes

A new text for one cell changes the values of the cells that lead to it and of no others: the
others are carried by the sheet after the update, since nothing that they lead to has got
another text and no name has come to stand for another cell. This and what it is a case of,
that a value needs nothing but what its cell leads to, is `valueOf_of_carries_and_value_update`.
-/

import FormulaGrid.Proofs.Sheet.Recalculate

namespace FormulaGrid
namespace Sheet

variable {s t : Sheet} {a x : Address} {text : String}

/-- The texts after one of them was set. -/
theorem text?_modify (s : Sheet) (x : Address) (text : String) (b : Address) :
    ({ s with cells := s.cells.modify x fun c => { c with text := text } } : Sheet).text? b =
      (s.text? b).map fun old => if x = b then text else old := by
  rw [text?, text?, Grid.get?_modify]
  by_cases hxb : x = b <;> simp [hxb, Function.comp_def]

/-- **The texts after an update,** be it one that changes something or not. -/
theorem text?_update (s : Sheet) (x : Address) (text : String) (b : Address) :
    ((s.update? x text).getD s).text? b =
      (s.text? b).map fun old => if x = b then text else old := by
  rw [update?]
  cases hx : s.text? x with
  | none =>
    by_cases hxb : x = b
    · simp [← hxb, hx]
    · simp [hxb]
  | some old =>
    by_cases hold : old = text
    · by_cases hxb : x = b
      · simp [← hxb, hx, hold]
      · simp [hold, hxb]
    · simp [hold, text?_recalculate, text?_modify]

/-- An update changes no bounds. -/
theorem inBounds_update (s : Sheet) (x : Address) (text : String) (b : Address) :
    ((s.update? x text).getD s).inBounds b = s.inBounds b := by
  rw [← isSome_text?, text?_update, Option.isSome_map, isSome_text?]

/-- An update leaves a sheet settled. -/
theorem Settled.update (h : s.Settled) (x : Address) (text : String) :
    ((s.update? x text).getD s).Settled := by
  rw [update?]
  cases s.text? x with
  | none => exact h
  | some old =>
    by_cases hold : old = text
    · simpa [hold] using h
    · simpa [hold] using settled_recalculate _

/-- **After an update a sheet carries the cells that do not lead to its place.** -/
theorem carries_update (text : String) (h : ¬ s.Reaches a x) :
    s.Carries ((s.update? x text).getD s) a := by
  refine carries_of_inBounds (s.inBounds_update x text) fun b hb => ?_
  have hxb : x ≠ b := by
    rintro rfl
    exact h hb
  rw [text?_update]
  simp [hxb]

/-- **A value needs nothing but what its cell leads to.** It is the same in every sheet that
has these cells with their texts and no cells where they name none, and in a settled sheet an
update changes the values of such cells only as lead to the place of the update. -/
theorem valueOf_of_carries_and_value_update (s t : Sheet) :
    (∀ a, s.Carries t a → t.valueOf a = s.valueOf a) ∧
      (s.Settled → ∀ x text a, ¬ s.Reaches a x →
        ((s.update? x text).getD s).value a = s.value a) := by
  refine ⟨fun a h => h.valueOf_eq, fun hs x text a h => ?_⟩
  have hvalue := (carries_update text h).valueOf_eq
  rw [hs.update x text a, hs a, hvalue]

/-- A formula that names a cell and a place where there is none. -/
def narrow : Sheet := ((ofTexts? [["=B1+C1", "2"]]).getD usual).recalculate

/-- The same with one more row, in the other view and nothing computed. -/
def tall : Sheet := ((ofTexts? [["=B1+C1", "2"], ["=A1", "x"]]).getD usual).toggleView

/-- The taller sheet carries the formula of the other. -/
theorem carries_narrow_tall : narrow.Carries tall ⟨0, 0⟩ := by
  have htexts : ∀ b ∈ narrow.cells.addresses, tall.text? b = narrow.text? b := by
    decide +kernel
  have hmissing : ∀ b ∈ narrow.cells.addresses, ∀ n ∈ narrow.names b,
      narrow.cell? n = none → tall.cell? n = none := by
    decide +kernel
  have hmem : ∀ b, narrow.Reaches ⟨0, 0⟩ b → b ∈ narrow.cells.addresses := fun b hb =>
    Grid.mem_addresses.2 (hb.inBounds (by decide +kernel))
  exact ⟨fun b hb => htexts b (hmem b hb), fun b hb => hmissing b (hmem b hb)⟩

/-- The hypotheses of `valueOf_of_carries_and_value_update` hold of a formula in two sheets
of different extent, and of a numeral when that formula is changed. -/
theorem valueOf_tall_and_value_update_narrow : narrow.Carries tall ⟨0, 0⟩ ∧
    tall.valueOf ⟨0, 0⟩ = narrow.valueOf ⟨0, 0⟩ ∧
    narrow.Settled ∧ ¬ narrow.Reaches ⟨0, 1⟩ ⟨0, 0⟩ ∧
    ((narrow.update? ⟨0, 0⟩ "=B1*B1").getD narrow).value ⟨0, 1⟩ = narrow.value ⟨0, 1⟩ := by
  have hreach : ¬ narrow.Reaches ⟨0, 1⟩ ⟨0, 0⟩ := by
    intro h
    rcases Relation.ReflTransGen.cases_head h with heq | ⟨b, hb, _⟩
    · cases heq
    · have hword : narrow.isFormula ⟨0, 1⟩ = false := by decide +kernel
      rw [hb.isFormula] at hword
      cases hword
  obtain ⟨hvalue, hupdate⟩ := valueOf_of_carries_and_value_update narrow tall
  exact ⟨carries_narrow_tall, hvalue _ carries_narrow_tall, settled_recalculate _, hreach,
    hupdate (settled_recalculate _) _ _ _ hreach⟩

end Sheet
end FormulaGrid
