/-
# Literals as numbers

A formula may refer to a literal, and then needs a number of it. Trimmed, the literal has to be a
numeral (`literal?_isSome`). What is left of a text in trimming is unrestricted otherwise: it may be
empty, or have blanks, separators or digits of another script inside, and it may be a word that is
used for a number elsewhere. Whatever it is, a reference to the cell is then answered that this is
not a number, by the name of the cell (`resolveAt_run_of_literal`).
-/

import FormulaGrid.Proofs.Number.Numeral
import FormulaGrid.Proofs.Sheet.Descent

namespace FormulaGrid

open Number (IsNumeral IsNumberText isNumeralChar)

namespace Cell

variable {t : String}

/-- **The literals that have a number** are the numerals with blanks around them. -/
theorem literal?_isSome : (literal? t).isSome = true ↔ IsNumeral (Text.trim t.toList) := by
  rw [Number.isNumeral_iff, ← Number.isSome_ofText?_iff, ← List.all_eq_true, literal?]
  split <;> simp [*]

/-- The others have none. -/
theorem literal?_eq_none_iff : literal? t = none ↔ ¬ IsNumeral (Text.trim t.toList) := by
  rw [← literal?_isSome, Bool.not_eq_true, Option.isSome_eq_false_iff, Option.isNone_iff_eq_none]

end Cell

namespace Sheet

open Context (waiting)

variable {s : Sheet} {a : Address} {t n : String} {k : Nat}

/-- **A literal is entered for its number,** or it is not a number. -/
theorem descend_literal (ht : s.text? a = some t) (hf : Cell.formula? t = none)
    {chain : List Address} (ha : a ∉ chain) :
    s.descend chain k a =
      match Cell.literal? t with
      | some x => .ok x
      | none => .error ⟨.notANumber a.name, chain⟩ := by
  have hc : s.content? a = some (Cell.content t) := by rw [content?, ht, Option.map_some]
  cases hx : Cell.literal? t with
  | some x =>
    have hnumeral : Cell.content t = .numeral x := by simp [Cell.content, hf, hx]
    exact descend_numeral (hnumeral ▸ hc) ha
  | none =>
    rw [Cell.content_eq_word_iff.2 ⟨hf, hx⟩] at hc
    rw [descend, hc]
    simp [ha]

/-- **And so a reference to it is answered,** in whatever context it is not waiting. -/
theorem resolveAt_run_of_literal (ht : s.text? a = some t) (hf : Cell.formula? t = none)
    (hn : s.cell? n = some a) (c : Context.At k) (ha : a ∉ c.1.chain) :
    ((s.resolveAt k n).run.run c).1 =
      match Cell.literal? t with
      | some x => .ok x
      | none => .error (.notANumber a.name) := by
  obtain ⟨⟨chain, k⟩, rfl⟩ := c
  change ((s.resolveAt k n).run.run (waiting chain k)).1 = _
  rw [resolveAt_run (s.numberAt_run chain k) n, lookFrom_of_cell? hn, descend_literal ht hf ha]
  cases Cell.literal? t <;> rfl

/-- **A literal is a number exactly if it is a plain decimal numeral, blanks aside.** A text has a
number if what is left of it trimmed is a numeral: this is a sign or none, ASCII digits with at most
one dot among them and at least one digit, and a power of ten or none. Numerals are the number texts
that are made of ASCII digits, dots, signs and the letter `E` in either case, so that no word for an
infinity or for what is not a number is one. A reference to the cell of a literal is answered the
number if it has one, and otherwise that it is not a number. -/
theorem literal?_isSome_and_resolveAt_run :
    (∀ t, (Cell.literal? t).isSome = true ↔ IsNumeral (Text.trim t.toList)) ∧
    (∀ cs, IsNumeral cs ↔ IsNumberText cs ∧ ∀ c ∈ cs, isNumeralChar c = true) ∧
    ∀ (s : Sheet) (a : Address) (t n : String) (k : Nat) (c : Context.At k),
      s.text? a = some t → Cell.formula? t = none → s.cell? n = some a → a ∉ c.1.chain →
      (IsNumeral (Text.trim t.toList) → ∃ x, Cell.literal? t = some x ∧
        ((s.resolveAt k n).run.run c).1 = .ok x) ∧
      (¬ IsNumeral (Text.trim t.toList) →
        ((s.resolveAt k n).run.run c).1 = .error (.notANumber a.name)) := by
  refine ⟨fun t => Cell.literal?_isSome, fun cs => Number.isNumeral_iff,
    fun s a t n k c ht hf hn ha => ⟨fun h => ?_, fun h => ?_⟩⟩
  · obtain ⟨x, hx⟩ := Option.isSome_iff_exists.1 (Cell.literal?_isSome.2 h)
    exact ⟨x, hx, by rw [resolveAt_run_of_literal ht hf hn c ha, hx]⟩
  · rw [resolveAt_run_of_literal ht hf hn c ha, Cell.literal?_eq_none_iff.2 h]

/-- A word for an infinity and a numeral with blanks around it. -/
def figures : Sheet := (ofTexts? [["inf", " 1e3\t"]]).getD usual

/-- The hypotheses of `literal?_isSome_and_resolveAt_run` hold of both, and so the one is not a
number and the other is. -/
theorem literal?_isSome_and_resolveAt_run_figures :
    ((figures.resolveAt 0 "A1").run.run (waiting [] 0)).1 = .error (.notANumber "A1") ∧
    ∃ x, Cell.literal? " 1e3\t" = some x ∧
      ((figures.resolveAt 0 "B1").run.run (waiting [] 0)).1 = .ok x := by
  obtain ⟨-, -, hanswer⟩ := literal?_isSome_and_resolveAt_run
  have hname : (⟨0, 0⟩ : Address).name = "A1" := by decide +kernel
  constructor
  · have hword := (hanswer figures ⟨0, 0⟩ "inf" "A1" 0 (waiting [] 0) (by decide +kernel)
      (by decide +kernel) (by decide +kernel) (by simp [waiting])).2 (by decide +kernel)
    rwa [hname] at hword
  · exact (hanswer figures ⟨0, 1⟩ " 1e3\t" "B1" 0 (waiting [] 0) (by decide +kernel)
      (by decide +kernel) (by decide +kernel) (by simp [waiting])).1 (by decide +kernel)

end Sheet
end FormulaGrid
