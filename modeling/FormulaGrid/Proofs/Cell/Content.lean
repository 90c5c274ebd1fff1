/-
# What a text is to other cells

A formula that refers to a cell needs its number. The cell's text is read once for that,
into one of four contents:

| content | text |
| --- | --- |
| `numeral` | a numeral, blanks around it |
| `word` | any other text without the mark of a formula |
| `broken` | a formula that cannot be parsed |
| `formula` | a formula, by its tree |

The mark of a formula is looked for after the blanks in front of it, whether or not those at
the end were taken off before (`formula?_isSome`), so a text is evaluated exactly if its
content is one of the last two.
-/

import FormulaGrid.Formula.Parser
import FormulaGrid.Sheet.Cell

namespace FormulaGrid

namespace Text

/-- A character that is no blank keeps the text after it from being trimmed away. -/
theorem trimEnd_cons {c : Char} {r : List Char} (h : isBlank c = false) :
    trimEnd (c :: r) = c :: trimEnd r := by
  simp only [trimEnd, List.reverse_cons, List.dropWhile_append]
  split
  · next he =>
    rw [List.isEmpty_iff] at he
    simp [he, h]
  · simp

/-- A text without blanks has none to be trimmed at its end. -/
theorem trimEnd_eq_self {cs : List Char} (h : ∀ c ∈ cs, isBlank c = false) : trimEnd cs = cs := by
  induction cs with
  | nil => rfl
  | cons c cs ih =>
    obtain ⟨hc, hcs⟩ := List.forall_mem_cons.1 h
    rw [trimEnd_cons hc, ih hcs]

/-- What trimming the front leaves starts with no blank. -/
theorem isBlank_of_trimStart {c : Char} {cs r : List Char} (h : trimStart cs = c :: r) :
    isBlank c = false := by
  have hhead := List.head?_dropWhile_not isBlank cs
  rw [← trimStart, h] at hhead
  exact hhead

/-- **Trimming keeps the first character** that is no blank. -/
theorem trim_of_trimStart {c : Char} {cs r : List Char} (h : trimStart cs = c :: r) :
    trim cs = c :: trimEnd r := by
  rw [trim, h, trimEnd_cons (isBlank_of_trimStart h)]

end Text

namespace Cell

/-- **A text is a formula exactly if it has a body.** -/
theorem formula?_isSome (t : String) : (formula? t).isSome = isFormula t := by
  cases h : Text.trimStart t.toList with
  | nil => simp [formula?, isFormula, Text.trim, Text.trimEnd, h]
  | cons c r =>
    simp only [formula?, isFormula, Text.trim_of_trimStart h, h, List.head?_cons]
    by_cases hc : c = formulaMark <;> simp [hc]

/-- A formula is not blank. -/
theorem isBlank_of_isFormula {t : String} (h : isFormula t = true) : isBlank t = false := by
  rw [← formula?_isSome, formula?] at h
  rw [isBlank]
  split at h
  · next heq => simp [heq]
  · simp at h

/-- What a text is to a formula that refers to its cell. -/
inductive Content where
  | numeral (x : Float)
  | word
  | broken (f : Formula.Fault)
  | formula (e : Formula.Expr)

/-- **The content of a text.** -/
def content (t : String) : Content :=
  match formula? t with
  | none =>
    match literal? t with
    | some x => .numeral x
    | none => .word
  | some body =>
    match Formula.parse body with
    | .ok e => .formula e
    | .error f => .broken f

/-- Words are the texts that are neither formulas nor numerals. -/
theorem content_eq_word_iff {t : String} :
    content t = .word ↔ formula? t = none ∧ literal? t = none := by
  rw [content]
  cases formula? t with
  | none => cases literal? t <;> simp
  | some body => cases h : Formula.parse body <;> simp [h]

/-- Broken formulas are those whose body has a fault. -/
theorem content_eq_broken_iff {t : String} {f : Formula.Fault} :
    content t = .broken f ↔ ∃ body, formula? t = some body ∧ Formula.parse body = .error f := by
  rw [content]
  cases formula? t with
  | none => cases literal? t <;> simp
  | some body => cases h : Formula.parse body <;> simp [h]

/-- The other formulas are those whose body has a tree. -/
theorem content_eq_formula_iff {t : String} {e : Formula.Expr} :
    content t = .formula e ↔ ∃ body, formula? t = some body ∧ Formula.parse body = .ok e := by
  rw [content]
  cases formula? t with
  | none => cases literal? t <;> simp
  | some body => cases h : Formula.parse body <;> simp [h]

/-- What a content adds to the depth of the cells that wait for it: a formula its height and
one, everything else nothing. -/
def Content.cost : Content → Nat
  | formula e => e.depth + 1
  | _ => 0

/-- Whether a content is that of a formula, parsed or not. -/
def Content.isFormula : Content → Bool
  | broken _ => true
  | formula _ => true
  | _ => false

/-- The content tells whether a text is a formula. -/
theorem isFormula_content (t : String) : (content t).isFormula = isFormula t := by
  rw [← formula?_isSome, content]
  cases formula? t with
  | none => dsimp only; split <;> rfl
  | some body => dsimp only; split <;> rfl

end Cell
end FormulaGrid
