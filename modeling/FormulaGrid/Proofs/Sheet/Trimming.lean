/-
# Blanks around texts

What a text is, is looked for in three places: in its first character after the blanks in front, in
what is left of it trimmed at both ends, and for literals in a trim of their own. They agree. A text
is a formula exactly if it has a body (`Cell.formula?_isSome`), and what it is to other cells
depends on what trimming leaves (`Cell.content_congr`).

Two sheets may then differ in the blanks around all their texts. References are followed in the same
way in both, so that their formulas have the same values (`SameTrimmed.valueOf_eq`), down to the
places of errors, which are counted in the body.
-/

import FormulaGrid.Proofs.Sheet.Locality
import FormulaGrid.Proofs.Text.Trimming

namespace FormulaGrid

namespace Text

variable {t u : String}

/-- Strings that are equal trimmed have the same characters left. -/
theorem trim_congr (h : trimmed t = trimmed u) : trim t.toList = trim u.toList :=
  String.ofList_injective h

/-- Trimming a string again takes nothing off. -/
theorem trimmed_trimmed (t : String) : trimmed (trimmed t) = trimmed t := by
  rw [trimmed, trimmed, String.toList_ofList, trim_trim]

end Text

/-! ## Texts -/

namespace Cell

variable {t u : String}

/-- Blank texts are blank by what trimming leaves. -/
theorem isBlank_congr (h : Text.trimmed t = Text.trimmed u) : isBlank t = isBlank u := by
  rw [isBlank, isBlank, Text.trim_congr h]

/-- The body of a formula is found in what trimming leaves. -/
theorem formula?_congr (h : Text.trimmed t = Text.trimmed u) : formula? t = formula? u := by
  rw [formula?, formula?, Text.trim_congr h]

/-- **What a text is to other cells** is told by what trimming leaves. -/
theorem content_congr (h : Text.trimmed t = Text.trimmed u) : content t = content u := by
  have hliteral : literal? t = literal? u := by rw [literal?, literal?, Text.trim_congr h]
  rw [content, content, formula?_congr h, hliteral]

end Cell

/-! ## Sheets -/

namespace Sheet

/-- **Sheets that differ in blanks around texts only:** they have the same extent, and trimmed, the
texts of each cell are equal. -/
structure SameTrimmed (s t : Sheet) : Prop where
  rows : t.rows = s.rows
  cols : t.cols = s.cols
  texts : ∀ a, s.inBounds a = true → Text.trimmed (t.text a) = Text.trimmed (s.text a)

variable {s t : Sheet} {a : Address}

/-- A cell is in neither sheet, or in both with texts that are equal trimmed. -/
theorem SameTrimmed.text?_cases (h : s.SameTrimmed t) (a : Address) :
    s.text? a = none ∧ t.text? a = none ∨ ∃ x y, s.text? a = some x ∧ t.text? a = some y ∧
      Text.trimmed y = Text.trimmed x := by
  cases ha : s.inBounds a with
  | false =>
    have ht : t.inBounds a = false := (inBounds_congr h.rows h.cols a).trans ha
    exact .inl ⟨text?_eq_none ha, text?_eq_none ht⟩
  | true =>
    have htexts := h.texts a ha
    have ht : t.inBounds a = true := (inBounds_congr h.rows h.cols a).trans ha
    rw [← isSome_text?] at ha ht
    obtain ⟨x, hx⟩ := Option.isSome_iff_exists.1 ha
    obtain ⟨y, hy⟩ := Option.isSome_iff_exists.1 ht
    rw [text, text, hx, hy] at htexts
    exact .inr ⟨x, y, hx, hy, htexts⟩

/-- Cells have the same contents. -/
theorem SameTrimmed.content?_eq (h : s.SameTrimmed t) (a : Address) :
    t.content? a = s.content? a := by
  rw [content?, content?]
  rcases h.text?_cases a with ⟨hx, hy⟩ | ⟨x, y, hx, hy, htexts⟩
  · rw [hx, hy]
  · rw [hx, hy, Option.map_some, Option.map_some, Cell.content_congr htexts]

/-- The same cells are formulas. -/
theorem SameTrimmed.isFormula_eq (h : s.SameTrimmed t) (a : Address) :
    t.isFormula a = s.isFormula a := by
  rw [Sheet.isFormula_eq, Sheet.isFormula_eq, h.content?_eq]

/-- **Formulas have the same values,** errors included. -/
theorem SameTrimmed.valueOf_eq (h : s.SameTrimmed t) (hf : s.isFormula a = true) :
    t.valueOf a = s.valueOf a := by
  have hdescend : t.descend [] 0 a = s.descend [] 0 a :=
    descend_congr (p := fun _ => True) (fun b _ => h.content?_eq b)
      (fun _ _ _ _ n _ => cell?_congr (inBounds_congr h.rows h.cols) n) (fun _ _ _ _ => trivial)
      trivial
  rw [valueOf_of_isFormula hf, valueOf_of_isFormula ((h.isFormula_eq a).trans hf), hdescend]

/-- A blank cell has no value. -/
theorem valueOf_of_isBlank {x : String} (hx : s.text? a = some x) (hblank : Cell.isBlank x = true) :
    s.valueOf a = .empty := by
  rw [valueOf, hx]
  simp [hblank]

/-- **Blanks around texts do not matter.** A text is a formula exactly if it has a body, a blank
text is none, and the body of a text is that of the text trimmed. In sheets of the same extent whose
texts are equal trimmed, the same cells are formulas and have the same values, errors and their
places included, and the same cells are blank and have no values. -/
theorem formula?_and_valueOf_of_sameTrimmed :
    (∀ x, (Cell.isFormula x = true ↔ (Cell.formula? x).isSome = true) ∧
      (Cell.isBlank x = true → Cell.isFormula x = false) ∧
      Cell.formula? x = Cell.formula? (Text.trimmed x)) ∧
    ∀ s t : Sheet, s.SameTrimmed t → ∀ a,
      t.isFormula a = s.isFormula a ∧
      (s.isFormula a = true → t.valueOf a = s.valueOf a) ∧
      (Cell.isBlank (t.text a) = Cell.isBlank (s.text a)) ∧
      (Cell.isBlank (s.text a) = true → s.valueOf a = .empty ∧ t.valueOf a = .empty) := by
  refine ⟨fun x => ⟨?_, ?_, ?_⟩, fun s t h a => ⟨h.isFormula_eq a, h.valueOf_eq, ?_⟩⟩
  · rw [Cell.formula?_isSome]
  · intro hblank
    by_contra hf
    rw [Bool.not_eq_false] at hf
    rw [Cell.isBlank_of_isFormula hf] at hblank
    cases hblank
  · exact Cell.formula?_congr (Text.trimmed_trimmed x).symm
  · rcases h.text?_cases a with ⟨hx, hy⟩ | ⟨x, y, hx, hy, htexts⟩
    · simp [text, valueOf, hx, hy]
    · have hblank := Cell.isBlank_congr htexts
      rw [text, text, hx, hy]
      exact ⟨hblank, fun hb => ⟨valueOf_of_isBlank hx hb, valueOf_of_isBlank hy (hblank.trans hb)⟩⟩

/-- A formula, a numeral that it refers to, a formula that cannot be parsed, and an empty text. -/
def close : Sheet := (ofTexts? [["=B1+1", "2", "=1+", ""]]).getD usual

/-- The same with blanks of many kinds around the texts. -/
def loose : Sheet := (ofTexts? [["\t=B1+1\n", " 2\u3000", "\u00A0=1+ ", "\u2009 "]]).getD usual

/-- The two differ in blanks around texts. -/
theorem close_sameTrimmed_loose : close.SameTrimmed loose where
  rows := by decide +kernel
  cols := by decide +kernel
  texts a ha := by
    have hall : ∀ a ∈ close.cells.addresses,
        Text.trimmed (loose.text a) = Text.trimmed (close.text a) := by decide +kernel
    exact hall a (Grid.mem_addresses.2 ha)

/-- The hypotheses of `formula?_and_valueOf_of_sameTrimmed` hold of these sheets, of a formula that
refers to a numeral, of one with an error in it, and of a text of blanks. -/
theorem formula?_and_valueOf_of_sameTrimmed_loose :
    close.SameTrimmed loose ∧ loose.valueOf ⟨0, 0⟩ = close.valueOf ⟨0, 0⟩ ∧
    loose.valueOf ⟨0, 2⟩ = close.valueOf ⟨0, 2⟩ ∧ loose.valueOf ⟨0, 3⟩ = .empty := by
  obtain ⟨-, hsheets⟩ := formula?_and_valueOf_of_sameTrimmed
  have h := hsheets close loose close_sameTrimmed_loose
  exact ⟨close_sameTrimmed_loose, (h ⟨0, 0⟩).2.1 (by decide +kernel),
    (h ⟨0, 2⟩).2.1 (by decide +kernel), ((h ⟨0, 3⟩).2.2.2 (by decide +kernel)).2⟩

end Sheet
end FormulaGrid
