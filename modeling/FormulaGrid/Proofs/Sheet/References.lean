/-
# Who refers to whom

A cell refers to another if its text is a formula that can be parsed and names the other,
which lies in the sheet. Cells and references form a graph; nothing keeps it from having
cycles, and several paths may lead to one cell.

Every formula on a path costs its height plus one, which is what the limit on the depth of
references is about.
-/

import FormulaGrid.Proofs.Cell.Content
import FormulaGrid.Proofs.Grid
import FormulaGrid.Sheet.Basic
import Mathlib.Algebra.GroupWithZero.Nat
import Mathlib.Data.List.Chain
import Mathlib.Logic.Relation

namespace FormulaGrid
namespace Sheet

/-- What a cell is to a formula that refers to it, if there is a cell. -/
def content? (s : Sheet) (a : Address) : Option Cell.Content := (s.text? a).map Cell.content

/-- The cell of the sheet that a name stands for. -/
def cell? (s : Sheet) (name : String) : Option Address := (Address.ofName? name).filter s.inBounds

/-- The names in the formula of a cell; other cells have none. -/
def names (s : Sheet) (a : Address) : List String :=
  match s.content? a with
  | some (.formula e) => e.references
  | _ => []

/-- **One cell refers to another:** its formula names the other, which lies in the sheet. -/
def Refers (s : Sheet) (a b : Address) : Prop :=
  ∃ e, s.content? a = some (.formula e) ∧ ∃ n ∈ e.references, s.cell? n = some b

/-- One cell leads to another by references, to itself by none. -/
abbrev Reaches (s : Sheet) : Address → Address → Prop := Relation.ReflTransGen s.Refers

/-- What a cell adds to the depth of the cells that wait for it. -/
def cost (s : Sheet) (a : Address) : Nat := ((s.content? a).map Cell.Content.cost).getD 0

/-- Whether a cell holds a formula, parsed or not. -/
def isFormula (s : Sheet) (a : Address) : Bool := (s.text? a).any Cell.isFormula

variable {s : Sheet} {a b : Address}

/-- A cell exists exactly in the bounds. -/
theorem isSome_content? (s : Sheet) (a : Address) : (s.content? a).isSome = s.inBounds a := by
  rw [content?, Option.isSome_map, isSome_text?]

/-- There is no text outside the bounds. -/
theorem text?_eq_none (h : s.inBounds a = false) : s.text? a = none := by
  rw [text?, Grid.get?_eq_none h, Option.map_none]

/-- An address lies in the bounds if its row and its column do. -/
theorem inBounds_iff : s.inBounds a = true ↔ a.row < s.rows ∧ a.col < s.cols := by
  simp [inBounds, Grid.inBounds, rows, cols]

/-- Sheets of the same extent have the same bounds. -/
theorem inBounds_congr {t : Sheet} (hrows : t.rows = s.rows) (hcols : t.cols = s.cols)
    (a : Address) : t.inBounds a = s.inBounds a := by
  rw [Bool.eq_iff_iff, inBounds_iff, inBounds_iff, hrows, hcols]

/-- A name stands for the cell it spells, if that is in the bounds. -/
theorem cell?_eq_some_iff {n : String} :
    s.cell? n = some b ↔ Address.ofName? n = some b ∧ s.inBounds b = true := by
  rw [cell?, Option.filter_eq_some_iff]

/-- With the same bounds, a name stands for the same cell. -/
theorem cell?_congr {t : Sheet} (hin : ∀ b, t.inBounds b = s.inBounds b) (n : String) :
    t.cell? n = s.cell? n := by
  rw [cell?, cell?, funext hin]

/-- Whether a cell holds a formula is told by its content. -/
theorem isFormula_eq (s : Sheet) (a : Address) :
    s.isFormula a = (s.content? a).any Cell.Content.isFormula := by
  cases h : s.text? a <;> simp [isFormula, content?, h, Cell.isFormula_content]

/-- A cell with the content of a formula holds one, and no other cell does. -/
theorem isFormula_of_content? {content : Cell.Content} (h : s.content? a = some content) :
    s.isFormula a = content.isFormula := by
  simp [isFormula_eq, h]

/-- The names of a formula are those in its tree. -/
theorem names_of_formula {e : Formula.Expr} (h : s.content? a = some (.formula e)) :
    s.names a = e.references := by
  rw [names, h]

/-- The cost of a formula is its height and one. -/
theorem cost_of_formula {e : Formula.Expr} (h : s.content? a = some (.formula e)) :
    s.cost a = e.depth + 1 := by
  simp [cost, h, Cell.Content.cost]

/-- A cell that refers to another holds a formula. -/
theorem Refers.isFormula (h : s.Refers a b) : s.isFormula a = true := by
  obtain ⟨e, he, _⟩ := h
  exact isFormula_of_content? he

/-- What is referred to lies in the bounds. -/
theorem Refers.inBounds (h : s.Refers a b) : s.inBounds b = true := by
  obtain ⟨_, _, _, _, hb⟩ := h
  exact (cell?_eq_some_iff.1 hb).2

/-- What a cell of the sheet leads to lies in the bounds. -/
theorem Reaches.inBounds (h : s.Reaches a b) (ha : s.inBounds a = true) :
    s.inBounds b = true := by
  cases h with
  | refl => exact ha
  | tail _ hr => exact hr.inBounds

/-- Whether a cell holds nothing but a reference with a name. -/
def isReference (s : Sheet) (a : Address) (name : String) : Bool :=
  match s.content? a with
  | some (.formula (.reference n)) => n == name
  | _ => false

/-- That is its content then. -/
theorem content?_of_isReference (name : String) (h : s.isReference a name = true) :
    s.content? a = some (.formula (.reference name)) := by
  rw [isReference] at h
  split at h
  · rename_i n hn
    rw [hn, eq_of_beq h]
  · cases h

end Sheet
end FormulaGrid
