/-
# What a value needs

The value of a cell needs the texts of the cells it leads to, and of every name in their
formulas whether it is that of a cell. A sheet in which all of that is found again carries the
value (`Carries`): in both sheets references are followed through the same cells, in the same
order and to the same depth, so that an error is the same as well (`Carries.descend_eq`).

Stored values, the view and whatever lies elsewhere in either sheet are no part of it.
-/

import FormulaGrid.Proofs.Sheet.Descent

namespace FormulaGrid
namespace Sheet

variable {s t : Sheet} {a b : Address}

/-- **Where contents and the cells of names are the same, descents are:** at a cell, and wherever
the references of formulas lead from it. -/
theorem descend_congr {p : Address → Prop} (hcontent : ∀ b, p b → t.content? b = s.content? b)
    (hname : ∀ b e, p b → s.content? b = some (.formula e) → ∀ n ∈ e.references,
      t.cell? n = s.cell? n)
    (hrefers : ∀ b d, p b → s.Refers b d → p d) {chain : List Address} {k : Nat} {a : Address}
    (ha : p a) : t.descend chain k a = s.descend chain k a := by
  rw [descend, descend, hcontent a ha]
  cases hc : s.content? a with
  | none => rfl
  | some content =>
    cases content with
    | formula e =>
      by_cases hk : k + (e.depth + 1) ≤ maxDepth
      · have hlook : ∀ n ∈ e.references, t.lookFrom (a :: chain) (k + (e.depth + 1)) n =
            s.lookFrom (a :: chain) (k + (e.depth + 1)) n := by
          intro n hn
          rw [lookFrom, lookFrom, hname a e ha hc n hn]
          cases hb : s.cell? n with
          | none => rfl
          | some b =>
            exact descend_congr hcontent hname hrefers (hrefers a b ha ⟨e, hc, n, hn, hb⟩)
        simp only [hk, dite_true]
        split
        · rfl
        · exact Formula.Expr.answer_congr e hlook
      · simp only [hk, dite_false]
    | _ => rfl
termination_by maxDepth - k
decreasing_by omega

/-- **One sheet carries the value of a cell of another:** it has the cells that the cell leads
to, with their texts, and no cell where their formulas name none. -/
structure Carries (s t : Sheet) (a : Address) : Prop where
  texts : ∀ b, s.Reaches a b → t.text? b = s.text? b
  missing : ∀ b, s.Reaches a b → ∀ n ∈ s.names b, s.cell? n = none → t.cell? n = none

/-- What is carried with a cell is carried with what it refers to. -/
theorem Carries.of_refers (h : s.Carries t a) (hab : s.Refers a b) : s.Carries t b where
  texts d hd := h.texts d (.head hab hd)
  missing d hd := h.missing d (.head hab hd)

/-- The text of a cell is carried. -/
theorem Carries.text?_eq (h : s.Carries t a) : t.text? a = s.text? a := h.texts a .refl

/-- The content of a cell is carried. -/
theorem Carries.content?_eq (h : s.Carries t a) : t.content? a = s.content? a := by
  rw [content?, content?, h.text?_eq]

/-- **A name in a formula stands for the same cell.** If it stands for one, then that is
referred to, so the other sheet has it, too. -/
theorem Carries.cell?_eq {e : Formula.Expr} {n : String} (h : s.Carries t a)
    (hc : s.content? a = some (.formula e)) (hn : n ∈ e.references) : t.cell? n = s.cell? n := by
  cases hb : s.cell? n with
  | none => exact h.missing a .refl n (names_of_formula hc ▸ hn) hb
  | some b =>
    obtain ⟨hname, hin⟩ := cell?_eq_some_iff.1 hb
    have htext := (h.of_refers ⟨e, hc, n, hn, hb⟩).text?_eq
    refine cell?_eq_some_iff.2 ⟨hname, ?_⟩
    rw [← isSome_text?, htext, isSome_text?, hin]

/-- **References are followed in the same way,** from the same chain and depth to the same
number or error. -/
theorem Carries.descend_eq {chain : List Address} {k : Nat} {a : Address} (h : s.Carries t a) :
    t.descend chain k a = s.descend chain k a :=
  descend_congr (fun _ => content?_eq) (fun _ _ hb hc _ hn => hb.cell?_eq hc hn)
    (fun _ _ => of_refers) h

/-- **The value of a cell is the same in every sheet that carries it.** -/
theorem Carries.valueOf_eq (h : s.Carries t a) : t.valueOf a = s.valueOf a := by
  have hformula : t.isFormula a = s.isFormula a := by rw [isFormula, isFormula, h.text?_eq]
  cases hf : s.isFormula a with
  | true =>
    rw [valueOf_of_isFormula (hformula.trans hf), valueOf_of_isFormula hf, h.descend_eq]
  | false => exact valueOf_eq_of_not_isFormula h.text?_eq hf

/-- Of a sheet with the same bounds only the texts are needed. -/
theorem carries_of_inBounds (hin : ∀ b, t.inBounds b = s.inBounds b)
    (h : ∀ b, s.Reaches a b → t.text? b = s.text? b) : s.Carries t a where
  texts := h
  missing _ _ n _ hn := (cell?_congr hin n).trans hn

/-- **Values come from texts alone.** -/
theorem valueOf_congr (h : ∀ b, t.text? b = s.text? b) (a : Address) :
    t.valueOf a = s.valueOf a := by
  refine (carries_of_inBounds (fun b => ?_) fun b _ => h b).valueOf_eq
  rw [← isSome_text?, h, isSome_text?]

end Sheet
end FormulaGrid
