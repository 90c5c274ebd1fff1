/-
# What is left in a context

A context changes while a cell is entered: its chain grows and shrinks, its depth rises and falls.
None of this can be told from the answers. They are those of a descent that is handed the chain and
the depth and changes neither, the depth is always given back, and so is the chain if the answer is
a number (`enter_iff_descend`).

An error leaves behind the formulas that were entered and not finished on the way to it. There are
none if the cell was not entered as a formula. Otherwise they begin with its own; if the formula
stopped at the name of a cell, those go on that the error has left behind from there
(`Unfinished`).

So a context that has seen errors is a fresh one with some more cells waiting. These never change a
number, and if one of them keeps a cell from its number, the error says so.
-/

import FormulaGrid.Proofs.Formula.Stop
import FormulaGrid.Proofs.Sheet.Meaning

namespace FormulaGrid
namespace Sheet

open Formula (Expr Keeps StopsAt StopsWith)

/-- **The formulas entered and not finished** when a cell that was entered at depth `k` while the
cells of a chain wait has an error, the first one first. -/
inductive Unfinished (s : Sheet) :
    List Address → Nat → Address → Formula.Error → List Address → Prop where
  | missing {chain : List Address} {k : Nat} {a : Address} :
      s.content? a = none → Unfinished s chain k a (.outOfRange a.name) []
  | waiting {chain : List Address} {k : Nat} {a : Address} :
      s.inBounds a = true → a ∈ chain → Unfinished s chain k a (.circular a.name) []
  | word {chain : List Address} {k : Nat} {a : Address} :
      a ∉ chain → s.content? a = some .word → Unfinished s chain k a (.notANumber a.name) []
  | broken {chain : List Address} {k : Nat} {a : Address} {f : Formula.Fault} :
      a ∉ chain → s.content? a = some (.broken f) → Unfinished s chain k a (.fault f) [a]
  | tooDeep {chain : List Address} {k : Nat} {a : Address} {e : Expr} :
      a ∉ chain → s.content? a = some (.formula e) → maxDepth < k + (e.depth + 1) →
      Unfinished s chain k a (.tooDeep a.name) [a]
  | own {chain : List Address} {k : Nat} {a : Address} {e : Expr} {err : Formula.Error} :
      a ∉ chain → s.content? a = some (.formula e) → k + (e.depth + 1) ≤ maxDepth →
      StopsWith e.references e.answering (s.lookFrom (a :: chain) (k + (e.depth + 1))) err →
      Unfinished s chain k a err [a]
  | unknown {chain : List Address} {k : Nat} {a : Address} {e : Expr} {n : String} :
      a ∉ chain → s.content? a = some (.formula e) → k + (e.depth + 1) ≤ maxDepth →
      StopsAt e.references e.answering (s.lookFrom (a :: chain) (k + (e.depth + 1))) n →
      s.cell? n = none → Unfinished s chain k a (.outOfRange n) [a]
  | reference {chain : List Address} {k : Nat} {a b : Address} {e : Expr} {n : String}
      {err : Formula.Error} {path : List Address} :
      a ∉ chain → s.content? a = some (.formula e) → k + (e.depth + 1) ≤ maxDepth →
      StopsAt e.references e.answering (s.lookFrom (a :: chain) (k + (e.depth + 1))) n →
      s.cell? n = some b → Unfinished s (a :: chain) (k + (e.depth + 1)) b err path →
      Unfinished s chain k a err (a :: path)

variable {s : Sheet} {chain path : List Address} {k : Nat} {a b : Address} {err : Formula.Error}
  {halt : Halt}

/-! ## Unfinished formulas -/

/-- Where formulas are left unfinished, the descent has the error. -/
theorem Unfinished.descend_eq (h : s.Unfinished chain k a err path) :
    s.descend chain k a = .error ⟨err, path.reverse ++ chain⟩ := by
  induction h with
  | missing hc =>
    rw [descend, hc]
    rfl
  | waiting hin ha =>
    rw [← isSome_content?] at hin
    obtain ⟨content, hc⟩ := Option.isSome_iff_exists.1 hin
    rw [descend, hc]
    simp [ha]
  | word ha hc =>
    rw [descend, hc]
    simp [ha]
  | broken ha hc =>
    rw [descend, hc]
    simp [ha]
  | tooDeep ha hc hk =>
    rw [descend, hc]
    simp [ha, Nat.not_le.2 hk]
  | own ha hc hk hstop =>
    rw [descend_formula hc ha hk]
    exact hstop _ _ _ (Keeps.refl _ _)
  | unknown ha hc hk hstop hn =>
    rw [descend_formula hc ha hk]
    exact hstop.2 _ _ _ _ (Keeps.refl _ _) (by rw [lookFrom, hn]; rfl)
  | reference ha hc hk hstop hb _ ih =>
    rw [descend_formula hc ha hk, List.reverse_cons, List.append_assoc]
    exact hstop.2 _ _ _ _ (Keeps.refl _ _) ((lookFrom_of_cell? hb).trans ih)

/-- The way to an error is one of references, and it begins with the cell itself. -/
theorem Unfinished.linked (h : s.Unfinished chain k a err path) :
    (path = [] ∨ path.head? = some a) ∧ List.IsChain s.Refers path := by
  induction h with
  | missing | waiting | word => exact ⟨.inl rfl, .nil⟩
  | broken | tooDeep | own | unknown => exact ⟨.inr rfl, .singleton _⟩
  | @reference _ _ a b e n _ path _ hc _ hstop hb _ ih =>
    refine ⟨.inr rfl, ?_⟩
    obtain ⟨hhead, hlinked⟩ := ih
    cases path with
    | nil => exact .singleton a
    | cons d path =>
      obtain rfl : d = b := by simpa using hhead
      exact .cons_cons ⟨e, hc, n, hstop.1, hb⟩ hlinked

/-! ## Cells that wait on top of others -/

/-- A cell means one number. -/
theorem Means.unique {v w : Float} (h : s.Means a v) (h' : s.Means a w) : v = w := by
  induction h generalizing w with
  | numeral hc =>
    cases h' with
    | numeral hc' => simpa [hc] using hc'
    | formula known hc' => simp [hc] at hc'
  | @formula a e x known hc hcell hmeans hv ih =>
    cases h' with
    | numeral hc' => simp [hc] at hc'
    | @formula _ e' _ known' hc' _ hmeans' hv' =>
      obtain rfl : e = e' := by simpa [hc] using hc'
      have hknown : ∀ n ∈ e.references, (.ok (known n) : Except Formula.Error Float) =
          .ok (known' n) := by
        intro n hn
        obtain ⟨b, hb⟩ := Option.isSome_iff_exists.1 (hcell n hn)
        rw [ih n hn b hb (hmeans' n hn b hb)]
      rw [Expr.substitute_eq] at hv hv'
      rw [Expr.answer_congr e hknown, hv'] at hv
      exact (Except.ok.inj hv).symm

variable {c c' : Context} {x : Float}

end Sheet
end FormulaGrid
