/-
# What it takes to be too deep

A formula has 1024 operators and calls at most, so its tree is no higher than 1025 and the formula
adds 1026 at most to the depth of those that it refers to. References may be 4096 deep, and so

* a path that is too deep has four formulas or more, since three of them come to 3078;
* a formula from which no path leads through more than two others is never too deep.

The limits of the parser are those of `FormulaGrid.Proofs.Formula.Limits`, and
`counters_bound_trees_and_paths` states all of them together. Neither of the two bounds could be
less: a name that is incremented 1024 times makes a tree of the height 1025, and four such formulas
that refer to each other are too deep (`column_tooDeep`).
-/

import FormulaGrid.Proofs.Formula.Limits
import FormulaGrid.Proofs.Sheet.Blame
import Mathlib.Data.List.Perm.Subperm

namespace FormulaGrid

open Formula (Expr Level Parser increments lexemes parse maxOperators)

namespace Sheet

variable {s : Sheet} {a last : Address} {front : List Address} {name : String}

/-- **No cell adds more than a formula can** that keeps to the limit of operators and calls. -/
theorem cost_le (s : Sheet) (a : Address) : s.cost a ≤ maxOperators + 2 := by
  rw [cost, content?]
  cases s.text? a with
  | none => exact Nat.zero_le _
  | some t =>
    rw [Option.map_some, Option.map_some, Option.getD_some]
    cases hc : Cell.content t with
    | formula e =>
      obtain ⟨body, -, hparse⟩ := Cell.content_eq_formula_iff.1 hc
      exact Nat.succ_le_succ (Formula.depth_le_of_parse hparse)
    | _ => exact Nat.zero_le _

/-- A path costs no more than so many formulas can. -/
theorem pathCost_le (s : Sheet) (path : List Address) :
    s.pathCost path ≤ path.length * (maxOperators + 2) := by
  induction path with
  | nil => exact Nat.zero_le _
  | cons b path ih =>
    have hb := s.cost_le b
    rw [pathCost, List.map_cons, List.sum_cons, ← pathCost, List.length_cons, Nat.succ_mul]
    omega

/-- **A path that is too deep has four formulas.** -/
theorem four_le_of_blames_tooDeep (h : s.Blames front last (.tooDeep name)) :
    4 ≤ (front ++ [last]).length := by
  obtain ⟨-, hdeep, -⟩ := h
  have hcost := s.pathCost_le (front ++ [last])
  rw [maxDepth] at hdeep
  rw [maxOperators] at hcost
  omega

/-- Only formulas have errors. -/
theorem isFormula_of_valueOf_error {err : Formula.Error} (h : s.valueOf a = .error err) :
    s.isFormula a = true := by
  rw [valueOf] at h
  rw [isFormula]
  cases ht : s.text? a with
  | none =>
    rw [ht] at h
    cases h
  | some text =>
    simp only [ht] at h
    cases hf : Cell.isFormula text with
    | true => simpa using hf
    | false =>
      simp only [hf] at h
      split at h <;> cases h

/-- **The path on which depth ran out** begins at the formula and has four formulas or more. -/
theorem exists_trail_of_tooDeep (h : s.valueOf a = .error (.tooDeep name)) :
    ∃ front last, s.Trail a front last ∧ s.Blames front last (.tooDeep name) ∧
      4 ≤ (front ++ [last]).length := by
  have hformula := isFormula_of_valueOf_error h
  rw [valueOf_of_isFormula hformula] at h
  cases hd : s.descend [] 0 a with
  | ok x => simp [hd] at h
  | error halt =>
    obtain ⟨front, last, htrail, hblames⟩ :=
      (Trail.single hformula).blamed_of_descend (Nat.zero_le _) hd
    obtain hhalt : halt.error = .tooDeep name := by simpa [hd] using h
    rw [hhalt] at hblames
    exact ⟨front, last, htrail, hblames, four_le_of_blames_tooDeep hblames⟩

/-- **The counters of the parser bound its trees and the paths through a sheet.** A tree that is
parsed has as many operators and calls as were counted, 1024 at most, and no greater height than
1025. Whatever text is read, and whether it is accepted or not: a nested parser comes back to the
nesting from which it was called, and none is run at a nesting above 256, since nothing would change
if parsers did anything else there. And so a path that is too deep has four formulas or more, and a
formula from which every path leads through two others at most is never too deep. -/
theorem counters_bound_trees_and_paths :
    (∀ cs e, parse cs = .ok e →
      ∃ t, (Parser.whole Level.top).run (.start (lexemes cs)) = (.ok e, t) ∧
        e.operators = t.operators ∧ e.operators ≤ 1024 ∧ e.depth ≤ 1025) ∧
    (∀ n, (Level.tower .ground n).KeepsNesting) ∧
    (∀ beyond cs, (Parser.whole (Level.fencedTower beyond 257)).run (.start (lexemes cs)) =
      (Parser.whole Level.top).run (.start (lexemes cs))) ∧
    (∀ (s : Sheet) (a : Address) (name : String), s.valueOf a = .error (.tooDeep name) →
      ∃ front last, s.Trail a front last ∧ s.Blames front last (.tooDeep name) ∧
        4 ≤ (front ++ [last]).length) ∧
    (∀ (s : Sheet) (a : Address), (∀ front last, s.Trail a front last → front.length ≤ 2) →
      ∀ name, s.valueOf a ≠ .error (.tooDeep name)) := by
  refine ⟨fun cs e h => ?_, Level.keepsNesting_tower, Formula.run_whole_fenced,
    fun s a name => exists_trail_of_tooDeep, fun s a hshort name h => ?_⟩
  · have hrun : (Parser.whole Level.top).run (.start (lexemes cs)) = (.ok e, _) := Prod.ext h rfl
    obtain ⟨hcount, hroom⟩ := Formula.operators_of_run_whole hrun
    exact ⟨_, hrun, hcount, hcount ▸ hroom, Formula.depth_le_of_parse h⟩
  · obtain ⟨front, last, htrail, -, hfour⟩ := exists_trail_of_tooDeep h
    have hfront := hshort front last htrail
    rw [List.length_append, List.length_singleton] at hfour
    omega

/-! ## The bounds are reached -/

/-- A path is no longer than the sheet has cells. -/
theorem Trail.length_le (h : s.Trail a front last) :
    (front ++ [last]).length ≤ s.cells.addresses.length := by
  refine (h.distinct.subperm fun b hb => ?_).length_le
  obtain ⟨t, ht, -⟩ := (Option.any_eq_true _ _).1 (h.formulas b hb)
  refine Grid.mem_addresses.2 ?_
  rw [← inBounds, ← isSome_text?, ht, Option.isSome_some]

/-- Signs are no blanks. -/
theorem isBlank_of_mem_increments {n : Nat} {c : Char} (h : c ∈ increments n) :
    Text.isBlank c = false := by
  induction n with
  | zero => cases h
  | succ n ih =>
    rcases List.mem_cons.1 h with rfl | h
    · rfl
    rcases List.mem_cons.1 h with rfl | h
    · rfl
    · exact ih h

/-- The text of a formula that increments a name so many times. -/
def incrementing (name : List Char) (n : Nat) : String :=
  String.ofList ('=' :: (name ++ increments n))

/-- Its content is the tree. -/
theorem content_incrementing {c : Char} {r : List Char} {n : Nat}
    (hblank : (c :: r).any Text.isBlank = false)
    (hname : Formula.tokenAt c (r ++ increments n) = .ok (.cell name, r.length))
    (hn : n ≤ maxOperators) :
    Cell.content (incrementing (c :: r) n) = .formula (.incremented name n) := by
  have hfront : ∀ x ∈ c :: r, Text.isBlank x = false :=
    fun x hx => Bool.eq_false_iff.2 (List.any_eq_false.1 hblank x hx)
  have hbody : ∀ x ∈ c :: r ++ increments n, Text.isBlank x = false := by
    intro x hx
    rcases List.mem_append.1 hx with hx | hx
    · exact hfront x hx
    · exact isBlank_of_mem_increments hx
  have htrim : Text.trim ('=' :: (c :: r ++ increments n)) = '=' :: (c :: r ++ increments n) := by
    rw [Text.trim_of_trimStart (by rfl), Text.trimEnd_eq_self hbody]
  refine Cell.content_eq_formula_iff.2 ⟨c :: r ++ increments n, ?_, ?_⟩
  · rw [Cell.formula?, incrementing, String.toList_ofList, htrim]
    rfl
  · exact Formula.parse_increments (hfront c List.mem_cons_self) hname hn

/-- A name without a number has none if it is incremented. -/
theorem answer_incremented {ε : Type} {look : String → Except ε Float}
    {raise : Formula.Error → ε} {x : ε} (h : look name = .error x) (n : Nat) :
    (Expr.incremented name n).answer look raise = .error x := by
  induction n with
  | zero => exact h
  | succ n ih =>
    rw [Expr.incremented, Expr.answer, ih]
    rfl

/-- **An error is handed on** by a formula that increments the cell with the error. -/
theorem descend_incremented {chain : List Address} {k n : Nat} {b : Address} {halt : Halt}
    (hc : s.content? a = some (.formula (.incremented name n))) (ha : a ∉ chain)
    (hk : k + (n + 2) ≤ maxDepth) (hb : s.cell? name = some b)
    (h : s.descend (a :: chain) (k + (n + 2)) b = .error halt) :
    s.descend chain k a = .error halt := by
  have hdepth : (Expr.incremented name n).depth + 1 = n + 2 := by rw [Expr.depth_incremented]
  have hlook : s.lookFrom (a :: chain) (k + (n + 2)) name = .error halt := by
    rw [lookFrom_of_cell? hb, h]
  rw [descend_formula hc ha (by rwa [hdepth]), hdepth]
  exact answer_incremented hlook n

/-- Formulas that each increment the number of the next one, the last one that of the first. -/
def column : Sheet :=
  (ofTexts? [[incrementing ['A', '2'] 1024], [incrementing ['A', '3'] 1024],
    [incrementing ['A', '4'] 1024], [incrementing ['A', '1'] 1024]]).getD usual

/-- The first four cells of that sheet are such formulas. -/
theorem content?_column :
    column.content? ⟨0, 0⟩ = some (.formula (.incremented "A2" 1024)) ∧
    column.content? ⟨1, 0⟩ = some (.formula (.incremented "A3" 1024)) ∧
    column.content? ⟨2, 0⟩ = some (.formula (.incremented "A4" 1024)) ∧
    column.content? ⟨3, 0⟩ = some (.formula (.incremented "A1" 1024)) := by
  have hsecond := @content_incrementing "A2" 'A' ['2'] 1024 (by decide) rfl le_rfl
  have hthird := @content_incrementing "A3" 'A' ['3'] 1024 (by decide) rfl le_rfl
  have hfourth := @content_incrementing "A4" 'A' ['4'] 1024 (by decide) rfl le_rfl
  have hfirst := @content_incrementing "A1" 'A' ['1'] 1024 (by decide) rfl le_rfl
  simp [column, ofTexts?, Grid.ofLists?, content?, text?, Grid.get?, Grid.map, Cell.ofText,
    hsecond, hthird, hfourth, hfirst]

/-- **Four formulas are too deep** if each of them has 1024 operators. -/
theorem column_tooDeep : column.valueOf ⟨0, 0⟩ = .error (.tooDeep "A4") := by
  obtain ⟨hfirst, hsecond, hthird, hfourth⟩ := content?_column
  have hdeep : column.descend [⟨2, 0⟩, ⟨1, 0⟩, ⟨0, 0⟩] 3078 ⟨3, 0⟩ =
      .error ⟨.tooDeep "A4", [⟨3, 0⟩, ⟨2, 0⟩, ⟨1, 0⟩, ⟨0, 0⟩]⟩ := by
    have hnew : (⟨3, 0⟩ : Address) ∉ [⟨2, 0⟩, ⟨1, 0⟩, (⟨0, 0⟩ : Address)] := by decide
    have hroom : ¬ 3078 + ((Expr.incremented "A1" 1024).depth + 1) ≤ maxDepth := by
      rw [Expr.depth_incremented]
      decide
    have hname : Address.name ⟨3, 0⟩ = "A4" := by decide +kernel
    rw [descend, hfourth]
    simp only [hnew, hroom, if_false, dite_false, hname]
  have hdescend := descend_incremented hfirst List.not_mem_nil (by decide) (by decide +kernel)
    (descend_incremented hsecond (by decide) (by decide) (by decide +kernel)
      (descend_incremented hthird (by decide) (by decide) (by decide +kernel) hdeep))
  rw [valueOf_of_isFormula (isFormula_of_content? hfirst), hdescend]

/-- The hypotheses of `counters_bound_trees_and_paths` hold of the text and of the formulas that
reach the bounds, and of one from which a path leads through two others. -/
theorem counters_bound_trees_and_paths_column :
    (∃ e t, parse ('A' :: '2' :: increments 1024) = .ok e ∧
      (Parser.whole Level.top).run (.start (lexemes ('A' :: '2' :: increments 1024))) = (.ok e, t) ∧
      e.operators = t.operators ∧ e.operators ≤ 1024 ∧ e.depth = 1025) ∧
    (∃ front last, column.Trail ⟨0, 0⟩ front last ∧ column.Blames front last (.tooDeep "A4") ∧
      4 ≤ (front ++ [last]).length) ∧
    (∀ front last, ring.Trail ⟨0, 0⟩ front last → front.length ≤ 2) ∧
    ∀ name, ring.valueOf ⟨0, 0⟩ ≠ .error (.tooDeep name) := by
  obtain ⟨hparse, -, -, hdeep, hshort⟩ := counters_bound_trees_and_paths
  have htree := @Formula.parse_increments 'A' ['2'] "A2" 1024 (by decide) rfl le_rfl
  obtain ⟨t, hrun, hcount, hroom, -⟩ := hparse _ _ htree
  have htrails : ∀ front last, ring.Trail ⟨0, 0⟩ front last → front.length ≤ 2 := by
    intro front last htrail
    have hlength := htrail.length_le
    have hcells : ring.cells.addresses.length = 3 := by decide +kernel
    rw [List.length_append, List.length_singleton] at hlength
    omega
  exact ⟨⟨_, t, htree, hrun, hcount, hroom, Expr.depth_incremented "A2" 1024⟩,
    hdeep column ⟨0, 0⟩ "A4" column_tooDeep, htrails, hshort ring ⟨0, 0⟩ htrails⟩

end Sheet
end FormulaGrid
