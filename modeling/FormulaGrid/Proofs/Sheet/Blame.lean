/-
# What errors blame

An error that a formula shows arose at the end of a path: the formulas that were entered on
the way from the cell and not left, each naming the next one, none of them twice (`Trail`).
What the last of them has to do with the error depends on the error (`Blames`):

| error | the last formula |
| --- | --- |
| `circular` | refers to a formula of the path, which so lies on a cycle |
| `notANumber` | refers to a cell of this name that holds neither a formula nor a numeral |
| `outOfRange` | has this name in it, and there is no such cell |
| `tooDeep` | has this name, and the path is too expensive, but not without it |
| `fault` | cannot be parsed because of it |
| `divisionByZero` | divides one number by another that is zero |
| `noArguments` | calls this function without arguments |

`exists_trail_of_error` is the statement. A path is what the chain of a descent is, read
backwards, so the error arises where its own chain says.
-/

import FormulaGrid.Proofs.Sheet.Meaning

namespace FormulaGrid

open Formula (Expr)

namespace Sheet

/-- The cost of a path. -/
def pathCost (s : Sheet) (path : List Address) : Nat := (path.map s.cost).sum

/-- **A path from a cell through formulas,** given as the formulas before its last one and the
last one. -/
structure Trail (s : Sheet) (a : Address) (front : List Address) (last : Address) : Prop where
  starts : (front ++ [last]).head? = some a
  linked : List.IsChain s.Refers (front ++ [last])
  distinct : (front ++ [last]).Nodup
  formulas : ∀ b ∈ front ++ [last], s.isFormula b = true

/-- **What an error says about the path at whose end it arose.** -/
def Blames (s : Sheet) (front : List Address) (last : Address) : Formula.Error → Prop
  | .circular name => ∃ b ∈ front ++ [last], name = b.name ∧ s.Refers last b ∧
      Relation.TransGen s.Refers b b
  | .notANumber name => ∃ b t, name = b.name ∧ s.Refers last b ∧ s.text? b = some t ∧
      Cell.formula? t = none ∧ Cell.literal? t = none
  | .outOfRange name => ∃ e, s.content? last = some (.formula e) ∧ name ∈ e.references ∧
      s.cell? name = none
  | .tooDeep name => name = last.name ∧ maxDepth < s.pathCost (front ++ [last]) ∧
      s.pathCost front ≤ maxDepth
  | .fault f => ∃ t body, s.text? last = some t ∧ Cell.formula? t = some body ∧
      Formula.parse body = .error f
  | .divisionByZero => ∃ e op l r y z, s.content? last = some (.formula e) ∧
      Expr.Node (.binary op l r) e ∧ s.TreeMeans l y ∧ s.TreeMeans r z ∧
      op.isZeroDivisor z = true
  | .noArguments f => ∃ e, s.content? last = some (.formula e) ∧ Expr.Node (.call f []) e

/-- An error is blamed on a path from a cell. -/
def BlamedFrom (s : Sheet) (a : Address) (err : Formula.Error) : Prop :=
  ∃ front last, s.Trail a front last ∧ s.Blames front last err

variable {s : Sheet} {a b last : Address} {front : List Address}

/-! ## Paths -/

/-- One more formula costs its own. -/
theorem pathCost_append_singleton (s : Sheet) (front : List Address) (last : Address) :
    s.pathCost (front ++ [last]) = s.pathCost front + s.cost last := by
  simp [pathCost]

/-- A formula alone is a path. -/
theorem Trail.single (h : s.isFormula a = true) : s.Trail a [] a where
  starts := rfl
  linked := .singleton a
  distinct := by simp
  formulas := by simpa using h

/-- **A path goes on** to a formula that its last one refers to and that is not on it. -/
theorem Trail.extend (ht : s.Trail a front last) (hr : s.Refers last b) (hb : b ∉ front ++ [last])
    (hf : s.isFormula b = true) : s.Trail a (front ++ [last]) b where
  starts := by
    rw [List.head?_append, ht.starts]
    rfl
  linked := by
    rw [List.append_assoc]
    exact List.isChain_split.2 ⟨ht.linked, .cons_cons hr (.singleton b)⟩
  distinct := by
    rw [List.nodup_append]
    refine ⟨ht.distinct, by simp, fun d hd c hc => ?_⟩
    rw [List.mem_singleton] at hc
    rintro rfl
    exact hb (hc ▸ hd)
  formulas := by
    intro d hd
    rcases List.mem_append.1 hd with hd | hd
    · exact ht.formulas d hd
    · rw [List.mem_singleton] at hd
      exact hd ▸ hf

/-- Every formula on a path leads to the last one. -/
theorem Trail.reaches (ht : s.Trail a front last) (hb : b ∈ front ++ [last]) :
    s.Reaches b last := by
  rcases List.mem_append.1 hb with hb | hb
  · exact ht.linked.backwards_concat_induction (s.Reaches · last) front
      (fun _ _ hr hreach => .head hr hreach) .refl b hb
  · rw [List.mem_singleton.1 hb]

/-! ## Where errors arise -/

/-- A cell that is waiting is on the path, and what refers to it closes a cycle. -/
theorem Trail.blames_circular (ht : s.Trail a front last) (hr : s.Refers last b)
    (hb : b ∈ front ++ [last]) : s.BlamedFrom a (.circular b.name) :=
  ⟨front, last, ht, b, hb, rfl, hr, Relation.TransGen.tail' (ht.reaches hb) hr⟩

/-- A word that is referred to is no number. -/
theorem Trail.blames_notANumber (ht : s.Trail a front last) (hr : s.Refers last b)
    (hc : s.content? b = some .word) : s.BlamedFrom a (.notANumber b.name) := by
  obtain ⟨t, hb, hw⟩ := Option.map_eq_some_iff.1 hc
  obtain ⟨hformula, hliteral⟩ := Cell.content_eq_word_iff.1 hw
  exact ⟨front, last, ht, b, t, rfl, hr, hb, hformula, hliteral⟩

/-- A formula that is broken is to blame itself. -/
theorem Trail.blames_fault {f : Formula.Fault} (ht : s.Trail a front last)
    (hc : s.content? last = some (.broken f)) : s.BlamedFrom a (.fault f) := by
  obtain ⟨t, hlast, hbroken⟩ := Option.map_eq_some_iff.1 hc
  obtain ⟨body, hbody, hparse⟩ := Cell.content_eq_broken_iff.1 hbroken
  exact ⟨front, last, ht, t, body, hlast, hbody, hparse⟩

/-- A formula for which there is no depth left makes its path too expensive. -/
theorem Trail.blames_tooDeep {e : Expr} (ht : s.Trail a front last)
    (hc : s.content? last = some (.formula e)) (hfront : s.pathCost front ≤ maxDepth)
    (hlast : maxDepth < s.pathCost front + (e.depth + 1)) :
    s.BlamedFrom a (.tooDeep last.name) := by
  refine ⟨front, last, ht, rfl, ?_, hfront⟩
  rwa [pathCost_append_singleton, cost_of_formula hc]

/-- An error of a cell that the last formula refers to is blamed on the path as it is, or
arises in a formula with which the path goes on. -/
theorem Trail.blamed_of_reference {k : Nat} {halt : Halt} (ht : s.Trail a front last)
    (hr : s.Refers last b) (h : s.descend (front ++ [last]).reverse k b = .error halt)
    (hnext : s.isFormula b = true → b ∉ front ++ [last] → s.BlamedFrom a halt.error) :
    s.BlamedFrom a halt.error := by
  have hmem : b ∈ (front ++ [last]).reverse ↔ b ∈ front ++ [last] := List.mem_reverse
  cases halts_of_descend h with
  | missing hc =>
    have hin := hr.inBounds
    rw [← isSome_content?, hc] at hin
    cases hin
  | waiting hb hx =>
    subst hx
    exact ht.blames_circular hr (hmem.1 hb)
  | word hb hc hx =>
    subst hx
    exact ht.blames_notANumber hr hc
  | broken f hb hc => exact hnext (isFormula_of_content? hc) (hb ∘ hmem.2)
  | tooDeep e hb hc => exact hnext (isFormula_of_content? hc) (hb ∘ hmem.2)
  | inside e hb hc => exact hnext (isFormula_of_content? hc) (hb ∘ hmem.2)

/-- **An error that arises below the last formula of a path is blamed on a path.** The chain
of the descent is the path that has led there, last formula first, and its depth is the cost
of that path. -/
theorem Trail.blamed_of_descend {front : List Address} {last : Address} {halt : Halt}
    (ht : s.Trail a front last) (hfront : s.pathCost front ≤ maxDepth)
    (h : s.descend front.reverse (s.pathCost front) last = .error halt) :
    s.BlamedFrom a halt.error := by
  have hformula := ht.formulas last (by simp)
  cases halts_of_descend h with
  | missing hc => simp [isFormula_eq, hc] at hformula
  | waiting hlast =>
    have hdistinct := ht.distinct
    rw [List.nodup_append] at hdistinct
    exact absurd rfl (hdistinct.2.2 last (List.mem_reverse.1 hlast) last (by simp))
  | word _ hc => simp [isFormula_of_content? hc, Cell.Content.isFormula] at hformula
  | broken f _ hc hx =>
    subst hx
    exact ht.blames_fault hc
  | tooDeep e _ hc hk hx =>
    subst hx
    exact ht.blames_tooDeep hc hfront hk
  | inside e _ hc hk he =>
    have hcost : s.pathCost (front ++ [last]) = s.pathCost front + (e.depth + 1) := by
      rw [pathCost_append_singleton, cost_of_formula hc]
    rw [← hcost] at he
    cases Expr.answer_error e he with
    | name n hn hx =>
      cases hb : s.cell? n with
      | none =>
        rw [lookFrom, hb] at hx
        cases hx
        exact ⟨front, last, ht, e, hc, hn, hb⟩
      | some b =>
        have hr : s.Refers last b := ⟨e, hc, n, hn, hb⟩
        rw [lookFrom_of_cell? hb, ← List.reverse_concat'] at hx
        refine ht.blamed_of_reference hr hx fun hf hnew => ?_
        exact (ht.extend hr hnew hf).blamed_of_descend (hcost ▸ hk) hx
    | quotient op l r y z hnode hl hr hz hx =>
      subst hx
      exact ⟨front, last, ht, e, op, l, r, y, z, hc, hnode, treeMeans_of_lookFrom hl,
        treeMeans_of_lookFrom hr, hz⟩
    | call f hnode hx =>
      subst hx
      exact ⟨front, last, ht, e, hc, hnode⟩
termination_by maxDepth - s.pathCost front
decreasing_by omega

/-- **Every error is to be blamed on a path from its formula.** -/
theorem exists_trail_of_error (s : Sheet) (a : Address) (err : Formula.Error)
    (h : s.isFormula a = true) (herr : s.valueOf a = .error err) :
    ∃ front last, s.Trail a front last ∧ s.Blames front last err := by
  rw [valueOf_of_isFormula h] at herr
  cases hd : s.descend [] 0 a with
  | ok x => simp [hd] at herr
  | error halt =>
    obtain rfl : halt.error = err := by simpa [hd] using herr
    exact (Trail.single h).blamed_of_descend (Nat.zero_le _) hd

/-- Whether a cell has the error that blames a cycle on the cell with a name. -/
def blamesCycle (s : Sheet) (a : Address) (name : String) : Bool :=
  match s.valueOf a with
  | .error (.circular n) => n == name
  | _ => false

/-- Its value is that error then. -/
theorem valueOf_of_blamesCycle {name : String} (h : s.blamesCycle a name = true) :
    s.valueOf a = .error (.circular name) := by
  rw [blamesCycle] at h
  split at h
  · rename_i n hn
    rw [hn, eq_of_beq h]
  · cases h

/-- A formula that refers to a cycle of two others. -/
def ring : Sheet := (ofTexts? [["=B1+2", "=C1*3", "=B1"]]).getD usual

/-- The hypotheses of `exists_trail_of_error` hold of a formula before a cycle, whose error
names the cell at which the cycle is entered. -/
theorem exists_trail_of_ring_error : ring.isFormula ⟨0, 0⟩ = true ∧
    ring.valueOf ⟨0, 0⟩ = .error (.circular "B1") ∧
    ∃ front last, ring.Trail ⟨0, 0⟩ front last ∧ ring.Blames front last (.circular "B1") := by
  have hformula : ring.isFormula ⟨0, 0⟩ = true := by decide +kernel
  have hcycle : ring.blamesCycle ⟨0, 0⟩ "B1" = true := by decide +kernel
  have herr := valueOf_of_blamesCycle hcycle
  exact ⟨hformula, herr, exists_trail_of_error ring ⟨0, 0⟩ _ hformula herr⟩

end Sheet
end FormulaGrid
