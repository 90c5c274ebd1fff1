/-
# Following references without a state

Where a reference leads is decided by what has been entered on the way: a chain of cells and
a depth, both of which the program changes as it goes. `descend` is handed both and changes
neither: a reference is followed with a longer chain and a greater depth, and the place it is
followed from keeps its own. An error carries the chain of the place where it arose.

`numberAt_run` says that this is all the state there is. A number leaves the context as it
was; an error leaves the chain of its place behind, at the depth the context had.
-/

import FormulaGrid.Proofs.Formula.Answer
import FormulaGrid.Proofs.Sheet.References
import FormulaGrid.Sheet.Evaluate

namespace FormulaGrid

open Formula (Evaluation)

/-- An error and the place where it arose: the formulas entered on the way, the last one
first. -/
structure Halt where
  error : Formula.Error
  chain : List Address

/-- The context in which a chain of cells has been entered, at depth `k`. -/
def Context.waiting (chain : List Address) (k : Nat) : Context.At k := ⟨⟨chain, k⟩, rfl⟩

/-- What an error leaves behind in a context of depth `k`. -/
def Halt.report (k : Nat) (h : Halt) : Formula.Error × Context.At k :=
  (h.error, Context.waiting h.chain k)

namespace Sheet

/-- **The number of a cell** that is entered at depth `k` while the cells of a chain wait, or
the error on the way to it. -/
def descend (s : Sheet) (chain : List Address) (k : Nat) (a : Address) : Except Halt Float :=
  match s.content? a with
  | none => .error ⟨.outOfRange a.name, chain⟩
  | some content =>
    if a ∈ chain then .error ⟨.circular a.name, chain⟩
    else
      match content with
      | .numeral x => .ok x
      | .word => .error ⟨.notANumber a.name, chain⟩
      | .broken f => .error ⟨.fault f, a :: chain⟩
      | .formula e =>
        if _h : k + (e.depth + 1) ≤ maxDepth then
          let look (name : String) : Except Halt Float :=
            match s.cell? name with
            | some b => s.descend (a :: chain) (k + (e.depth + 1)) b
            | none => .error ⟨.outOfRange name, a :: chain⟩
          e.answer look (⟨·, a :: chain⟩)
        else .error ⟨.tooDeep a.name, a :: chain⟩
termination_by maxDepth - k
decreasing_by omega

/-- What a name in a formula stands for, the formula being the first cell of the chain and the
depth that which it has raised. -/
def lookFrom (s : Sheet) (chain : List Address) (k : Nat) (name : String) : Except Halt Float :=
  match s.cell? name with
  | some b => s.descend chain k b
  | none => .error ⟨.outOfRange name, chain⟩

variable {s : Sheet} {chain : List Address} {k : Nat} {a b : Address}

/-- A name of a cell stands for the number of the cell. -/
theorem lookFrom_of_cell? {n : String} (h : s.cell? n = some b) :
    s.lookFrom chain k n = s.descend chain k b := by
  rw [lookFrom, h]

/-- **The number of a formula** is that of its tree, its names being followed from it. -/
theorem descend_formula {e : Formula.Expr} (hc : s.content? a = some (.formula e))
    (ha : a ∉ chain) (hk : k + (e.depth + 1) ≤ maxDepth) :
    s.descend chain k a =
      e.answer (s.lookFrom (a :: chain) (k + (e.depth + 1))) (⟨·, a :: chain⟩) := by
  rw [descend]
  simp only [hc, ha, hk]
  rfl

/-- The number of a numeral. -/
theorem descend_numeral {x : Float} (hc : s.content? a = some (.numeral x)) (ha : a ∉ chain) :
    s.descend chain k a = .ok x := by
  rw [descend, hc]
  simp only [ha, if_false]

/-- A name has a number exactly if it is that of a cell which has one. -/
theorem lookFrom_eq_ok_iff {n : String} {x : Float} :
    s.lookFrom chain k n = .ok x ↔ ∃ b, s.cell? n = some b ∧ s.descend chain k b = .ok x := by
  rw [lookFrom]
  cases s.cell? n <;> simp

/-- **How a number is found:** the cell is not waiting, and it is a numeral or a formula for
which there is depth left and whose tree has that number. -/
theorem descend_ok_cases {v : Float} (h : s.descend chain k a = .ok v) :
    a ∉ chain ∧ (s.content? a = some (.numeral v) ∨
      ∃ e, s.content? a = some (.formula e) ∧ k + (e.depth + 1) ≤ maxDepth ∧
        e.answer (s.lookFrom (a :: chain) (k + (e.depth + 1))) (⟨·, a :: chain⟩) = .ok v) := by
  cases hc : s.content? a with
  | none =>
    rw [descend, hc] at h
    cases h
  | some content =>
    by_cases ha : a ∈ chain
    · rw [descend, hc] at h
      simp [ha] at h
    refine ⟨ha, ?_⟩
    cases content with
    | numeral x =>
      rw [descend_numeral hc ha] at h
      cases h
      exact .inl rfl
    | formula e =>
      by_cases hk : k + (e.depth + 1) ≤ maxDepth
      · rw [descend_formula hc ha hk] at h
        exact .inr ⟨e, rfl, hk, h⟩
      · rw [descend, hc] at h
        simp [ha, hk] at h
    | _ =>
      rw [descend, hc] at h
      simp [ha] at h

/-- **How an error arises** when a cell is entered: there is no such cell, it is waiting, it
is a word or a broken formula, there is no depth left for it, or its tree has the error. -/
inductive Halts (s : Sheet) (chain : List Address) (k : Nat) (a : Address) (halt : Halt) : Prop
  | missing : s.content? a = none → halt = ⟨.outOfRange a.name, chain⟩ → Halts s chain k a halt
  | waiting : a ∈ chain → halt = ⟨.circular a.name, chain⟩ → Halts s chain k a halt
  | word : a ∉ chain → s.content? a = some .word → halt = ⟨.notANumber a.name, chain⟩ →
      Halts s chain k a halt
  | broken (f : Formula.Fault) : a ∉ chain → s.content? a = some (.broken f) →
      halt = ⟨.fault f, a :: chain⟩ → Halts s chain k a halt
  | tooDeep (e : Formula.Expr) : a ∉ chain → s.content? a = some (.formula e) →
      maxDepth < k + (e.depth + 1) → halt = ⟨.tooDeep a.name, a :: chain⟩ → Halts s chain k a halt
  | inside (e : Formula.Expr) : a ∉ chain → s.content? a = some (.formula e) →
      k + (e.depth + 1) ≤ maxDepth →
      e.answer (s.lookFrom (a :: chain) (k + (e.depth + 1))) (⟨·, a :: chain⟩) = .error halt →
      Halts s chain k a halt

/-- Every error arises in one of these ways. -/
theorem halts_of_descend {halt : Halt} (h : s.descend chain k a = .error halt) :
    s.Halts chain k a halt := by
  rw [descend] at h
  cases hc : s.content? a with
  | none =>
    rw [hc] at h
    cases h
    exact .missing hc rfl
  | some content =>
    rw [hc] at h
    by_cases ha : a ∈ chain
    · simp only [ha, if_true] at h
      cases h
      exact .waiting ha rfl
    simp only [ha, if_false] at h
    cases content with
    | numeral x => cases h
    | word =>
      cases h
      exact .word ha hc rfl
    | broken f =>
      cases h
      exact .broken f ha hc rfl
    | formula e =>
      by_cases hk : k + (e.depth + 1) ≤ maxDepth
      · simp only [hk, dite_true] at h
        exact .inside e ha hc hk h
      · simp only [hk, dite_false] at h
        cases h
        exact .tooDeep e ha hc (by omega) rfl

/-! ## Entering cells in a context -/

open Context (waiting)

/-- Leaving the cell entered last gives the context before it. -/
theorem leave_waiting (a : Address) (chain : List Address) (k : Nat) :
    Context.leave a (waiting (a :: chain) k) = waiting chain k := by
  simp [Context.leave, waiting]

/-- The depth is given back by a deeper evaluation, however it ends. -/
theorem deeper_run {n : Nat} {m : Evaluation (Context.At (k + n)) Float} {r : Except Halt Float}
    (h : m.run.run (waiting chain (k + n)) =
      Evaluation.ending (Halt.report (k + n)) (waiting chain (k + n)) r) :
    (Context.deeper n m).run.run (waiting chain k) =
      Evaluation.ending (Halt.report k) (waiting chain k) r := by
  set p := m.run.run (waiting chain (k + n)) with hp
  have hrun : (Context.deeper n m).run.run (waiting chain k) =
      (p.1, ⟨⟨p.2.1.chain, p.2.1.depth - n⟩, by simp [p.2.2]⟩) := rfl
  rw [hrun]
  simp only [h]
  cases r <;> simp [Evaluation.ending, Halt.report, waiting]

/-- The resolver with which a formula that has raised the depth to `k` is evaluated. -/
def resolveAt (s : Sheet) (k : Nat) : Formula.Resolver (Context.At k) := fun name =>
  match Address.ofName? name with
  | some b => if s.inBounds b then s.numberAt k b else throw (.outOfRange name)
  | none => throw (.outOfRange name)

/-- What is done in a cell that has been entered. -/
def inside (s : Sheet) (k : Nat) (a : Address) : Cell.Content → Evaluation (Context.At k) Float
  | .numeral x => do
    modify (Context.leave a)
    pure x
  | .word => do
    modify (Context.leave a)
    throw (.notANumber a.name)
  | .broken f => throw (.fault f)
  | .formula e =>
    if k + (e.depth + 1) ≤ maxDepth then do
      let x ← Context.deeper (e.depth + 1) (e.evaluate (s.resolveAt (k + (e.depth + 1))))
      modify (Context.leave a)
      pure x
    else throw (.tooDeep a.name)

/-- **Entering a cell:** it has to exist and must not be waiting; the rest depends on its
content alone. -/
theorem numberAt_eq (s : Sheet) (k : Nat) (a : Address) : s.numberAt k a =
    (match s.content? a with
    | none => throw (.outOfRange a.name)
    | some content => do
      if a ∈ (← get).1.chain then throw (.circular a.name)
      else
        modify (Context.enter a)
        s.inside k a content) := by
  rw [numberAt, content?]
  cases s.text? a with
  | none => rfl
  | some t =>
    simp only [Option.map_some, Cell.content]
    cases Cell.formula? t with
    | none => cases Cell.literal? t <;> rfl
    | some body =>
      dsimp only
      cases Formula.parse body <;> rfl

/-- A cell that is waiting is not entered. -/
theorem numberAt_run_of_mem {content : Cell.Content} (hc : s.content? a = some content)
    (ha : a ∈ chain) :
    (s.numberAt k a).run.run (waiting chain k) =
      (.error (.circular a.name), waiting chain k) := by
  rw [numberAt_eq, hc]
  dsimp only
  rw [Evaluation.run_bind, Evaluation.run_get]
  simp only [waiting, ha, if_true]
  rfl

/-- A cell that exists and is not waiting is entered. -/
theorem numberAt_run_of_notMem {content : Cell.Content} (hc : s.content? a = some content)
    (ha : a ∉ chain) :
    (s.numberAt k a).run.run (waiting chain k) =
      (s.inside k a content).run.run (waiting (a :: chain) k) := by
  rw [numberAt_eq, hc]
  dsimp only
  rw [Evaluation.run_bind, Evaluation.run_get]
  simp only [waiting, ha, if_false]
  rfl

/-- A name is resolved to what it stands for, if cells come to their numbers. -/
theorem resolveAt_run
    (h : ∀ b, (s.numberAt k b).run.run (waiting chain k) =
      Evaluation.ending (Halt.report k) (waiting chain k) (s.descend chain k b)) (n : String) :
    (s.resolveAt k n).run.run (waiting chain k) =
      Evaluation.ending (Halt.report k) (waiting chain k) (s.lookFrom chain k n) := by
  rw [resolveAt, lookFrom, cell?]
  cases Address.ofName? n with
  | none => rfl
  | some b =>
    cases hb : s.inBounds b with
    | false =>
      simp only [Option.filter, hb]
      rfl
    | true => simpa [Option.filter, hb] using h b

/-- **A run in a context is a descent from it.** Its chain and depth are what the descent is
handed, a number gives both back, and an error gives back the depth and leaves the chain of
the place where it arose. -/
theorem numberAt_run (s : Sheet) (chain : List Address) (k : Nat) (a : Address) :
    (s.numberAt k a).run.run (waiting chain k) =
      Evaluation.ending (Halt.report k) (waiting chain k) (s.descend chain k a) := by
  induction chain, k, a using descend.induct s with
  | case1 chain k a hc =>
    rw [numberAt_eq, descend, hc]
    rfl
  | case2 chain k a content hc ha =>
    rw [numberAt_run_of_mem hc ha, descend, hc]
    simp only [ha, if_true]
    rfl
  | case3 chain k a ha x hc =>
    rw [numberAt_run_of_notMem hc ha, descend_numeral hc ha]
    simp only [inside, Evaluation.run_bind, Evaluation.run_modify, leave_waiting]
    rfl
  | case4 chain k a ha hc =>
    rw [numberAt_run_of_notMem hc ha, descend, hc]
    simp only [inside, Evaluation.run_bind, Evaluation.run_modify, leave_waiting, ha, if_false]
    rfl
  | case5 chain k a ha f hc =>
    rw [numberAt_run_of_notMem hc ha, descend, hc]
    simp only [ha, if_false]
    rfl
  | case6 chain k a ha e hk hc ih =>
    have hbody := Formula.Expr.evaluate_run (⟨·, a :: chain⟩) (Halt.report (k + (e.depth + 1)))
      (fun _ => rfl) e fun n _ => resolveAt_run ih n
    rw [numberAt_run_of_notMem hc ha, descend_formula hc ha hk]
    simp only [inside, hk, if_true, Evaluation.run_bind, deeper_run hbody]
    cases e.answer (s.lookFrom (a :: chain) (k + (e.depth + 1))) (⟨·, a :: chain⟩) with
    | error x => rfl
    | ok x =>
      simp only [Evaluation.ending, Evaluation.run_modify, leave_waiting]
      rfl
  | case7 chain k a ha e hk hc =>
    rw [numberAt_run_of_notMem hc ha, descend, hc]
    simp only [inside, ha, hk, if_false]
    rfl

/-! ## Values -/

/-- **The value of a formula** is the number or error of a descent from nothing. -/
theorem valueOf_of_isFormula (h : s.isFormula a = true) :
    s.valueOf a =
      match s.descend [] 0 a with
      | .ok x => .number x
      | .error halt => .error halt.error := by
  obtain ⟨t, ht, hf⟩ := (Option.any_eq_true _ _).1 h
  have henter : (s.enter .fresh a).1 = ((s.numberAt 0 a).run.run (waiting [] 0)).1 := rfl
  rw [valueOf, ht]
  simp only [Cell.isBlank_of_isFormula hf, hf, henter, numberAt_run]
  cases s.descend [] 0 a <;> rfl

/-- **The value of a text that is no formula** needs nothing but the text. -/
theorem valueOf_eq_of_not_isFormula {t : Sheet} (htext : t.text? a = s.text? a)
    (h : s.isFormula a = false) : t.valueOf a = s.valueOf a := by
  rw [valueOf, valueOf, htext]
  cases ht : s.text? a with
  | none => rfl
  | some text =>
    have hf : Cell.isFormula text = false := by simpa [isFormula, ht] using h
    simp [hf]

end Sheet
end FormulaGrid
