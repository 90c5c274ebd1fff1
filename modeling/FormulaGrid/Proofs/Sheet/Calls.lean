/-
# How deep calls are nested

A formula is evaluated by a call for its cell, in which there are calls for the cells that it names,
and so on. `Called` says which calls are made while the number of a cell is looked for, for each of
them the formulas that are being evaluated then and the context that the call is made in.

| | at most |
| --- | --- |
| sum of heights plus one, over the formulas that are being evaluated | 4096 |
| formulas that are being evaluated | 2048 |
| calls inside one another | 2049 |

A call keeps the first limit by asking for it, and one formula is never among them twice because the
chain of the context is just these cells (`Called.bounded`). Every formula costs two or more, which
gives the others. So nothing is lost if calls may be nested that often and no more:
`called_bounded_and_numberWithin_eq` says that the number is the same, whatever would be done if it
took one call more.
-/

import FormulaGrid.Proofs.Formula.Question
import FormulaGrid.Proofs.Sheet.Blame

namespace FormulaGrid

open Formula (Evaluation Expr Resolver)

/-- The context in which the formula of a cell is evaluated that adds `n` to the depth. -/
def Context.evaluating {k : Nat} (a : Address) (n : Nat) (c : Context.At k) : Context.At (k + n) :=
  ⟨⟨a :: c.1.chain, c.1.depth + n⟩, by rw [c.2]⟩

namespace Sheet

open Context (waiting evaluating)

/-! ## Calls -/

/-- **A call for a cell evaluates a formula:** the cell is not waiting and there is depth left. -/
structure Evaluates (s : Sheet) {k : Nat} (c : Context.At k) (a : Address) (e : Expr) : Prop where
  notWaiting : a ∉ c.1.chain
  content : s.content? a = some (.formula e)
  room : k + (e.depth + 1) ≤ maxDepth

/-- **The calls that are made** while the number of the cell `a` is looked for in a fresh context:
the cells whose formulas are being evaluated then, the last one first; the context; and the cell
that is called. -/
inductive Called (s : Sheet) (a : Address) :
    List Address → {k : Nat} → Context.At k → Address → Prop
  | first : Called s a [] (waiting [] 0) a
  | nested {stack : List Address} {k : Nat} {c : Context.At k} {b d : Address} {e : Expr}
      {n : String} {c' : Context.At (k + (e.depth + 1))} :
      Called s a stack c b → s.Evaluates c b e →
      e.Asks (s.resolveAt (k + (e.depth + 1))) (evaluating b (e.depth + 1) c) n c' →
      s.cell? n = some d → Called s a (b :: stack) c' d

/-- **What holds of the cells whose formulas are being evaluated** at one moment. -/
structure Bounded (s : Sheet) (stack : List Address) : Prop where
  distinct : stack.Nodup
  cost : s.pathCost stack ≤ maxDepth
  length : stack.length ≤ 2048

variable {s : Sheet} {a b : Address} {stack : List Address} {k : Nat} {c : Context.At k}

/-! ## What holds of every call -/

/-- A run that ends with a number and whose answer is known keeps the state. -/
theorem eq_of_ending_eq_ok {σ ε α : Type} {report : ε → Formula.Error × σ} {c c' : σ} {x : α}
    {answer : Except ε α} (h : Evaluation.ending report c answer = (.ok x, c')) : c' = c := by
  cases answer with
  | ok y =>
    cases h
    rfl
  | error y => cases h

/-- **Every name is asked for in the context that its formula is evaluated in,** since the numbers
before it have left that as it was. -/
theorem eq_of_asks {chain : List Address} {e : Expr} {n : String} {c c' : Context.At k}
    (h : e.Asks (s.resolveAt k) c n c') (hc : c = waiting chain k) : c' = waiting chain k := by
  have hlook := fun n => resolveAt_run (s.numberAt_run chain k) n
  induction h with
  | reference => exact hc
  | operand _ _ ih => exact ih hc
  | left _ _ _ ih => exact ih hc
  | @right l _ _ _ _ _ _ _ hl _ ih =>
    subst hc
    rw [Expr.evaluate_run (⟨·, chain⟩) (Halt.report k) (fun _ => rfl) l fun n _ => hlook n] at hl
    exact ih (eq_of_ending_eq_ok hl)
  | @argument before _ _ _ _ _ _ _ _ hbefore _ ih =>
    subst hc
    rw [Expr.evaluateAll_run (⟨·, chain⟩) (Halt.report k) (fun _ => rfl) before
      fun n _ => hlook n] at hbefore
    exact ih (eq_of_ending_eq_ok hbefore)

/-- **The context of a call** is that in which the formulas that are being evaluated wait, at the
depth that they cost. -/
theorem Called.context (h : s.Called a stack c b) :
    k = s.pathCost stack ∧ c = waiting stack k := by
  induction h with
  | first => exact ⟨rfl, rfl⟩
  | @nested stack k c b d e n c' _ heval hasks _ ih =>
    obtain ⟨hk, rfl⟩ := ih
    refine ⟨?_, eq_of_asks hasks rfl⟩
    rw [hk, pathCost, pathCost, List.map_cons, List.sum_cons, cost_of_formula heval.content]
    omega

/-- The cells whose formulas are being evaluated hold formulas. -/
theorem Called.two_le_cost (h : s.Called a stack c b) : ∀ d ∈ stack, 2 ≤ s.cost d := by
  induction h with
  | first => simp
  | nested _ heval _ _ ih =>
    refine List.forall_mem_cons.2 ⟨?_, ih⟩
    rw [cost_of_formula heval.content]
    exact Nat.succ_le_succ (Expr.depth_pos _)

/-- Cells that each cost two or more are no more than half of what they cost. -/
theorem two_mul_length_le (h : ∀ d ∈ stack, 2 ≤ s.cost d) :
    2 * stack.length ≤ s.pathCost stack := by
  induction stack with
  | nil => exact Nat.le_refl 0
  | cons d stack ih =>
    obtain ⟨hd, hstack⟩ := List.forall_mem_cons.1 h
    have := ih hstack
    rw [pathCost, List.map_cons, List.sum_cons, ← pathCost, List.length_cons]
    omega

/-- Distinct formulas within the depth are not too many. -/
theorem Bounded.of_cost (hdistinct : stack.Nodup) (hcost : s.pathCost stack ≤ maxDepth)
    (htwo : ∀ d ∈ stack, 2 ≤ s.cost d) : s.Bounded stack where
  distinct := hdistinct
  cost := hcost
  length := by
    have hlength := two_mul_length_le htwo
    rw [maxDepth] at hcost
    omega

/-- A formula that comes to be evaluated keeps the bounds. -/
theorem Called.bounded_cons {e : Expr} (h : s.Called a stack c b) (hstack : s.Bounded stack)
    (heval : s.Evaluates c b e) : s.Bounded (b :: stack) := by
  obtain ⟨hk, rfl⟩ := h.context
  have hcost : s.cost b = e.depth + 1 := cost_of_formula heval.content
  refine .of_cost (List.nodup_cons.2 ⟨heval.notWaiting, hstack.distinct⟩) ?_ ?_
  · have hroom := heval.room
    rw [pathCost, List.map_cons, List.sum_cons, ← pathCost, hcost]
    omega
  · refine List.forall_mem_cons.2 ⟨?_, h.two_le_cost⟩
    rw [hcost]
    exact Nat.succ_le_succ (Expr.depth_pos _)

/-- **The bounds are kept by every call.** -/
theorem Called.bounded (h : s.Called a stack c b) : s.Bounded stack := by
  induction h with
  | first => exact ⟨List.nodup_nil, Nat.zero_le _, Nat.zero_le _⟩
  | nested hcall heval _ _ ih => exact hcall.bounded_cons ih heval

/-! ## A limited number of calls -/

/-- The resolver that finds the numbers of cells in a given way. -/
def resolveWith {σ : Type} (s : Sheet) (number : Address → Evaluation σ Float) : Resolver σ :=
  fun name =>
    match Address.ofName? name with
    | some b => if s.inBounds b then number b else throw (.outOfRange name)
    | none => throw (.outOfRange name)

/-- **What is done in a call,** except for the calls in it, which are made by `call`. -/
def numberWith (s : Sheet) (call : (k : Nat) → Address → Evaluation (Context.At k) Float) (k : Nat)
    (a : Address) : Evaluation (Context.At k) Float := do
  match s.text? a with
  | none => throw (.outOfRange a.name)
  | some text =>
    if a ∈ (← get).1.chain then throw (.circular a.name)
    else
      modify (Context.enter a)
      match Cell.formula? text with
      | none =>
        modify (Context.leave a)
        match Cell.literal? text with
        | some x => pure x
        | none => throw (.notANumber a.name)
      | some body =>
        match Formula.parse body with
        | .error f => throw (.fault f)
        | .ok e =>
          if k + (e.depth + 1) ≤ maxDepth then
            let x ← Context.deeper (e.depth + 1)
              (e.evaluate (s.resolveWith (call (k + (e.depth + 1)))))
            modify (Context.leave a)
            pure x
          else throw (.tooDeep a.name)

/-- **The number of a cell if calls may be nested a number of times only.** One call more does
`beyond` instead. -/
def numberWithin (s : Sheet) (beyond : (k : Nat) → Address → Evaluation (Context.At k) Float) :
    Nat → (k : Nat) → Address → Evaluation (Context.At k) Float
  | 0 => beyond
  | n + 1 => s.numberWith (numberWithin s beyond n)

/-- In a call without a limit the calls in it have none. -/
theorem numberAt_eq_numberWith (s : Sheet) (k : Nat) (a : Address) :
    s.numberAt k a = s.numberWith s.numberAt k a := by
  rw [numberAt]
  rfl

/-- A deeper evaluation starts in the deeper context and takes the depth off again. -/
theorem deeper_run_congr {n : Nat} {m m' : Evaluation (Context.At (k + n)) Float}
    (h : m.run.run ⟨⟨c.1.chain, c.1.depth + n⟩, by rw [c.2]⟩ =
      m'.run.run ⟨⟨c.1.chain, c.1.depth + n⟩, by rw [c.2]⟩) :
    (Context.deeper n m).run.run c = (Context.deeper n m').run.run c :=
  let back (p : Except Formula.Error Float × Context.At (k + n)) :
      Except Formula.Error Float × Context.At k :=
    (p.1, ⟨{ p.2.1 with depth := p.2.1.depth - n }, by simp [p.2.2]⟩)
  congrArg back h

/-- A name is resolved by the number of its cell. -/
theorem resolveWith_run_congr {σ : Type} {number number' : Address → Evaluation σ Float} {c : σ}
    {n : String}
    (h : ∀ d, s.cell? n = some d → (number d).run.run c = (number' d).run.run c) :
    (s.resolveWith number n).run.run c = (s.resolveWith number' n).run.run c := by
  rw [resolveWith, resolveWith]
  cases hname : Address.ofName? n with
  | none => rfl
  | some d =>
    dsimp only
    cases hd : s.inBounds d with
    | false => rfl
    | true => exact h d (cell?_eq_some_iff.2 ⟨hname, hd⟩)

/-- **What is done in a call depends on the calls in it only.** -/
theorem numberWith_run_congr
    {call call' : (k : Nat) → Address → Evaluation (Context.At k) Float}
    (h : ∀ e n c' d, s.Evaluates c b e →
      e.Asks (s.resolveWith (call (k + (e.depth + 1)))) (evaluating b (e.depth + 1) c) n c' →
      s.cell? n = some d → (call _ d).run.run c' = (call' _ d).run.run c') :
    (s.numberWith call k b).run.run c = (s.numberWith call' k b).run.run c := by
  rw [numberWith, numberWith]
  cases ht : s.text? b with
  | none => rfl
  | some text =>
    dsimp only
    rw [Evaluation.run_bind, Evaluation.run_bind, Evaluation.run_get]
    dsimp only
    by_cases hb : b ∈ c.1.chain
    · simp only [hb, if_true]
    simp only [hb, if_false, Evaluation.run_bind, Evaluation.run_modify]
    cases hbody : Cell.formula? text with
    | none => rfl
    | some body =>
      dsimp only
      cases hparse : Formula.parse body with
      | error f => rfl
      | ok e =>
        by_cases hk : k + (e.depth + 1) ≤ maxDepth
        · have hc : s.content? b = some (.formula e) := by
            simp [content?, ht, Cell.content, hbody, hparse]
          have hdeeper := deeper_run_congr (c := Context.enter b c)
            (Expr.evaluate_congr_of_asks e (evaluating b (e.depth + 1) c) fun n c' hasks =>
              resolveWith_run_congr fun d hd => h e n c' d ⟨hb, hc, hk⟩ hasks hd)
          simp only [hk, if_true, Evaluation.run_bind, hdeeper]
        · simp only [hk, if_false]

/-- **Calls that may be nested so often do not exceed the limit.** -/
theorem Called.numberWithin_run {n : Nat} (h : s.Called a stack c b) (hn : 2049 ≤ stack.length + n)
    (beyond : (k : Nat) → Address → Evaluation (Context.At k) Float) :
    (s.numberWithin beyond n k b).run.run c = (s.numberAt k b).run.run c := by
  induction n generalizing stack k b with
  | zero =>
    have hlength := h.bounded.length
    omega
  | succ n ih =>
    rw [numberAt_eq_numberWith, numberWithin]
    symm
    refine numberWith_run_congr fun e m c' d heval hasks hd => ?_
    refine (ih (h.nested heval hasks hd) ?_).symm
    rw [List.length_cons]
    omega

/-- **Following references never goes deeper than it may.** At every call that is made while the
number of a cell is looked for, the cells whose formulas are being evaluated are distinct, they cost
no more than the depth that references may have, and they are 2048 at most, so that the call is one
of 2049 inside one another at most; the same holds of them and the cell that is called, if its
formula is evaluated. And if calls may be nested 2049 times only, the number or error is the same
and the context is left the same, whatever would be done beyond. -/
theorem called_bounded_and_numberWithin_eq (s : Sheet) (a : Address) :
    (∀ (stack : List Address) (k : Nat) (c : Context.At k) (b : Address), s.Called a stack c b →
      s.Bounded stack ∧ (b :: stack).length ≤ 2049 ∧
        ∀ e, s.Evaluates c b e → s.Bounded (b :: stack)) ∧
    ∀ beyond, (s.numberWithin beyond 2049 0 a).run.run (waiting [] 0) =
      (s.numberAt 0 a).run.run (waiting [] 0) := by
  refine ⟨fun stack k c b h => ?_, fun beyond => ?_⟩
  · exact ⟨h.bounded, Nat.succ_le_succ h.bounded.length, fun e he => h.bounded_cons h.bounded he⟩
  · exact Called.first.numberWithin_run (Nat.le_refl _) beyond

/-- Two formulas that refer to each other. -/
def couple : Sheet := (ofTexts? [["=B1", "=A1"]]).getD usual

/-- The hypotheses of `called_bounded_and_numberWithin_eq` hold of the call for the second formula,
which is evaluated while the first is. -/
theorem called_bounded_and_numberWithin_eq_couple :
    ∃ c : Context.At 2, couple.Called ⟨0, 0⟩ [⟨0, 0⟩] c ⟨0, 1⟩ ∧
      couple.Evaluates c ⟨0, 1⟩ (.reference "A1") ∧ couple.Bounded [⟨0, 1⟩, ⟨0, 0⟩] := by
  have hfirst : couple.content? ⟨0, 0⟩ = some (.formula (.reference "B1")) :=
    content?_of_isReference "B1" (by decide +kernel)
  have hsecond : couple.content? ⟨0, 1⟩ = some (.formula (.reference "A1")) :=
    content?_of_isReference "A1" (by decide +kernel)
  have hcell : couple.cell? "B1" = some ⟨0, 1⟩ := by decide +kernel
  have hcalled : couple.Called ⟨0, 0⟩ [⟨0, 0⟩] (evaluating ⟨0, 0⟩ 2 (waiting [] 0)) ⟨0, 1⟩ :=
    .nested .first ⟨List.not_mem_nil, hfirst, by decide⟩ (.reference "B1" _) hcell
  have hevaluates : couple.Evaluates (evaluating ⟨0, 0⟩ 2 (waiting [] 0)) ⟨0, 1⟩
      (.reference "A1") := ⟨by decide, hsecond, by decide⟩
  have hbounds := (called_bounded_and_numberWithin_eq couple ⟨0, 0⟩).1 _ _ _ _ hcalled
  exact ⟨_, hcalled, hevaluates, hbounds.2.2 _ hevaluates⟩

end Sheet
end FormulaGrid
