/-
# Following references

The number of a cell is that of its literal, or of its formula with every reference
standing for the number of the cell it names. References are followed by entering the cell
they name, which happens in a context:

* the *chain* holds the cells entered and not left. A cell is left when its number is
  known; an error leaves behind the formulas it passed through. Entering a cell that is in
  the chain is an error, so no cell waits for its own number;
* the *depth* is the sum, over the formulas that wait for a number, of the height of the
  formula plus one. A formula that would bring it above 4096 is an error.

Every formula entered adds at least two to the depth, so following references ends. The
depth is given back whether a number is found or not: a context of depth `k` is again one
of depth `k` afterwards, which is why the two are one type, `Context.At k`.
-/

import FormulaGrid.Formula.Evaluate
import FormulaGrid.Sheet.Basic

namespace FormulaGrid

open Formula (Evaluation Resolver)

/-- The largest sum of heights plus one, over the formulas that wait for a number. -/
def maxDepth : Nat := 4096

/-- What has been entered on the way to a cell. -/
structure Context where
  /-- The cells entered and not left, the last one first. -/
  chain : List Address
  /-- The sum of the heights of the waiting formulas, plus one for each. -/
  depth : Nat

namespace Context

/-- The context in which nothing has been entered. -/
def fresh : Context := ⟨[], 0⟩

/-- The contexts of one depth. -/
abbrev At (k : Nat) := { c : Context // c.depth = k }

/-- Enters a cell. -/
def enter {k : Nat} (a : Address) (c : At k) : At k :=
  ⟨{ c.1 with chain := a :: c.1.chain }, c.2⟩

/-- Leaves a cell. -/
def leave {k : Nat} (a : Address) (c : At k) : At k :=
  ⟨{ c.1 with chain := c.1.chain.erase a }, c.2⟩

/-- Evaluates at a depth greater by `n`, which is taken off again afterwards. -/
def deeper {k : Nat} {α : Type} (n : Nat) (m : Evaluation (At (k + n)) α) : Evaluation (At k) α :=
  ExceptT.mk fun c =>
    let (answer, d) := m.run.run ⟨{ c.1 with depth := c.1.depth + n }, by rw [c.2]⟩
    (answer, ⟨{ d.1 with depth := d.1.depth - n }, by simp [d.2]⟩)

end Context

namespace Sheet

/-- **The number of a cell**, entered in a context of depth `k`. -/
def numberAt (s : Sheet) (k : Nat) (a : Address) : Evaluation (Context.At k) Float := do
  match s.text? a with
  | none => throw (.outOfRange a.name)
  | some text =>
    if a ∈ (← get).1.chain then throw (.circular a.name)
    else
      modify (Context.enter a)
      match Cell.formula? text with
      | none =>
        modify (Context.leave a)
        match Cell.literal? text with
        | some x => pure x
        | none => throw (.notANumber a.name)
      | some body =>
        match Formula.parse body with
        | .error f => throw (.fault f)
        | .ok e =>
          if _h : k + (e.depth + 1) ≤ maxDepth then
            let resolve : Resolver (Context.At (k + (e.depth + 1))) := fun name =>
              match Address.ofName? name with
              | some b =>
                if s.inBounds b then s.numberAt (k + (e.depth + 1)) b
                else throw (.outOfRange name)
              | none => throw (.outOfRange name)
            let x ← Context.deeper (e.depth + 1) (e.evaluate resolve)
            modify (Context.leave a)
            pure x
          else throw (.tooDeep a.name)
termination_by maxDepth - k
decreasing_by omega

/-- The number of a cell entered in a context, and the context afterwards. -/
def enter (s : Sheet) (c : Context) (a : Address) : Except Formula.Error Float × Context :=
  let (answer, d) := (s.numberAt c.depth a).run.run ⟨c, rfl⟩
  (answer, d.1)

/-- **The value of a cell as its text and the other cells' texts make it:** nothing for a
blank, the text of a literal, the number or error of a formula. -/
def valueOf (s : Sheet) (a : Address) : Value :=
  match s.text? a with
  | none => .empty
  | some text =>
    if Cell.isBlank text then .empty
    else if Cell.isFormula text then
      match (s.enter .fresh a).1 with
      | .ok x => .number x
      | .error e => .error e
    else .text text

end Sheet
end FormulaGrid
