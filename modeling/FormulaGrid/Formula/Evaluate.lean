/-
# Evaluating formulas

A tree is evaluated from left to right. Whoever asks for the number of a tree says what a
cell name stands for: a `Resolver` answers a number or an error, and may keep a state of
its own from one question to the next. The first error ends the evaluation and is its
answer.

A call without arguments is an error before anything in it is evaluated; there is nothing
in it. The two operands of an operator are evaluated before the divisor is looked at.
-/

import FormulaGrid.Formula.Error
import FormulaGrid.Formula.Parser
import FormulaGrid.Number.Binary

namespace FormulaGrid
namespace Formula

/-- A computation that may keep a state of type `σ` and may end in an error. -/
abbrev Evaluation (σ : Type) := ExceptT Error (StateM σ)

/-- What cell names stand for. -/
abbrev Resolver (σ : Type) := String → Evaluation σ Float

/-- An operator of one operand applied. -/
def UnaryOp.apply : UnaryOp → Float → Float
  | pos, x => x
  | neg, x => -x
  | increment, x => x + 1.0
  | decrement, x => x - 1.0

/-- An operator of two operands applied. Only a quotient can fail, by a zero divisor. -/
def BinaryOp.apply : BinaryOp → Float → Float → Except Error Float
  | add, x, y => .ok (x + y)
  | subtract, x, y => .ok (x - y)
  | multiply, x, y => .ok (x * y)
  | power, x, y => .ok (x.pow y)
  | divide, x, y => if y == 0.0 then .error .divisionByZero else .ok (x / y)
  | remainder, x, y => if y == 0.0 then .error .divisionByZero else .ok (Number.remainder x y)
  | wholeQuotient, x, y =>
    match Number.wholeQuotient? x y with
    | some q => .ok q
    | none => .error .divisionByZero

/-- A function applied to two numbers. -/
def Function.apply : Function → Float → Float → Float
  | mmin, x, y => Number.least x y
  | mmax, x, y => Number.greatest x y

/-- **A function applied to its arguments**, from left to right. -/
def Function.applyAll (f : Function) : List Float → Except Error Float
  | [] => .error (.noArguments f)
  | x :: xs => .ok (xs.foldl f.apply x)

namespace Expr

mutual

/-- **The number of a tree**, if names stand for what `resolve` answers. -/
def evaluate {σ : Type} (resolve : Resolver σ) : Expr → Evaluation σ Float
  | number value => pure value
  | reference name => resolve name
  | unary op e => do
    let x ← e.evaluate resolve
    pure (op.apply x)
  | binary op l r => do
    let x ← l.evaluate resolve
    let y ← r.evaluate resolve
    liftExcept (op.apply x y)
  | call f args => do
    let xs ← evaluateAll resolve args
    liftExcept (f.applyAll xs)
where
  /-- An answer that needs no state. -/
  liftExcept {σ : Type} (answer : Except Error Float) : Evaluation σ Float :=
    ExceptT.mk (pure answer)

/-- The numbers of a list of trees. -/
def evaluateAll {σ : Type} (resolve : Resolver σ) : List Expr → Evaluation σ (List Float)
  | [] => pure []
  | e :: es => do
    let x ← e.evaluate resolve
    let xs ← evaluateAll resolve es
    pure (x :: xs)

end

end Expr

/-- **The number of a formula's text**, if names stand for what `resolve` answers. -/
def evaluateText {σ : Type} (resolve : Resolver σ) (cs : List Char) : Evaluation σ Float :=
  match parse cs with
  | .ok e => e.evaluate resolve
  | .error f => throw (.fault f)

end Formula
end FormulaGrid
