/-
# What the evaluation of a tree asks for

A tree that is evaluated asks for its names from left to right, each in the state that the numbers
before it have left. `Expr.Asks` says for which names and in which states: a name on the right of an
operator is asked for only if the left operand has a number, and one in an argument only if the
arguments before have.

There are no other questions (`evaluate_congr_of_asks`): resolvers that answer these alike give the
tree the same answer and leave the same state.
-/

import FormulaGrid.Proofs.Formula.Answer

namespace FormulaGrid
namespace Formula
namespace Expr

variable {σ : Type}

/-- **A question:** the tree, evaluated from a state, asks for a name in another state. -/
inductive Asks (resolve : Resolver σ) : Expr → σ → String → σ → Prop
  | reference (n : String) (c : σ) : Asks resolve (.reference n) c n c
  | operand {e : Expr} {c d : σ} {n : String} (op : UnaryOp) :
      Asks resolve e c n d → Asks resolve (.unary op e) c n d
  | left {l : Expr} {c d : σ} {n : String} (op : BinaryOp) (r : Expr) :
      Asks resolve l c n d → Asks resolve (.binary op l r) c n d
  | right {l r : Expr} {c c' d : σ} {n : String} {x : Float} (op : BinaryOp) :
      (l.evaluate resolve).run.run c = (.ok x, c') → Asks resolve r c' n d →
      Asks resolve (.binary op l r) c n d
  | argument {before after : List Expr} {e : Expr} {c c' d : σ} {n : String} {xs : List Float}
      (f : Function) : (evaluateAll resolve before).run.run c = (.ok xs, c') →
      Asks resolve e c' n d → Asks resolve (.call f (before ++ e :: after)) c n d

variable {resolve resolve' : Resolver σ}

mutual

/-- **Nothing else is asked for.** -/
theorem evaluate_congr_of_asks : ∀ (e : Expr) (c : σ),
    (∀ n d, Asks resolve e c n d → (resolve n).run.run d = (resolve' n).run.run d) →
    (e.evaluate resolve).run.run c = (e.evaluate resolve').run.run c
  | number _, _, _ => rfl
  | reference n, c, h => h n c (.reference n c)
  | unary op e, c, h => by
    rw [evaluate, evaluate, Evaluation.run_bind, Evaluation.run_bind,
      evaluate_congr_of_asks e c fun n d hd => h n d (.operand op hd)]
  | binary op l r, c, h => by
    have hl := evaluate_congr_of_asks l c fun n d hd => h n d (.left op r hd)
    rw [evaluate, evaluate, Evaluation.run_bind, Evaluation.run_bind, ← hl]
    rcases hrun : (l.evaluate resolve).run.run c with ⟨err | x, c'⟩
    · rfl
    · have hr := evaluate_congr_of_asks r c' fun n d hd => h n d (.right op hrun hd)
      simp only [Evaluation.run_bind, hr]
  | call f args, c, h => by
    have hs := evaluateAll_congr_of_asks args c fun before e after xs c' n d heq hrun hd =>
      h n d (heq ▸ .argument f hrun hd)
    rw [evaluate, evaluate, Evaluation.run_bind, Evaluation.run_bind, hs]

/-- A list of trees asks for what each of them asks for after those before it. -/
theorem evaluateAll_congr_of_asks : ∀ (es : List Expr) (c : σ),
    (∀ before e after xs c' n d, es = before ++ e :: after →
      (evaluateAll resolve before).run.run c = (.ok xs, c') → Asks resolve e c' n d →
      (resolve n).run.run d = (resolve' n).run.run d) →
    (evaluateAll resolve es).run.run c = (evaluateAll resolve' es).run.run c
  | [], _, _ => rfl
  | e :: es, c, h => by
    have he := evaluate_congr_of_asks e c fun n d hd => h [] e es [] c n d rfl rfl hd
    rw [evaluateAll, evaluateAll, Evaluation.run_bind, Evaluation.run_bind, ← he]
    rcases hrun : (e.evaluate resolve).run.run c with ⟨err | x, c'⟩
    · rfl
    · have hs := evaluateAll_congr_of_asks es c' fun before e' after xs c'' n d heq hbefore hd => by
        refine h (e :: before) e' after (x :: xs) c'' n d (by rw [heq]; rfl) ?_ hd
        rw [evaluateAll, Evaluation.run_bind, hrun]
        simp only [Evaluation.run_bind, hbefore]
        rfl
      simp only [Evaluation.run_bind, hs]

end

end Expr
end Formula
end FormulaGrid
