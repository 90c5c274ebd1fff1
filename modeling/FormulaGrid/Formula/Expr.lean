/-
# Expression trees

A formula is a tree of numbers, references to cells, operators and calls. Parentheses
leave no node. The height of a tree is that of its longest branch, a lone number or
reference counting one.

| operator | meaning |
| --- | --- |
| `pos`, `neg` | the operand, its negation |
| `increment`, `decrement` | the operand plus one, minus one |
| `add` … `divide`, `power` | arithmetic on doubles |
| `remainder` | remainder of a quotient cut toward zero |
| `wholeQuotient` | quotient of the operands as 32-bit whole numbers |
| `mmin`, `mmax` | the smallest, the largest argument |
-/

namespace FormulaGrid
namespace Formula

/-- Signs and steps, all of one operand. -/
inductive UnaryOp where
  | pos
  | neg
  | increment
  | decrement
deriving DecidableEq, Repr

/-- Operators of two operands. -/
inductive BinaryOp where
  | add
  | subtract
  | multiply
  | divide
  | remainder
  | wholeQuotient
  | power
deriving DecidableEq, Repr

/-- Functions of any number of arguments. -/
inductive Function where
  | mmin
  | mmax
deriving DecidableEq, Repr

/-- The name of a function in formulas. -/
def Function.name : Function → String
  | mmin => "mmin"
  | mmax => "mmax"

/-- The tree of a formula. -/
inductive Expr where
  | number (value : Float)
  /-- The cell of this name, kept in upper case. -/
  | reference (name : String)
  | unary (op : UnaryOp) (operand : Expr)
  | binary (op : BinaryOp) (left right : Expr)
  | call (function : Function) (args : List Expr)
deriving Inhabited

namespace Expr

mutual

/-- **The height of a tree.** -/
def depth : Expr → Nat
  | number _ => 1
  | reference _ => 1
  | unary _ e => 1 + e.depth
  | binary _ l r => 1 + max l.depth r.depth
  | call _ args => 1 + depthOfAll args

/-- The greatest height in a list of trees, zero if there are none. -/
def depthOfAll : List Expr → Nat
  | [] => 0
  | e :: es => max e.depth (depthOfAll es)

end

mutual

/-- The number of operators and calls in a tree. -/
def operators : Expr → Nat
  | number _ => 0
  | reference _ => 0
  | unary _ e => 1 + e.operators
  | binary _ l r => 1 + l.operators + r.operators
  | call _ args => 1 + operatorsOfAll args

/-- The number of operators and calls in a list of trees. -/
def operatorsOfAll : List Expr → Nat
  | [] => 0
  | e :: es => e.operators + operatorsOfAll es

end

mutual

/-- The names of the cells a tree refers to, from left to right, one for each mention. -/
def references : Expr → List String
  | number _ => []
  | reference name => [name]
  | unary _ e => e.references
  | binary _ l r => l.references ++ r.references
  | call _ args => referencesOfAll args

/-- The names that a list of trees refers to, from left to right. -/
def referencesOfAll : List Expr → List String
  | [] => []
  | e :: es => e.references ++ referencesOfAll es

end

/-- A tree has some height. -/
theorem depth_pos (e : Expr) : 0 < e.depth := by
  cases e <;> simp only [depth] <;> omega

end Expr
end Formula
end FormulaGrid
