/-
# Parsing formulas

    expression     = additive
    additive       = modular { ( "+" | "-" ) modular }
    modular        = multiplicative { ( "mod" | "%" | "div" ) multiplicative }
    multiplicative = power { ( "*" | "/" ) power }
    power          = step [ "^" power ]
    step           = ( "++" | "--" ) step | sign { "++" | "--" }
    sign           = ( "+" | "-" ) sign | primary
    primary        = number | cell | ( "mmin" | "mmax" ) "(" [ arguments ] ")" | "(" expression ")"
    arguments      = expression { "," expression }

`^` groups to the right, every other operator of two operands to the left. The text is
read from left to right, one lexeme ahead, and the first fault met is the answer: a fault
of a lexeme is met when the lexeme before it is passed.

Two limits bound a formula. The operand of a prefix operator, the right operand of `^`, the
inside of parentheses and the arguments of a call lie one nesting deeper than what is around
them, and no nesting may be deeper than 256. Operators and calls may number at most 1024;
they are counted as they are met.

A parser never gives back a lexeme (`Parser.consumes`), so a repetition that passes a lexeme
in each round comes to an end. The parsers of one nesting are built from those of the next
deeper one (`Level.above`).
-/

import FormulaGrid.Formula.Expr
import FormulaGrid.Formula.Lexeme

namespace FormulaGrid
namespace Formula

/-- The deepest nesting. -/
def maxNesting : Nat := 256

/-- The largest number of operators and calls in one formula. -/
def maxOperators : Nat := 1024

/-- How far a formula has been read. -/
structure Progress where
  /-- The lexemes from the current one on. -/
  items : List Lexeme
  /-- What comes after them: the end of the text or a fault. -/
  stop : Except Fault Nat
  /-- How deep the nesting is. -/
  nesting : Nat
  /-- The number of operators and calls met. -/
  operators : Nat

namespace Progress

/-- The current token, if the text has not ended. -/
def current? (s : Progress) : Option Token := s.items.head?.map Lexeme.token

/-- The place of the current token, or of the end of the text. -/
def position (s : Progress) : Nat :=
  match s.items, s.stop with
  | item :: _, _ => item.start
  | [], .ok length => length
  | [], .error fault => fault.position

/-- A complaint about the current place. -/
def fault (s : Progress) (complaint : Complaint) : Fault := ⟨complaint, s.position⟩

/-- The fault that is met if the text has been read up to one. -/
def metFault? (s : Progress) : Option Fault :=
  match s.items, s.stop with
  | [], .error fault => some fault
  | _, _ => none

/-- The start of a text. -/
def start (text : Lexemes) : Progress := ⟨text.items, text.stop, 0, 0⟩

end Progress

/-- A parser reads some lexemes and answers a value or a fault. It never gives back a
lexeme. -/
structure Parser (α : Type) where
  run : Progress → Except Fault α × Progress
  consumes : ∀ s, (run s).2.items.length ≤ s.items.length

namespace Parser

instance : Monad Parser where
  pure a := ⟨fun s => (.ok a, s), fun _ => Nat.le_refl _⟩
  bind p f :=
    { run := fun s =>
        match p.run s with
        | (.ok a, t) => (f a).run t
        | (.error fault, t) => (.error fault, t)
      consumes := fun s => by
        have h := p.consumes s
        split
        next a t heq =>
          rw [heq] at h
          exact Nat.le_trans ((f a).consumes t) h
        next heq =>
          rw [heq] at h
          exact h }

/-- The current token, if the text has not ended. -/
def current : Parser (Option Token) := ⟨fun s => (.ok s.current?, s), fun _ => Nat.le_refl _⟩

/-- Answers a complaint about the current place. -/
def refuse {α : Type} (complaint : Complaint) : Parser α :=
  ⟨fun s => (.error (s.fault complaint), s), fun _ => Nat.le_refl _⟩

/-- The current token cannot stand here. -/
def unexpected {α : Type} : Parser α := do
  match ← current with
  | some token => refuse (.unexpectedToken token)
  | none => refuse .unexpectedEnd

/-- Refuses the fault that follows the lexemes read so far, if one does. -/
def meet : Parser Unit where
  run s :=
    match s.metFault? with
    | some fault => (.error fault, s)
    | none => (.ok (), s)
  consumes s := by split <;> exact Nat.le_refl _

/-- Passes the current lexeme. -/
def advance : Parser Unit where
  run s := meet.run { s with items := s.items.tail }
  consumes s := by
    have h := meet.consumes { s with items := s.items.tail }
    have : s.items.tail.length ≤ s.items.length := by simp
    exact Nat.le_trans h this

/-- Passing a lexeme leaves one fewer. -/
theorem advance_lt {s : Progress} (h : s.items ≠ []) :
    (advance.run s).2.items.length < s.items.length := by
  have h₁ := meet.consumes { s with items := s.items.tail }
  have h₂ : s.items.tail.length < s.items.length := by
    cases hs : s.items with
    | nil => exact absurd hs h
    | cons _ _ => simp
  exact Nat.lt_of_le_of_lt h₁ h₂

/-- Counts an operator or call. -/
def countOperator : Parser Unit where
  run s :=
    let t := { s with operators := s.operators + 1 }
    if t.operators > maxOperators then (.error (t.fault .tooManyOperators), t) else (.ok (), t)
  consumes s := by dsimp only; split <;> exact Nat.le_refl _

/-- Counting leaves the lexemes as they are. -/
theorem countOperator_items (s : Progress) : (countOperator.run s).2.items = s.items := by
  unfold countOperator; dsimp only; split <;> rfl

/-- Parses one nesting deeper, if that is not too deep. -/
def nested {α : Type} (p : Parser α) : Parser α where
  run s :=
    if s.nesting ≥ maxNesting then (.error (s.fault .nestedTooDeeply), s)
    else
      let (answer, t) := p.run { s with nesting := s.nesting + 1 }
      (answer, { t with nesting := t.nesting - 1 })
  consumes s := by
    split
    · exact Nat.le_refl _
    · exact p.consumes { s with nesting := s.nesting + 1 }

/-- Passes a delimiter, which has to be the current token. -/
def expect (wanted : Token) (isWanted : Token → Bool) : Parser Unit := do
  let found ← current
  if found.any isWanted then advance else refuse (.expected wanted found)

/-- Passes an opening parenthesis. -/
def expectLeftParen : Parser Unit := expect .leftParen (· matches .leftParen)

/-- Passes a closing parenthesis. -/
def expectRightParen : Parser Unit := expect .rightParen (· matches .rightParen)

/-- One round of a repetition: something before the current lexeme is passed, that lexeme,
and the rest of the round. -/
def round {β : Type} (before : Parser Unit) (rest : Parser β) : Parser β := do
  before
  advance
  rest

/-- A round that starts at a lexeme passes it. -/
theorem round_lt {β : Type} {before : Parser Unit} {rest : Parser β} {s t : Progress} {b : β}
    (kept : ∀ s, (before.run s).2.items = s.items) (hs : s.items ≠ [])
    (h : (round before rest).run s = (.ok b, t)) : t.items.length < s.items.length := by
  have ht : t = ((round before rest).run s).2 := by rw [h]
  have hk := kept s
  simp only [round, bind] at h ht
  rcases hb : before.run s with ⟨_ | u, s₁⟩
  · simp [hb] at h
  · have e : s₁.items = s.items := by rw [hb] at hk; exact hk
    have hlt := advance_lt (s := s₁) (by rw [e]; exact hs)
    rcases ha : advance.run s₁ with ⟨_ | v, s₂⟩
    · simp [hb, ha] at h
    · have hle := rest.consumes s₂
      simp only [hb, ha] at ht
      rw [ha, e] at hlt
      rw [ht]
      exact Nat.lt_of_le_of_lt hle hlt

/-- Repeats rounds as long as the current token `continues` them, each making a new value
from the one before. -/
def repeatFrom {α β : Type} (continues : Token → Option β) (before : Parser Unit)
    (kept : ∀ s, (before.run s).2.items = s.items) (step : α → β → Parser α) (a : α)
    (s : Progress) : Except Fault α × Progress :=
  match _hc : s.current?.bind continues with
  | none => (.ok a, s)
  | some b =>
    match _hr : (round before (step a b)).run s with
    | (.error fault, t) => (.error fault, t)
    | (.ok a', t) => repeatFrom continues before kept step a' t
termination_by s.items.length
decreasing_by
  refine round_lt kept ?_ _hr
  intro h
  simp [Progress.current?, h] at _hc

/-- A repetition gives back no lexeme. -/
theorem repeatFrom_consumes {α β : Type} (continues : Token → Option β) (before : Parser Unit)
    (kept : ∀ s, (before.run s).2.items = s.items) (step : α → β → Parser α) (a : α)
    (s : Progress) :
    (repeatFrom continues before kept step a s).2.items.length ≤ s.items.length := by
  fun_induction repeatFrom continues before kept step a s with
  | case1 => exact Nat.le_refl _
  | case2 a s b _ fault t hr =>
    have h := (round before (step a b)).consumes s
    rw [hr] at h
    exact h
  | case3 a s b _ a' t hr ih =>
    have h := (round before (step a b)).consumes s
    rw [hr] at h
    exact Nat.le_trans ih h

/-- Rounds that each count an operator. -/
def operatorRounds {α β : Type} (continues : Token → Option β) (step : α → β → Parser α)
    (a : α) : Parser α where
  run := repeatFrom continues countOperator countOperator_items step a
  consumes := repeatFrom_consumes continues countOperator countOperator_items step a

/-- Rounds that count nothing. -/
def plainRounds {α β : Type} (continues : Token → Option β) (step : α → β → Parser α)
    (a : α) : Parser α where
  run := repeatFrom continues (pure ()) (fun _ => rfl) step a
  consumes := repeatFrom_consumes continues (pure ()) (fun _ => rfl) step a

/-- Operands with operators between them, grouped to the left. -/
def chain (operator? : Token → Option BinaryOp) (operand : Parser Expr) : Parser Expr := do
  let first ← operand
  operatorRounds operator? (fun left op => do
    let right ← operand
    pure (.binary op left right)) first

end Parser

/-- The operator of two operands between the terms of a sum. -/
def additiveOp? : Token → Option BinaryOp
  | .plus => some .add
  | .minus => some .subtract
  | _ => none

/-- The operator between the operands of a remainder or whole quotient. -/
def modularOp? : Token → Option BinaryOp
  | .mod => some .remainder
  | .percent => some .remainder
  | .div => some .wholeQuotient
  | _ => none

/-- The operator between the factors of a product. -/
def multiplicativeOp? : Token → Option BinaryOp
  | .times => some .multiply
  | .divide => some .divide
  | _ => none

/-- The operator that adds or takes away one, before or after its operand. -/
def stepOp? : Token → Option UnaryOp
  | .increment => some .increment
  | .decrement => some .decrement
  | _ => none

/-- The sign before an operand. -/
def signOp? : Token → Option UnaryOp
  | .plus => some .pos
  | .minus => some .neg
  | _ => none

/-- The comma between two arguments. -/
def comma? : Token → Option Unit
  | .comma => some ()
  | _ => none

/-- The parsers that one nesting offers to the nesting around it. -/
structure Level where
  sign : Parser Expr
  step : Parser Expr
  power : Parser Expr
  expression : Parser Expr
  arguments : Parser (List Expr)

namespace Level

open Formula.Parser

/-- The level below the deepest nesting, at which nothing is parsed. -/
def ground : Level :=
  ⟨refuse .nestedTooDeeply, refuse .nestedTooDeeply, refuse .nestedTooDeeply,
    refuse .nestedTooDeeply, refuse .nestedTooDeeply⟩

section
variable (inner : Level)

/-- A call, from its keyword on. -/
def call (function : Function) : Parser Expr := do
  countOperator
  advance
  expectLeftParen
  let args ← nested inner.arguments
  expectRightParen
  pure (.call function args)

/-- An expression in parentheses, from the opening one on. -/
def group : Parser Expr := do
  advance
  let e ← nested inner.expression
  expectRightParen
  pure e

/-- A number, a reference, a call or a group. -/
def primary : Parser Expr := do
  match ← current with
  | some (.number value) => do advance; pure (.number value)
  | some (.cell name) => do advance; pure (.reference name)
  | some .mmin => inner.call .mmin
  | some .mmax => inner.call .mmax
  | some .leftParen => inner.group
  | _ => unexpected

/-- An operator before its operand. -/
def prefixed (op : UnaryOp) (operand : Parser Expr) : Parser Expr := do
  countOperator
  advance
  let e ← nested operand
  pure (.unary op e)

/-- Signs before a primary. -/
def signed : Parser Expr := do
  match (← current).bind signOp? with
  | some op => prefixed op inner.sign
  | none => inner.primary

/-- Steps before or after a signed primary. -/
def stepped : Parser Expr := do
  match (← current).bind stepOp? with
  | some op => prefixed op inner.step
  | none => do
    let e ← inner.signed
    operatorRounds stepOp? (fun e op => pure (.unary op e)) e

/-- A power, grouped to the right. -/
def powered : Parser Expr := do
  let base ← inner.stepped
  match ← current with
  | some .power => do
    countOperator
    advance
    let exponent ← nested inner.power
    pure (.binary .power base exponent)
  | _ => pure base

/-- A sum of remainders and whole quotients of products of powers. -/
def sum : Parser Expr :=
  chain additiveOp? (chain modularOp? (chain multiplicativeOp? inner.powered))

/-- Arguments up to a closing parenthesis, which may come at once. -/
def argumentList : Parser (List Expr) := do
  match ← current with
  | some .rightParen => pure []
  | _ => do
    let first ← inner.sum
    let args ← plainRounds comma? (fun args _ => do
      let e ← inner.sum
      pure (e :: args)) [first]
    pure args.reverse

/-- **The parsers of the nesting around one whose parsers are given.** -/
def above : Level :=
  ⟨inner.signed, inner.stepped, inner.powered, inner.sum, inner.argumentList⟩

end

/-- The level that stands a number of levels above a given one. -/
def tower (bottom : Level) : Nat → Level
  | 0 => bottom
  | n + 1 => (tower bottom n).above

/-- The outermost level: below it lie as many as the nesting may be deep. -/
def top : Level := tower ground (maxNesting + 1)

end Level

/-- A whole text: an expression and nothing after it. -/
def Parser.whole (level : Level) : Parser Expr := do
  meet
  let e ← level.expression
  match ← current with
  | none => pure e
  | some _ => unexpected

/-- **The tree of a formula's text**, without the sign of equality before it, or the first
fault in it. -/
def parse (cs : List Char) : Except Fault Expr :=
  ((Parser.whole Level.top).run (.start (lexemes cs))).1

end Formula
end FormulaGrid
