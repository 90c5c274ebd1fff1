/-
# Derivations of the grammar

A derivation says how a sequence of tokens is an expression of the grammar. It has one
constructor for every way in which a symbol of the grammar is made up; parentheses and
repetitions are in it as they stand in the text.

| symbol | made up of |
| --- | --- |
| `chain t` | an operand of the tier, then any number of rounds, each an operator and an operand |
| `power` | a step, perhaps `^` and a power |
| `step` | a step operator and a step, or a sign and any number of step operators |
| `sign` | a sign operator and a sign, or a primary |
| `primary` | a number, a cell, a call, or a chain of the additive tier in parentheses |

The tokens of a derivation are its `yield`, the expression it stands for is its `tree`, and
`nesting` is the largest number of parentheses, argument lists, operands of prefix operators and
right operands of `^` that lie around one place of it.

**The grammar is unambiguous** (`Derivation.eq_of_append`): two derivations of one symbol whose
yields begin one text are the same, if the text goes on after both with a token that could not
go on with the symbol. The token after an operand decides that. Tokens are ranked by the
loosest symbol that they do not go on with, and the symbols by how loosely they bind.
-/

import FormulaGrid.Formula.Parser

namespace FormulaGrid
namespace Formula

/-! ## Derivations -/

/-- The chains of operands with operators between them, the loosest one first. -/
inductive Tier where
  | additive
  | modular
  | multiplicative
deriving DecidableEq

/-- The symbols of the grammar that stand for an expression. -/
inductive Symbol where
  | chain (t : Tier)
  | power
  | step
  | sign
  | primary
deriving DecidableEq

/-- What the operands of a chain are. -/
def Tier.operand : Tier → Symbol
  | additive => .chain .modular
  | modular => .chain .multiplicative
  | multiplicative => .power

/-- The spellings of the operators between the operands of a chain. -/
inductive Operator : Tier → Type where
  | plus : Operator .additive
  | minus : Operator .additive
  | mod : Operator .modular
  | percent : Operator .modular
  | div : Operator .modular
  | times : Operator .multiplicative
  | divide : Operator .multiplicative

/-- The operators that stand before a step or after a sign. -/
inductive Step where
  | increment
  | decrement

/-- The operators that stand before a sign. -/
inductive Sign where
  | plus
  | minus

namespace Operator

variable {t : Tier}

/-- The token of an operator. -/
def token : Operator t → Token
  | plus => .plus
  | minus => .minus
  | mod => .mod
  | percent => .percent
  | div => .div
  | times => .times
  | divide => .divide

/-- What an operator does. -/
def op : Operator t → BinaryOp
  | plus => .add
  | minus => .subtract
  | mod => .remainder
  | percent => .remainder
  | div => .wholeQuotient
  | times => .multiply
  | divide => .divide

end Operator

/-- The token of a step operator. -/
def Step.token : Step → Token
  | increment => .increment
  | decrement => .decrement

/-- What a step operator does. -/
def Step.op : Step → UnaryOp
  | increment => .increment
  | decrement => .decrement

/-- The token of a sign operator. -/
def Sign.token : Sign → Token
  | plus => .plus
  | minus => .minus

/-- What a sign operator does. -/
def Sign.op : Sign → UnaryOp
  | plus => .pos
  | minus => .neg

/-- The keyword of a function. -/
def Function.token : Function → Token
  | mmin => .mmin
  | mmax => .mmax

mutual

/-- **The derivations of a symbol.** -/
inductive Derivation : Symbol → Type where
  | chain {t : Tier} (first : Derivation t.operand) (rounds : Rounds t) : Derivation (.chain t)
  | base (x : Derivation .step) : Derivation .power
  | raised (x : Derivation .step) (y : Derivation .power) : Derivation .power
  | stepped (o : Step) (x : Derivation .step) : Derivation .step
  | unstepped (x : Derivation .sign) (os : List Step) : Derivation .step
  | signed (o : Sign) (x : Derivation .sign) : Derivation .sign
  | unsigned (x : Derivation .primary) : Derivation .sign
  | number (value : Float) : Derivation .primary
  | cell (name : String) : Derivation .primary
  | call (f : Function) (args : Arguments) : Derivation .primary
  | group (x : Derivation (.chain .additive)) : Derivation .primary

/-- What follows the first operand of a chain: `{ operator operand }`. -/
inductive Rounds : Tier → Type where
  | done {t : Tier} : Rounds t
  | round {t : Tier} (o : Operator t) (x : Derivation t.operand) (more : Rounds t) : Rounds t

/-- What stands between the parentheses of a call: `[ expression { "," expression } ]`. -/
inductive Arguments : Type where
  | empty : Arguments
  | list (first : Derivation (.chain .additive)) (more : MoreArguments) : Arguments

/-- What follows the first argument of a call: `{ "," expression }`. -/
inductive MoreArguments : Type where
  | done : MoreArguments
  | argument (x : Derivation (.chain .additive)) (more : MoreArguments) : MoreArguments

end

mutual

/-- **The tokens of a derivation**, from left to right. -/
def Derivation.yield {c : Symbol} : Derivation c → List Token
  | .chain first rounds => first.yield ++ rounds.yield
  | .base x => x.yield
  | .raised x y => x.yield ++ .power :: y.yield
  | .stepped o x => o.token :: x.yield
  | .unstepped x os => x.yield ++ os.map Step.token
  | .signed o x => o.token :: x.yield
  | .unsigned x => x.yield
  | .number value => [.number value]
  | .cell name => [.cell name]
  | .call f args => f.token :: .leftParen :: (args.yield ++ [.rightParen])
  | .group x => .leftParen :: (x.yield ++ [.rightParen])

/-- The tokens of rounds. -/
def Rounds.yield {t : Tier} : Rounds t → List Token
  | .done => []
  | .round o x more => o.token :: (x.yield ++ more.yield)

/-- The tokens of arguments. -/
def Arguments.yield : Arguments → List Token
  | .empty => []
  | .list first more => first.yield ++ more.yield

/-- The tokens of further arguments. -/
def MoreArguments.yield : MoreArguments → List Token
  | .done => []
  | .argument x more => .comma :: (x.yield ++ more.yield)

end

mutual

/-- **The expression of a derivation.** A chain is grouped to the left and a power to the right;
parentheses leave nothing. -/
def Derivation.tree {c : Symbol} : Derivation c → Expr
  | .chain first rounds => rounds.treeFrom first.tree
  | .base x => x.tree
  | .raised x y => .binary .power x.tree y.tree
  | .stepped o x => .unary o.op x.tree
  | .unstepped x os => os.foldl (fun e o => .unary o.op e) x.tree
  | .signed o x => .unary o.op x.tree
  | .unsigned x => x.tree
  | .number value => .number value
  | .cell name => .reference name
  | .call f args => .call f args.trees
  | .group x => x.tree

/-- The expression of rounds after what stands before them. -/
def Rounds.treeFrom {t : Tier} : Rounds t → Expr → Expr
  | .done, left => left
  | .round o x more, left => more.treeFrom (.binary o.op left x.tree)

/-- The expressions of arguments. -/
def Arguments.trees : Arguments → List Expr
  | .empty => []
  | .list first more => first.tree :: more.trees

/-- The expressions of further arguments. -/
def MoreArguments.trees : MoreArguments → List Expr
  | .done => []
  | .argument x more => x.tree :: more.trees

end

mutual

/-- **How deep a derivation nests.** -/
def Derivation.nesting {c : Symbol} : Derivation c → Nat
  | .chain first rounds => max first.nesting rounds.nesting
  | .base x => x.nesting
  | .raised x y => max x.nesting (1 + y.nesting)
  | .stepped _ x => 1 + x.nesting
  | .unstepped x _ => x.nesting
  | .signed _ x => 1 + x.nesting
  | .unsigned x => x.nesting
  | .number _ => 0
  | .cell _ => 0
  | .call _ args => 1 + args.nesting
  | .group x => 1 + x.nesting

/-- How deep rounds nest. -/
def Rounds.nesting {t : Tier} : Rounds t → Nat
  | .done => 0
  | .round _ x more => max x.nesting more.nesting

/-- How deep arguments nest. -/
def Arguments.nesting : Arguments → Nat
  | .empty => 0
  | .list first more => max first.nesting more.nesting

/-- How deep further arguments nest. -/
def MoreArguments.nesting : MoreArguments → Nat
  | .done => 0
  | .argument x more => max x.nesting more.nesting

end

/-! ## What begins a symbol and what ends it -/

/-- Whether a symbol has a derivation that begins with a token. -/
def Symbol.begins : Symbol → Token → Bool
  | _, .number _ => true
  | _, .cell _ => true
  | _, .mmin => true
  | _, .mmax => true
  | _, .leftParen => true
  | .primary, _ => false
  | _, .plus => true
  | _, .minus => true
  | .sign, _ => false
  | _, .increment => true
  | _, .decrement => true
  | _, _ => false

/-- How loosely a symbol binds. -/
def Symbol.rank : Symbol → Nat
  | primary => 0
  | sign => 0
  | step => 1
  | power => 2
  | chain .multiplicative => 3
  | chain .modular => 4
  | chain .additive => 5

/-- The rank of the symbols that a token can go on with after one of their derivations. Tighter
symbols end before it. -/
def Token.rank : Token → Nat
  | increment => 1
  | decrement => 1
  | power => 2
  | times => 3
  | divide => 3
  | mod => 4
  | percent => 4
  | div => 4
  | plus => 5
  | minus => 5
  | _ => 6

/-- **A symbol ends before a text:** the text is over or starts with a token that does not go on
with the symbol. -/
def Symbol.Ends (c : Symbol) (rest : List Token) : Prop := ∀ tok ∈ rest.head?, c.rank < tok.rank

section
variable {c c' : Symbol} {t : Tier} {tok : Token} {rest : List Token}

/-- A symbol ends before a token of a greater rank. -/
theorem Symbol.ends_cons : c.Ends (tok :: rest) ↔ c.rank < tok.rank := by
  simp [Symbol.Ends]

/-- A tighter symbol ends earlier. -/
theorem Symbol.Ends.mono (h : c.Ends rest) (hc : c'.rank ≤ c.rank) : c'.Ends rest :=
  fun tok htok => Nat.lt_of_le_of_lt hc (h tok htok)

/-- No token goes on with a symbol of rank zero. -/
theorem Symbol.ends_of_rank (hc : c.rank = 0) (rest : List Token) : c.Ends rest := by
  intro tok _
  rw [hc]
  cases tok <;> simp [Token.rank]

/-- The operands of a chain bind tighter than the chain. -/
theorem Tier.rank_operand_lt (t : Tier) : t.operand.rank < (Symbol.chain t).rank := by
  cases t <;> decide

/-- The operators of a chain go on with it. -/
theorem Operator.rank_token (o : Operator t) : o.token.rank = (Symbol.chain t).rank := by
  cases o <;> rfl

/-- Step operators go on with a step. -/
theorem Step.rank_token (o : Step) : o.token.rank = Symbol.step.rank := by
  cases o <;> rfl

/-- An operand ends before the rounds that follow it, if the chain ends after them. -/
theorem Rounds.ends (rounds : Rounds t) (h : (Symbol.chain t).Ends rest) :
    t.operand.Ends (rounds.yield ++ rest) := by
  cases rounds with
  | done => exact h.mono (Nat.le_of_lt t.rank_operand_lt)
  | round o x more =>
    rw [Rounds.yield, List.cons_append, Symbol.ends_cons, o.rank_token]
    exact t.rank_operand_lt

/-- An argument ends before the arguments that follow it, if the last one ends after them. -/
theorem MoreArguments.ends (more : MoreArguments) (h : (Symbol.chain .additive).Ends rest) :
    (Symbol.chain .additive).Ends (more.yield ++ rest) := by
  cases more with
  | done => exact h
  | argument x more => exact Symbol.ends_cons.2 (by decide)

/-- An argument ends before a closing parenthesis. -/
theorem Symbol.ends_rightParen :
    (Symbol.chain .additive).Ends (.rightParen :: rest) :=
  Symbol.ends_cons.2 (by decide)

/-- A step ends before a `^`. -/
theorem Symbol.ends_power : Symbol.step.Ends (.power :: rest) :=
  Symbol.ends_cons.2 (by decide)

/-- What begins a symbol begins the symbols that may be made up of it alone. -/
theorem Symbol.begins_of_rank_le (h : c.begins tok) (hc : c.rank ≤ c'.rank) (hc' : c' ≠ .primary) :
    c'.begins tok := by
  cases tok <;> rcases c with (_ | _ | _) | _ | _ | _ | _ <;>
    rcases c' with (_ | _ | _) | _ | _ | _ | _ <;> simp_all [Symbol.begins, Symbol.rank]

end

/-- **A derivation begins with a token that begins its symbol.** -/
theorem Derivation.begins : ∀ {c : Symbol} (d : Derivation c),
    ∃ tok rest, d.yield = tok :: rest ∧ c.begins tok
  | _, .chain (t := t) x rounds => by
    obtain ⟨tok, rest, hx, hb⟩ := x.begins
    refine ⟨tok, rest ++ rounds.yield, by simp [Derivation.yield, hx], ?_⟩
    exact Symbol.begins_of_rank_le hb (Nat.le_of_lt t.rank_operand_lt) (by simp)
  | _, .base x => by
    obtain ⟨tok, rest, hx, hb⟩ := x.begins
    exact ⟨tok, rest, by rw [Derivation.yield, hx],
      Symbol.begins_of_rank_le hb (by decide) (by simp)⟩
  | _, .raised x y => by
    obtain ⟨tok, rest, hx, hb⟩ := x.begins
    exact ⟨tok, rest ++ .power :: y.yield, by simp [Derivation.yield, hx],
      Symbol.begins_of_rank_le hb (by decide) (by simp)⟩
  | _, .stepped o x => ⟨o.token, x.yield, by rw [Derivation.yield], by cases o <;> rfl⟩
  | _, .unstepped x os => by
    obtain ⟨tok, rest, hx, hb⟩ := x.begins
    exact ⟨tok, rest ++ os.map Step.token, by simp [Derivation.yield, hx],
      Symbol.begins_of_rank_le hb (by decide) (by simp)⟩
  | _, .signed o x => ⟨o.token, x.yield, by rw [Derivation.yield], by cases o <;> rfl⟩
  | _, .unsigned x => by
    obtain ⟨tok, rest, hx, hb⟩ := x.begins
    exact ⟨tok, rest, by rw [Derivation.yield, hx],
      Symbol.begins_of_rank_le hb (by decide) (by simp)⟩
  | _, .number value => ⟨.number value, [], by rw [Derivation.yield], rfl⟩
  | _, .cell name => ⟨.cell name, [], by rw [Derivation.yield], rfl⟩
  | _, .call f _ => ⟨f.token, _, by rw [Derivation.yield], by cases f <;> rfl⟩
  | _, .group _ => ⟨.leftParen, _, by rw [Derivation.yield], rfl⟩

/-- A derivation begins with no other token. -/
theorem Derivation.yield_append_ne {c : Symbol} (d : Derivation c) {tok : Token}
    (h : c.begins tok = false) (r r' : List Token) : d.yield ++ r ≠ tok :: r' := by
  obtain ⟨first, rest, hd, hb⟩ := d.begins
  rw [hd, List.cons_append]
  rintro heq
  rw [(List.cons.inj heq).1, h] at hb
  cases hb

/-! ## One derivation -/

/-- An operator is known by its token in its tier. -/
theorem Operator.token_injective {t : Tier} {o o' : Operator t} (h : o.token = o'.token) :
    o = o' := by
  cases o <;> cases o' <;> first | rfl | cases h

/-- A step operator is known by its token. -/
theorem Step.token_injective {o o' : Step} (h : o.token = o'.token) : o = o' := by
  cases o <;> cases o' <;> first | rfl | cases h

/-- A sign operator is known by its token. -/
theorem Sign.token_injective {o o' : Sign} (h : o.token = o'.token) : o = o' := by
  cases o <;> cases o' <;> first | rfl | cases h

/-- A function is known by its keyword. -/
theorem Function.token_injective {f f' : Function} (h : f.token = f'.token) : f = f' := by
  cases f <;> cases f' <;> first | rfl | cases h

/-- A step ends before no step operator. -/
theorem Step.not_ends (o : Step) (rest : List Token) :
    ¬ Symbol.step.Ends (o.token :: rest) := by
  rw [Symbol.ends_cons, o.rank_token]
  exact Nat.lt_irrefl _

/-- A chain ends before none of its operators. -/
theorem Operator.not_ends {t : Tier} (o : Operator t) (rest : List Token) :
    ¬ (Symbol.chain t).Ends (o.token :: rest) := by
  rw [Symbol.ends_cons, o.rank_token]
  exact Nat.lt_irrefl _

/-- Steps after a sign are all the step operators there are. -/
theorem eq_of_steps_append : ∀ {os os' : List Step} {r r' : List Token},
    Symbol.step.Ends r → Symbol.step.Ends r' →
    os.map Step.token ++ r = os'.map Step.token ++ r' → os = os' ∧ r = r'
  | [], [], _, _, _, _, h => ⟨rfl, h⟩
  | [], o' :: _, _, _, hr, _, h => by
    rw [List.map_nil, List.nil_append] at h
    exact absurd (h ▸ hr) (o'.not_ends _)
  | o :: _, [], _, _, _, hr', h => by
    rw [List.map_nil, List.nil_append] at h
    exact absurd (h ▸ hr') (o.not_ends _)
  | o :: os, o' :: os', r, r', hr, hr', h => by
    simp only [List.map_cons, List.cons_append, List.cons.injEq] at h
    obtain ⟨rfl, rfl⟩ := eq_of_steps_append hr hr' h.2
    exact ⟨by rw [Step.token_injective h.1], rfl⟩

mutual

/-- **A text begins with one derivation of a symbol at most**, if the symbol has to end after
it. -/
theorem Derivation.eq_of_append : ∀ {c : Symbol} (d d' : Derivation c) {r r' : List Token},
    c.Ends r → c.Ends r' → d.yield ++ r = d'.yield ++ r' → d = d' ∧ r = r'
  | _, .chain x rounds, .chain x' rounds', r, r', hr, hr', h => by
    simp only [Derivation.yield, List.append_assoc] at h
    obtain ⟨rfl, hrest⟩ := x.eq_of_append x' (rounds.ends hr) (rounds'.ends hr') h
    obtain ⟨rfl, rfl⟩ := rounds.eq_of_append rounds' hr hr' hrest
    exact ⟨rfl, rfl⟩
  | _, .base x, .base x', r, r', hr, hr', h => by
    simp only [Derivation.yield] at h
    obtain ⟨rfl, rfl⟩ := x.eq_of_append x' (hr.mono (by decide)) (hr'.mono (by decide)) h
    exact ⟨rfl, rfl⟩
  | _, .base x, .raised x' y', r, r', hr, hr', h => by
    simp only [Derivation.yield, List.append_assoc] at h
    obtain ⟨-, rfl⟩ :=
      x.eq_of_append x' (hr.mono (by decide)) Symbol.ends_power h
    exact absurd (Symbol.ends_cons.1 hr) (by decide)
  | _, .raised x y, .base x', r, r', hr, hr', h => by
    simp only [Derivation.yield, List.append_assoc] at h
    obtain ⟨-, rfl⟩ :=
      x.eq_of_append x' Symbol.ends_power (hr'.mono (by decide)) h
    exact absurd (Symbol.ends_cons.1 hr') (by decide)
  | _, .raised x y, .raised x' y', r, r', hr, hr', h => by
    simp only [Derivation.yield, List.append_assoc] at h
    obtain ⟨rfl, hrest⟩ :=
      x.eq_of_append x' Symbol.ends_power Symbol.ends_power h
    obtain ⟨rfl, rfl⟩ := y.eq_of_append y' hr hr' (List.cons.inj hrest).2
    exact ⟨rfl, rfl⟩
  | _, .stepped o x, .stepped o' x', r, r', hr, hr', h => by
    simp only [Derivation.yield, List.cons_append, List.cons.injEq] at h
    obtain ⟨rfl, rfl⟩ := x.eq_of_append x' hr hr' h.2
    exact ⟨by rw [Step.token_injective h.1], rfl⟩
  | _, .stepped o x, .unstepped x' os', r, r', hr, hr', h => by
    simp only [Derivation.yield, List.cons_append, List.append_assoc] at h
    exact absurd h.symm (x'.yield_append_ne (by cases o <;> rfl) _ _)
  | _, .unstepped x os, .stepped o' x', r, r', hr, hr', h => by
    simp only [Derivation.yield, List.cons_append, List.append_assoc] at h
    exact absurd h (x.yield_append_ne (by cases o' <;> rfl) _ _)
  | _, .unstepped x os, .unstepped x' os', r, r', hr, hr', h => by
    simp only [Derivation.yield, List.append_assoc] at h
    obtain ⟨rfl, hrest⟩ :=
      x.eq_of_append x' (Symbol.ends_of_rank rfl _) (Symbol.ends_of_rank rfl _) h
    obtain ⟨rfl, rfl⟩ := eq_of_steps_append hr hr' hrest
    exact ⟨rfl, rfl⟩
  | _, .signed o x, .signed o' x', r, r', hr, hr', h => by
    simp only [Derivation.yield, List.cons_append, List.cons.injEq] at h
    obtain ⟨rfl, rfl⟩ := x.eq_of_append x' hr hr' h.2
    exact ⟨by rw [Sign.token_injective h.1], rfl⟩
  | _, .signed o x, .unsigned x', r, r', hr, hr', h => by
    simp only [Derivation.yield, List.cons_append] at h
    exact absurd h.symm (x'.yield_append_ne (by cases o <;> rfl) _ _)
  | _, .unsigned x, .signed o' x', r, r', hr, hr', h => by
    simp only [Derivation.yield, List.cons_append] at h
    exact absurd h (x.yield_append_ne (by cases o' <;> rfl) _ _)
  | _, .unsigned x, .unsigned x', r, r', hr, hr', h => by
    simp only [Derivation.yield] at h
    obtain ⟨rfl, rfl⟩ := x.eq_of_append x' hr hr' h
    exact ⟨rfl, rfl⟩
  | _, .number value, d', r, r', hr, hr', h => by
    cases d' with
    | number value' => simpa [Derivation.yield] using h
    | call f => cases f <;> simp [Derivation.yield, Function.token] at h
    | _ => simp [Derivation.yield] at h
  | _, .cell name, d', r, r', hr, hr', h => by
    cases d' with
    | cell name' => simpa [Derivation.yield] using h
    | call f => cases f <;> simp [Derivation.yield, Function.token] at h
    | _ => simp [Derivation.yield] at h
  | _, .call f args, d', r, r', hr, hr', h => by
    cases d' with
    | call f' args' =>
      simp only [Derivation.yield, List.cons_append, List.append_assoc, List.cons.injEq,
        true_and] at h
      obtain ⟨rfl, rfl⟩ := args.eq_of_append args' h.2
      exact ⟨by rw [Function.token_injective h.1], rfl⟩
    | _ => cases f <;> simp [Derivation.yield, Function.token] at h
  | _, .group x, d', r, r', hr, hr', h => by
    cases d' with
    | group x' =>
      simp only [Derivation.yield, List.cons_append, List.append_assoc, List.cons.injEq,
        true_and] at h
      obtain ⟨rfl, hrest⟩ :=
        x.eq_of_append x' Symbol.ends_rightParen Symbol.ends_rightParen h
      exact ⟨rfl, (List.cons.inj hrest).2⟩
    | call f => cases f <;> simp [Derivation.yield, Function.token] at h
    | _ => simp [Derivation.yield] at h
termination_by structural _ d => d

/-- The rounds of a chain are all the rounds there are. -/
theorem Rounds.eq_of_append : ∀ {t : Tier} (rounds rounds' : Rounds t) {r r' : List Token},
    (Symbol.chain t).Ends r → (Symbol.chain t).Ends r' →
    rounds.yield ++ r = rounds'.yield ++ r' → rounds = rounds' ∧ r = r'
  | _, .done, .done, _, _, _, _, h => ⟨rfl, h⟩
  | _, .done, .round o' x' more', r, r', hr, hr', h => by
    simp only [Rounds.yield, List.nil_append, List.cons_append] at h
    exact absurd (h ▸ hr) (o'.not_ends _)
  | _, .round o x more, .done, r, r', hr, hr', h => by
    simp only [Rounds.yield, List.nil_append, List.cons_append] at h
    exact absurd (h ▸ hr') (o.not_ends _)
  | _, .round o x more, .round o' x' more', r, r', hr, hr', h => by
    simp only [Rounds.yield, List.cons_append, List.append_assoc, List.cons.injEq] at h
    obtain ⟨rfl, hrest⟩ := x.eq_of_append x' (more.ends hr) (more'.ends hr') h.2
    obtain ⟨rfl, rfl⟩ := more.eq_of_append more' hr hr' hrest
    exact ⟨by rw [Operator.token_injective h.1], rfl⟩
termination_by structural _ rounds => rounds

/-- The arguments of a call are what there is up to its closing parenthesis. -/
theorem Arguments.eq_of_append : ∀ (args args' : Arguments) {r r' : List Token},
    args.yield ++ .rightParen :: r = args'.yield ++ .rightParen :: r' → args = args' ∧ r = r'
  | .empty, .empty, _, _, h => ⟨rfl, (List.cons.inj h).2⟩
  | .empty, .list x' more', r, r', h => by
    simp only [Arguments.yield, List.nil_append, List.append_assoc] at h
    exact absurd h.symm (x'.yield_append_ne rfl _ _)
  | .list x more, .empty, r, r', h => by
    simp only [Arguments.yield, List.nil_append, List.append_assoc] at h
    exact absurd h (x.yield_append_ne rfl _ _)
  | .list x more, .list x' more', r, r', h => by
    simp only [Arguments.yield, List.append_assoc] at h
    obtain ⟨rfl, hrest⟩ := x.eq_of_append x' (more.ends Symbol.ends_rightParen)
      (more'.ends Symbol.ends_rightParen) h
    obtain ⟨rfl, rfl⟩ := more.eq_of_append more' hrest
    exact ⟨rfl, rfl⟩
termination_by structural args => args

/-- Further arguments are what there is up to the closing parenthesis. -/
theorem MoreArguments.eq_of_append : ∀ (more more' : MoreArguments) {r r' : List Token},
    more.yield ++ .rightParen :: r = more'.yield ++ .rightParen :: r' → more = more' ∧ r = r'
  | .done, .done, _, _, h => ⟨rfl, (List.cons.inj h).2⟩
  | .done, .argument x' more', _, _, h => by simp [MoreArguments.yield] at h
  | .argument x more, .done, _, _, h => by simp [MoreArguments.yield] at h
  | .argument x more, .argument x' more', r, r', h => by
    simp only [MoreArguments.yield, List.cons_append, List.append_assoc, List.cons.injEq,
      true_and] at h
    obtain ⟨rfl, hrest⟩ := x.eq_of_append x' (more.ends Symbol.ends_rightParen)
      (more'.ends Symbol.ends_rightParen) h
    obtain ⟨rfl, rfl⟩ := more.eq_of_append more' hrest
    exact ⟨rfl, rfl⟩
termination_by structural more => more

end

/-- **A sequence of tokens has one derivation at most.** -/
theorem Derivation.eq_of_yield_eq {c : Symbol} {d d' : Derivation c} (h : d.yield = d'.yield) :
    d = d' := by
  have hend : c.Ends [] := by simp [Symbol.Ends]
  exact (d.eq_of_append d' hend hend (by rw [h])).1

end Formula
end FormulaGrid
