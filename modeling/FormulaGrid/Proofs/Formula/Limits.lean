/-
# What the limits bound

The parser counts two things: the operators and calls that it has met, and how deep the nesting is
that it is in.

| counter | what it bounds |
| --- | --- |
| `operators` | the operators and calls of the tree, and by that its height |
| `nesting` | how deep parsers are run inside one another |

The operators and calls of the tree are as many as were counted (`Derivation.operators_tree`), and a
branch has one of them in each step but the last (`Expr.depth_le_operators`).

Every parser leaves the nesting as it found it, also where it fails (`Level.keepsNesting_tower`). To
say that none is run too deep, every level is fenced: at a nesting greater than the limit its
parsers do whatever those of another level do (`Level.fencedTower`). This changes nothing
(`Level.sameAt_fencedTower`). Both are read off one relation between parsers: to do the same at a
nesting and to stay at it (`Parser.SameAt`).
-/

import FormulaGrid.Proofs.Formula.Acceptance
import FormulaGrid.Proofs.Formula.Lexing

namespace FormulaGrid
namespace Formula

/-! ## Operators and calls -/

namespace Expr

mutual

/-- **Every step up a branch is an operator or call.** -/
theorem depth_le_operators : ∀ e : Expr, e.depth ≤ e.operators + 1
  | number _ => Nat.le_refl 1
  | reference _ => Nat.le_refl 1
  | unary _ e => by
    have he := e.depth_le_operators
    simp only [depth, operators]
    omega
  | binary _ l r => by
    have hl := l.depth_le_operators
    have hr := r.depth_le_operators
    simp only [depth, operators]
    omega
  | call _ args => by
    have hargs := depthOfAll_le_operatorsOfAll args
    simp only [depth, operators]
    omega

/-- The highest of some trees is no higher than they have operators and calls, and one. -/
theorem depthOfAll_le_operatorsOfAll : ∀ es : List Expr, depthOfAll es ≤ operatorsOfAll es + 1
  | [] => Nat.zero_le _
  | e :: es => by
    have he := e.depth_le_operators
    have hes := depthOfAll_le_operatorsOfAll es
    simp only [depthOfAll, operatorsOfAll]
    omega

end

end Expr

/-- Steps after a sign are counted. -/
theorem operators_foldl_steps (os : List Step) (e : Expr) :
    (os.foldl (fun e o => .unary o.op e) e).operators =
      e.operators + (os.map Step.token).countP Token.isCounted := by
  induction os generalizing e with
  | nil => rfl
  | cons o os ih =>
    have ho : o.token.isCounted = true := by cases o <;> rfl
    rw [List.foldl_cons, ih, List.map_cons, List.countP_cons_of_pos ho, Expr.operators]
    omega

/-- The operators between the operands of a chain are counted. -/
theorem Operator.isCounted_token {t : Tier} (o : Operator t) : o.token.isCounted = true := by
  cases o <;> rfl

mutual

/-- **The operators and calls of a tree are those among the tokens** that it is derived from. -/
theorem Derivation.operators_tree : ∀ {c : Symbol} (d : Derivation c),
    d.tree.operators = d.yield.countP Token.isCounted
  | _, .chain first rounds => by
    rw [Derivation.tree, Derivation.yield, rounds.operators_treeFrom, first.operators_tree,
      List.countP_append]
  | _, .base x => by rw [Derivation.tree, Derivation.yield, x.operators_tree]
  | _, .raised x y => by
    rw [Derivation.tree, Derivation.yield, Expr.operators, x.operators_tree, y.operators_tree,
      List.countP_append, List.countP_cons_of_pos rfl]
    omega
  | _, .stepped o x => by
    rw [Derivation.tree, Derivation.yield, Expr.operators, x.operators_tree,
      List.countP_cons_of_pos (by cases o <;> rfl), Nat.add_comm]
  | _, .unstepped x os => by
    rw [Derivation.tree, Derivation.yield, operators_foldl_steps, x.operators_tree,
      List.countP_append]
  | _, .signed o x => by
    rw [Derivation.tree, Derivation.yield, Expr.operators, x.operators_tree,
      List.countP_cons_of_pos (by cases o <;> rfl), Nat.add_comm]
  | _, .unsigned x => by rw [Derivation.tree, Derivation.yield, x.operators_tree]
  | _, .number _ => rfl
  | _, .cell _ => rfl
  | _, .call f args => by
    have hparen : List.countP Token.isCounted [.rightParen] = 0 := rfl
    rw [Derivation.tree, Derivation.yield, Expr.operators, args.operators_trees,
      List.countP_cons_of_pos (by cases f <;> rfl), List.countP_cons_of_neg (by decide),
      List.countP_append, hparen, Nat.add_zero, Nat.add_comm]
  | _, .group x => by
    have hparen : List.countP Token.isCounted [.rightParen] = 0 := rfl
    rw [Derivation.tree, Derivation.yield, x.operators_tree,
      List.countP_cons_of_neg (by decide), List.countP_append, hparen, Nat.add_zero]

/-- Rounds add the operators and calls among their tokens. -/
theorem Rounds.operators_treeFrom : ∀ {t : Tier} (rounds : Rounds t) (left : Expr),
    (rounds.treeFrom left).operators = left.operators + rounds.yield.countP Token.isCounted
  | _, .done, _ => rfl
  | _, .round o x more, left => by
    rw [Rounds.treeFrom, Rounds.yield, more.operators_treeFrom, Expr.operators, x.operators_tree,
      List.countP_cons_of_pos o.isCounted_token, List.countP_append]
    omega

/-- The operators and calls of arguments are those among their tokens. -/
theorem Arguments.operators_trees : ∀ args : Arguments,
    Expr.operatorsOfAll args.trees = args.yield.countP Token.isCounted
  | .empty => rfl
  | .list first more => by
    rw [Arguments.trees, Arguments.yield, Expr.operatorsOfAll, first.operators_tree,
      more.operators_trees, List.countP_append]

/-- The operators and calls of further arguments are those among their tokens. -/
theorem MoreArguments.operators_trees : ∀ more : MoreArguments,
    Expr.operatorsOfAll more.trees = more.yield.countP Token.isCounted
  | .done => rfl
  | .argument x more => by
    rw [MoreArguments.trees, MoreArguments.yield, Expr.operatorsOfAll, x.operators_tree,
      more.operators_trees, List.countP_cons_of_neg (by decide), List.countP_append]

end

/-- **The parser's count is that of the tree.** -/
theorem operators_of_run_whole {cs : List Char} {e : Expr} {t : Progress}
    (h : (Parser.whole Level.top).run (.start (lexemes cs)) = (.ok e, t)) :
    e.operators = t.operators ∧ t.operators ≤ maxOperators := by
  obtain ⟨d, rfl, ⟨hpass, -⟩, -⟩ :=
    (Parser.run_whole_iff Level.reads_top.expression rfl (Nat.zero_le _)).1 h
  refine ⟨?_, hpass.room⟩
  rw [d.operators_tree, hpass.operators]
  exact (Nat.zero_add _).symm

/-- **A tree that was parsed has a bounded height.** -/
theorem depth_le_of_parse {cs : List Char} {e : Expr} (h : parse cs = .ok e) :
    e.depth ≤ maxOperators + 1 := by
  obtain ⟨hcount, hroom⟩ := @operators_of_run_whole cs e _ (Prod.ext h rfl)
  have hdepth := e.depth_le_operators
  omega

/-! ## Parsers at a nesting -/

namespace Parser

variable {α β : Type} {p p' : Parser α} {f f' : α → Parser β} {k : Nat}

/-- **Two parsers do the same at a nesting and stay at it,** also where they fail. -/
def SameAt (k : Nat) (p p' : Parser α) : Prop :=
  ∀ s, s.nesting = k → p.run s = p'.run s ∧ (p.run s).2.nesting = k

/-- A parser leaves the nesting as it found it. -/
def KeepsNesting (p : Parser α) : Prop := ∀ s, (p.run s).2.nesting = s.nesting

/-- A parser that keeps the nesting does what it does at every nesting. -/
theorem keepsNesting_iff : p.KeepsNesting ↔ ∀ k, p.SameAt k p := by
  constructor
  · rintro h k s rfl
    exact ⟨rfl, h s⟩
  · intro h s
    exact (h _ s rfl).2

theorem sameAt_pure (a : α) : SameAt k (pure a) (pure a) := fun _ hs => ⟨rfl, hs⟩

theorem sameAt_current : SameAt k current current := fun _ hs => ⟨rfl, hs⟩

theorem sameAt_refuse (complaint : Complaint) :
    SameAt k (refuse complaint : Parser α) (refuse complaint) := fun _ hs => ⟨rfl, hs⟩

theorem sameAt_meet : SameAt k meet meet := by
  refine fun s hs => ⟨rfl, ?_⟩
  simp only [meet]
  split <;> exact hs

theorem sameAt_advance : SameAt k advance advance := fun s hs =>
  sameAt_meet { s with items := s.items.tail } hs

theorem sameAt_countOperator : SameAt k countOperator countOperator := by
  refine fun s hs => ⟨rfl, ?_⟩
  simp only [countOperator]
  split <;> exact hs

/-- One parser after another. -/
theorem SameAt.bind (h : p.SameAt k p') (hf : ∀ a, (f a).SameAt k (f' a)) :
    (p >>= f).SameAt k (p' >>= f') := by
  intro s hs
  obtain ⟨heq, hk⟩ := h s hs
  simp only [Bind.bind, ← heq]
  rcases hrun : p.run s with ⟨fault | a, t⟩ <;> rw [hrun] at hk
  · exact ⟨rfl, hk⟩
  · exact hf a t hk

/-- What cannot stand here is refused. -/
theorem sameAt_unexpected : SameAt k (unexpected : Parser α) unexpected :=
  sameAt_current.bind fun cur => by cases cur <;> exact sameAt_refuse _

/-- A delimiter is passed or refused. -/
theorem sameAt_expect (wanted : Token) (isWanted : Token → Bool) :
    SameAt k (expect wanted isWanted) (expect wanted isWanted) :=
  sameAt_current.bind fun found => by
    split
    · exact sameAt_advance
    · exact sameAt_refuse _

/-- **One nesting deeper** is one nesting deeper for both, and both come back. -/
theorem SameAt.nested (h : k < maxNesting → p.SameAt (k + 1) p') :
    (nested p).SameAt k (Parser.nested p') := by
  rintro s rfl
  by_cases hk : s.nesting < maxNesting
  · obtain ⟨heq, hnesting⟩ := h hk s.deeper rfl
    rw [run_nested_of_lt hk, run_nested_of_lt hk, ← heq]
    refine ⟨rfl, ?_⟩
    dsimp only
    rw [hnesting, Nat.add_sub_cancel]
  · simp [Parser.nested, Nat.not_lt.1 hk]

/-- A nested parser keeps the nesting if the parser itself does. -/
theorem keepsNesting_nested (h : ∀ k, p.SameAt k p) : (Parser.nested p).KeepsNesting :=
  keepsNesting_iff.2 fun k => SameAt.nested fun _ => h (k + 1)

/-- **Repetitions** whose rounds do the same. -/
theorem SameAt.repeatFrom {continues : Token → Option β} {before : Parser Unit}
    {kept : ∀ s, (before.run s).2.items = s.items} {step step' : α → β → Parser α}
    (hbefore : before.SameAt k before) (h : ∀ a b, (step a b).SameAt k (step' a b)) (a : α)
    (s : Progress) (hs : s.nesting = k) :
    repeatFrom continues before kept step a s = Parser.repeatFrom continues before kept step' a s ∧
      (Parser.repeatFrom continues before kept step a s).2.nesting = k := by
  have hround : ∀ a b, (round before (step a b)).SameAt k (round before (step' a b)) :=
    fun a b => hbefore.bind fun _ => sameAt_advance.bind fun _ => h a b
  fun_induction Parser.repeatFrom continues before kept step a s with
  | case1 a s hc =>
    rw [Parser.repeatFrom]
    split
    · exact ⟨rfl, hs⟩
    · next hc' => cases hc.symm.trans hc'
  | case2 a s b hc fault t hr =>
    obtain ⟨heq, hk⟩ := hround a b s hs
    rw [hr] at heq hk
    rw [Parser.repeatFrom]
    split
    · next hc' => cases hc.symm.trans hc'
    · next b' hc' =>
      obtain rfl : b = b' := Option.some.inj (hc.symm.trans hc')
      rw [← heq]
      exact ⟨rfl, hk⟩
  | case3 a s b hc a' t hr ih =>
    obtain ⟨heq, hk⟩ := hround a b s hs
    rw [hr] at heq hk
    obtain ⟨hrest, hk⟩ := ih hk
    refine ⟨hrest.trans ?_, hk⟩
    rw [Parser.repeatFrom.eq_1 _ _ _ _ a s]
    split
    · next hc' => cases hc.symm.trans hc'
    · next b' hc' =>
      obtain rfl : b = b' := Option.some.inj (hc.symm.trans hc')
      rw [← heq]

/-- Chains of operands that do the same. -/
theorem SameAt.chain {p p' : Parser Expr} (operator? : Token → Option BinaryOp)
    (h : p.SameAt k p') : (chain operator? p).SameAt k (Parser.chain operator? p') :=
  h.bind fun first => SameAt.repeatFrom sameAt_countOperator
    (fun _ _ => h.bind fun _ => sameAt_pure _) first

end Parser

namespace Level

open Formula.Parser

/-- **The parsers of two levels do the same** at a nesting. -/
structure SameAt (k : Nat) (level level' : Level) : Prop where
  sign : level.sign.SameAt k level'.sign
  step : level.step.SameAt k level'.step
  power : level.power.SameAt k level'.power
  expression : level.expression.SameAt k level'.expression
  arguments : level.arguments.SameAt k level'.arguments

section
variable {inner inner' : Level} {k : Nat}

/-- An operator and its operand, one nesting deeper. -/
theorem sameAt_prefixed (op : UnaryOp) {p p' : Parser Expr}
    (h : k < maxNesting → p.SameAt (k + 1) p') :
    (prefixed op p).SameAt k (prefixed op p') :=
  sameAt_countOperator.bind fun _ => sameAt_advance.bind fun _ =>
    (Parser.SameAt.nested h).bind fun _ => sameAt_pure _

/-- A call and its arguments, one nesting deeper. -/
theorem sameAt_call (h : k < maxNesting → inner.SameAt (k + 1) inner') (f : Function) :
    (inner.call f).SameAt k (inner'.call f) :=
  sameAt_countOperator.bind fun _ => sameAt_advance.bind fun _ => (sameAt_expect _ _).bind fun _ =>
    (Parser.SameAt.nested fun hk => (h hk).arguments).bind fun _ =>
      (sameAt_expect _ _).bind fun _ => sameAt_pure _

/-- A group and the expression in it, one nesting deeper. -/
theorem sameAt_group (h : k < maxNesting → inner.SameAt (k + 1) inner') :
    inner.group.SameAt k inner'.group :=
  sameAt_advance.bind fun _ => (Parser.SameAt.nested fun hk => (h hk).expression).bind fun _ =>
    (sameAt_expect _ _).bind fun _ => sameAt_pure _

/-- Primaries. -/
theorem sameAt_primary (h : k < maxNesting → inner.SameAt (k + 1) inner') :
    inner.primary.SameAt k inner'.primary :=
  sameAt_current.bind fun cur => by
    split
    · exact sameAt_advance.bind fun _ => sameAt_pure _
    · exact sameAt_advance.bind fun _ => sameAt_pure _
    · exact sameAt_call h .mmin
    · exact sameAt_call h .mmax
    · exact sameAt_group h
    · exact sameAt_unexpected

/-- Signs. -/
theorem sameAt_signed (h : k < maxNesting → inner.SameAt (k + 1) inner') :
    inner.signed.SameAt k inner'.signed :=
  sameAt_current.bind fun cur => by
    split
    · exact sameAt_prefixed _ fun hk => (h hk).sign
    · exact sameAt_primary h

/-- Steps. -/
theorem sameAt_stepped (h : k < maxNesting → inner.SameAt (k + 1) inner') :
    inner.stepped.SameAt k inner'.stepped :=
  sameAt_current.bind fun cur => by
    split
    · exact sameAt_prefixed _ fun hk => (h hk).step
    · exact (sameAt_signed h).bind fun e =>
        Parser.SameAt.repeatFrom sameAt_countOperator (fun _ _ => sameAt_pure _) e

/-- Powers. -/
theorem sameAt_powered (h : k < maxNesting → inner.SameAt (k + 1) inner') :
    inner.powered.SameAt k inner'.powered :=
  (sameAt_stepped h).bind fun base => sameAt_current.bind fun cur => by
    split
    · exact sameAt_countOperator.bind fun _ => sameAt_advance.bind fun _ =>
        (Parser.SameAt.nested fun hk => (h hk).power).bind fun _ => sameAt_pure _
    · exact sameAt_pure _

/-- Expressions. -/
theorem sameAt_sum (h : k < maxNesting → inner.SameAt (k + 1) inner') :
    inner.sum.SameAt k inner'.sum :=
  (((sameAt_powered h).chain _).chain _).chain _

/-- Arguments. -/
theorem sameAt_argumentList (h : k < maxNesting → inner.SameAt (k + 1) inner') :
    inner.argumentList.SameAt k inner'.argumentList :=
  sameAt_current.bind fun cur => by
    split
    · exact sameAt_pure _
    · refine (sameAt_sum h).bind fun first => Parser.SameAt.bind ?_ fun _ => sameAt_pure _
      exact Parser.SameAt.repeatFrom (sameAt_pure ())
        (fun _ _ => (sameAt_sum h).bind fun _ => sameAt_pure _) [first]

/-- **Levels do the same** if those below them do, one nesting deeper, unless that is too deep. -/
theorem sameAt_above (h : k < maxNesting → inner.SameAt (k + 1) inner') :
    inner.above.SameAt k inner'.above where
  sign := sameAt_signed h
  step := sameAt_stepped h
  power := sameAt_powered h
  expression := sameAt_sum h
  arguments := sameAt_argumentList h

end

/-! ## The nesting -/

/-- **Every nested parser of a level comes back to the nesting** from which it was called. -/
structure KeepsNesting (level : Level) : Prop where
  sign : (nested level.sign).KeepsNesting
  step : (nested level.step).KeepsNesting
  power : (nested level.power).KeepsNesting
  expression : (nested level.expression).KeepsNesting
  arguments : (nested level.arguments).KeepsNesting

/-- The levels do the same as themselves at every nesting. -/
theorem sameAt_tower_self (n : Nat) : ∀ k, (tower ground n).SameAt k (tower ground n) := by
  induction n with
  | zero =>
    intro k
    exact ⟨sameAt_refuse _, sameAt_refuse _, sameAt_refuse _, sameAt_refuse _, sameAt_refuse _⟩
  | succ n ih => exact fun k => sameAt_above fun _ => ih (k + 1)

/-- **The nesting is what it was** when a nested parser returns, also with a fault. -/
theorem keepsNesting_tower (n : Nat) : (tower ground n).KeepsNesting where
  sign := keepsNesting_nested fun k => (sameAt_tower_self n k).sign
  step := keepsNesting_nested fun k => (sameAt_tower_self n k).step
  power := keepsNesting_nested fun k => (sameAt_tower_self n k).power
  expression := keepsNesting_nested fun k => (sameAt_tower_self n k).expression
  arguments := keepsNesting_nested fun k => (sameAt_tower_self n k).arguments

end Level

/-- A parser that does something else where the nesting is greater than it may be. -/
def Parser.fence {α : Type} (beyond p : Parser α) : Parser α where
  run s := if s.nesting ≤ maxNesting then p.run s else beyond.run s
  consumes s := by
    split
    · exact p.consumes s
    · exact beyond.consumes s

/-- At a nesting that is not too great it does the same. -/
theorem Parser.SameAt.fence {α : Type} {k : Nat} {p p' : Parser α} (h : p.SameAt k p')
    (hk : k ≤ maxNesting) (beyond : Parser α) : (Parser.fence beyond p).SameAt k p' := by
  rintro s rfl
  simp only [Parser.fence, if_pos hk]
  exact h s rfl

namespace Level

/-- A level whose parsers do what those of another level do where the nesting is too great. -/
def fence (beyond level : Level) : Level :=
  ⟨.fence beyond.sign level.sign, .fence beyond.step level.step, .fence beyond.power level.power,
    .fence beyond.expression level.expression, .fence beyond.arguments level.arguments⟩

/-- Levels like those that formulas are parsed with, all of them fenced. -/
def fencedTower (beyond : Level) : Nat → Level
  | 0 => fence beyond ground
  | n + 1 => fence beyond (fencedTower beyond n).above

/-- A fenced level does the same at a nesting that is not too great. -/
theorem SameAt.fence {k : Nat} {level level' : Level} (h : level.SameAt k level')
    (hk : k ≤ maxNesting) (beyond : Level) : (Level.fence beyond level).SameAt k level' where
  sign := h.sign.fence hk _
  step := h.step.fence hk _
  power := h.power.fence hk _
  expression := h.expression.fence hk _
  arguments := h.arguments.fence hk _

/-- **Fences are never reached** from a nesting that leaves room for the levels below. -/
theorem sameAt_fencedTower (beyond : Level) (n : Nat) :
    ∀ k, k + n = maxNesting → (fencedTower beyond (n + 1)).SameAt k (tower ground (n + 1)) := by
  induction n with
  | zero =>
    -- at the deepest nesting the level below is never asked, so it may be any
    intro k hk
    exact (sameAt_above fun hlt => absurd hk (Nat.ne_of_lt hlt)).fence (Nat.le_of_eq hk) beyond
  | succ n ih =>
    intro k hk
    exact (sameAt_above fun _ => ih (k + 1) (by omega)).fence (by omega) beyond

end Level

/-- **No parser is run too deep:** whatever would be done at a nesting that is too great, a text is
read in the same way. -/
theorem run_whole_fenced (beyond : Level) (cs : List Char) :
    (Parser.whole (Level.fencedTower beyond (maxNesting + 1))).run (.start (lexemes cs)) =
      (Parser.whole Level.top).run (.start (lexemes cs)) := by
  have hlevel := (Level.sameAt_fencedTower beyond maxNesting 0 (Nat.zero_add _)).expression
  refine (Parser.sameAt_meet.bind fun _ => hlevel.bind fun e => ?_ : Parser.SameAt 0 _ _) _ rfl |>.1
  refine Parser.sameAt_current.bind fun cur => ?_
  cases cur
  · exact Parser.sameAt_pure e
  · exact Parser.sameAt_unexpected

/-! ## A name that is incremented -/

/-- Some signs `++` after one another. -/
def increments : Nat → List Char
  | 0 => []
  | n + 1 => '+' :: '+' :: increments n

/-- The tree of a name and so many signs `++` after it. -/
def Expr.incremented (name : String) : Nat → Expr
  | 0 => .reference name
  | n + 1 => .unary .increment (incremented name n)

/-- It is as high as it can be with its operators. -/
theorem Expr.depth_incremented (name : String) (n : Nat) : (incremented name n).depth = n + 1 := by
  induction n with
  | zero => rfl
  | succ n ih => rw [incremented, depth, ih, Nat.add_comm]

/-- It is what a derivation with so many step operators comes to. -/
theorem foldl_increments (name : String) (n : Nat) :
    (List.replicate n Step.increment).foldl (fun e o => Expr.unary o.op e) (.reference name) =
      .incremented name n := by
  induction n with
  | zero => rfl
  | succ n ih =>
    rw [List.replicate_succ', List.foldl_append, ih]
    rfl

/-- Every sign `++` is a token. -/
theorem lexemesFrom_increments (offset n : Nat) :
    (lexemesFrom offset (increments n)).stop = .ok (offset + 2 * n) ∧
      (lexemesFrom offset (increments n)).items.map Lexeme.token =
        List.replicate n Token.increment := by
  induction n generalizing offset with
  | zero =>
    rw [increments, lexemesFrom_nil]
    exact ⟨rfl, rfl⟩
  | succ n ih =>
    have htoken : tokenAt '+' ('+' :: increments n) = .ok (.increment, 1) := rfl
    obtain ⟨hstop, hitems⟩ := ih (offset + 1 + 1)
    rw [increments, lexemesFrom_token (by decide) htoken]
    refine ⟨hstop.trans (by rw [Nat.mul_succ]; congr 1; omega), ?_⟩
    rw [List.map_cons, List.drop_one, List.tail_cons, hitems, List.replicate_succ]

/-- **A name may be incremented as often as the limit allows.** -/
theorem parse_increments {c : Char} {r : List Char} {name : String} {n : Nat}
    (hc : Text.isBlank c = false)
    (hname : tokenAt c (r ++ increments n) = .ok (.cell name, r.length)) (hn : n ≤ maxOperators) :
    parse (c :: (r ++ increments n)) = .ok (.incremented name n) := by
  obtain ⟨hstop, hitems⟩ := lexemesFrom_increments (0 + 1 + r.length) n
  have hlexemes := lexemesFrom_token hc hname 0
  rw [List.drop_left] at hlexemes
  refine parse_eq_ok_iff.2 ⟨.chain (.chain (.chain (.base (.unstepped (.unsigned (.cell name))
    (List.replicate n .increment))) .done) .done) .done,
    ⟨⟨0 + 1 + r.length + 2 * n, ?_⟩, ?_⟩, ⟨Nat.zero_le _, ?_⟩, ?_⟩
  · rw [lexemes, hlexemes]
    exact hstop
  · rw [lexemes, hlexemes]
    simp [Derivation.yield, Rounds.yield, hitems, Step.token]
  · simpa [Derivation.yield, Rounds.yield, Step.token, Token.isCounted,
      List.countP_replicate] using hn
  · simpa [Derivation.tree, Rounds.treeFrom] using foldl_increments name n

end Formula
end FormulaGrid
