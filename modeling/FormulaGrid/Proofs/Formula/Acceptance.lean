/-
# What the parser accepts

The parser reads the grammar: it answers an expression exactly if the tokens of the text are the
yield of a derivation with this expression that nests no deeper and has no more operators and
calls than formulas may, and this derivation is the only one (`parse_iff_derivation`).

A parser *reads* a kind of derivations (`ReadsAs`) if it answers a value exactly where the text
goes on with a derivation that has this value, that ends there and that fits the nesting, and if
it passes the derivation's tokens then. Every parser of a level reads its symbol if those of the
level below do, one nesting deeper; the level below the deepest nesting is never asked. So the
induction is on the nesting that is left, and the repetitions are followed round by round.
-/

import FormulaGrid.Proofs.Formula.Grammar
import FormulaGrid.Proofs.Formula.Passage

namespace FormulaGrid
namespace Formula

/-- **Arguments end before a text:** no arguments at the closing parenthesis, and others where
neither an argument nor the list of them goes on. -/
def Arguments.Ends : Arguments → List Token → Prop
  | .empty, rest => rest.head? = some .rightParen
  | .list _ _, rest => (Symbol.chain .additive).Ends rest ∧ rest.head? ≠ some .comma

/-- The operators of a tier, as the parser knows them. -/
def Tier.operator? : Tier → Token → Option BinaryOp
  | additive => additiveOp?
  | modular => modularOp?
  | multiplicative => multiplicativeOp?

/-! ## Tokens and what they begin or end -/

section
variable {c : Symbol} {t : Tier} {tok : Token} {rest : List Token} {cur : Option Token}

/-- The operators of a tier are those of the grammar. -/
theorem Tier.bind_operator?_eq_some_iff {op : BinaryOp} :
    cur.bind t.operator? = some op ↔ ∃ o : Operator t, cur = some o.token ∧ o.op = op := by
  constructor
  · intro h
    obtain ⟨tok, rfl, h⟩ := Option.bind_eq_some_iff.1 h
    cases t <;> cases tok <;> cases h
    · exact ⟨.plus, rfl, rfl⟩
    · exact ⟨.minus, rfl, rfl⟩
    · exact ⟨.percent, rfl, rfl⟩
    · exact ⟨.mod, rfl, rfl⟩
    · exact ⟨.div, rfl, rfl⟩
    · exact ⟨.times, rfl, rfl⟩
    · exact ⟨.divide, rfl, rfl⟩
  · rintro ⟨o, rfl, rfl⟩
    cases o <;> rfl

/-- An operator of the grammar is an operator of its tier. -/
theorem Tier.operator?_token (o : Operator t) : t.operator? o.token = some o.op :=
  Tier.bind_operator?_eq_some_iff.2 ⟨o, rfl, rfl⟩

/-- The operators of a tier are counted. -/
theorem Tier.isCounted_of_operator? (tok : Token) (op : BinaryOp)
    (h : t.operator? tok = some op) : tok.isCounted = true := by
  obtain ⟨o, hcur, -⟩ : ∃ o : Operator t, some tok = some o.token ∧ o.op = op :=
    Tier.bind_operator?_eq_some_iff.1 h
  obtain rfl := Option.some.inj hcur
  cases o <;> rfl

/-- The step operators are those of the grammar. -/
theorem bind_stepOp?_eq_some_iff {op : UnaryOp} :
    cur.bind stepOp? = some op ↔ ∃ o : Step, cur = some o.token ∧ o.op = op := by
  constructor
  · intro h
    obtain ⟨tok, rfl, h⟩ := Option.bind_eq_some_iff.1 h
    cases tok <;> cases h
    · exact ⟨.increment, rfl, rfl⟩
    · exact ⟨.decrement, rfl, rfl⟩
  · rintro ⟨o, rfl, rfl⟩
    cases o <;> rfl

/-- The signs are those of the grammar. -/
theorem bind_signOp?_eq_some_iff {op : UnaryOp} :
    cur.bind signOp? = some op ↔ ∃ o : Sign, cur = some o.token ∧ o.op = op := by
  constructor
  · intro h
    obtain ⟨tok, rfl, h⟩ := Option.bind_eq_some_iff.1 h
    cases tok <;> cases h
    · exact ⟨.plus, rfl, rfl⟩
    · exact ⟨.minus, rfl, rfl⟩
  · rintro ⟨o, rfl, rfl⟩
    cases o <;> rfl

/-- A chain ends where its operands do and there is none of its operators. -/
theorem Tier.ends_iff : (Symbol.chain t).Ends rest ↔
    t.operand.Ends rest ∧ rest.head?.bind t.operator? = none := by
  cases rest with
  | nil => simp [Symbol.Ends]
  | cons tok rest =>
    rw [Symbol.ends_cons, Symbol.ends_cons, List.head?_cons, Option.bind_some]
    cases t <;> cases tok <;> simp [Symbol.rank, Token.rank, Tier.operand, Tier.operator?,
      additiveOp?, modularOp?, multiplicativeOp?]

/-- A step ends where there is no step operator. -/
theorem Symbol.ends_step_iff : Symbol.step.Ends rest ↔ rest.head?.bind stepOp? = none := by
  cases rest with
  | nil => simp [Symbol.Ends]
  | cons tok rest =>
    rw [Symbol.ends_cons, List.head?_cons, Option.bind_some]
    cases tok <;> simp [Symbol.rank, Token.rank, stepOp?]

/-- A power ends where a step does and there is no `^`. -/
theorem Symbol.ends_power_iff : Symbol.power.Ends rest ↔
    Symbol.step.Ends rest ∧ rest.head? ≠ some .power := by
  cases rest with
  | nil => simp [Symbol.Ends]
  | cons tok rest =>
    rw [Symbol.ends_cons, Symbol.ends_cons, List.head?_cons]
    cases tok <;> simp [Symbol.rank, Token.rank]

/-- Arguments end before a closing parenthesis. -/
theorem Arguments.ends_rightParen (args : Arguments) (rest : List Token) :
    args.Ends (.rightParen :: rest) := by
  cases args with
  | empty => rfl
  | list x more => exact ⟨Symbol.ends_rightParen, by simp⟩

/-- There is no comma where the current token is none. -/
theorem bind_comma?_eq_none_iff : cur.bind comma? = none ↔ cur ≠ some .comma := by
  rcases cur with _ | tok
  · simp
  · cases tok <;> simp [comma?]

/-- Commas alone are commas. -/
theorem eq_comma_of_comma? {u : Unit} (h : comma? tok = some u) : tok = .comma := by
  cases tok <;> first | rfl | cases h

/-- A primary begins with no sign. -/
theorem signOp?_of_begins (h : Symbol.primary.begins tok) : signOp? tok = none := by
  cases tok <;> simp_all [Symbol.begins, signOp?]

/-- A sign begins with no step operator. -/
theorem stepOp?_of_begins (h : Symbol.sign.begins tok) : stepOp? tok = none := by
  cases tok <;> simp_all [Symbol.begins, stepOp?]

end

namespace Parser

/-- **A parser reads derivations** at a nesting. -/
def ReadsAs {D α : Type} (p : Parser α) (value : D → α) (yield : D → List Token)
    (nesting : D → Nat) (Ends : D → List Token → Prop) (k : Nat) : Prop :=
  ∀ s a t, s.At k → (p.run s = (.ok a, t) ↔
    ∃ d, value d = a ∧ s.Passes (yield d) t ∧ Ends d t.tokens ∧ k + nesting d ≤ maxNesting)

/-- A parser reads a symbol. -/
abbrev Reads (p : Parser Expr) (c : Symbol) : Nat → Prop :=
  p.ReadsAs (D := Derivation c) Derivation.tree Derivation.yield Derivation.nesting
    fun _ => c.Ends

/-- A parser reads the arguments of a call. -/
abbrev ReadsArguments (p : Parser (List Expr)) : Nat → Prop :=
  p.ReadsAs Arguments.trees Arguments.yield Arguments.nesting Arguments.Ends

variable {D α : Type} {value : D → α} {yield : D → List Token} {nesting : D → Nat}
  {Ends : D → List Token → Prop} {p : Parser α} {s t : Progress} {k : Nat} {a : α}

/-- **What is read one nesting deeper** is read here, if it is not too deep. -/
theorem ReadsAs.run_nested_iff
    (h : k < maxNesting → p.ReadsAs value yield nesting Ends (k + 1)) (hs : s.At k) :
    (nested p).run s = (.ok a, t) ↔ ∃ d, value d = a ∧ s.Passes (yield d) t ∧ Ends d t.tokens ∧
      k + (1 + nesting d) ≤ maxNesting := by
  by_cases hk : k < maxNesting
  · have hp := fun u => h hk s.deeper a u hs.deeper
    have keeps : ∀ u, p.run s.deeper = (.ok a, u) → u.nesting = s.nesting + 1 := by
      intro u hu
      obtain ⟨d, -, hpass, -⟩ := (hp u).1 hu
      exact hpass.nesting
    rw [run_nested_eq_ok_iff keeps, hp]
    constructor
    · rintro ⟨-, -, d, hd, hpass, hends, hn⟩
      exact ⟨d, hd, Progress.passes_deeper_iff.1 hpass, hends, by omega⟩
    · rintro ⟨d, hd, hpass, hends, hn⟩
      exact ⟨hs.nesting ▸ hk, hpass.nesting, d, hd, Progress.passes_deeper_iff.2 hpass, hends,
        by omega⟩
  · constructor
    · intro hrun
      simp only [nested, hs.nesting, if_pos (Nat.not_lt.1 hk)] at hrun
      cases hrun
    · rintro ⟨d, -, -, -, hn⟩
      omega

end Parser

namespace Level

open Formula.Parser

/-- **The parsers of a level read their symbols** at a nesting. -/
structure Reads (level : Level) (k : Nat) : Prop where
  sign : level.sign.Reads .sign k
  step : level.step.Reads .step k
  power : level.power.Reads .power k
  expression : level.expression.Reads (.chain .additive) k
  arguments : level.arguments.ReadsArguments k

variable {inner : Level} {k : Nat} {s t : Progress} {e : Expr} {tok : Token}

/-- An operator is passed, and the operand after it one nesting deeper. -/
theorem run_prefixed_iff {c : Symbol} {p : Parser Expr} (op : UnaryOp)
    (h : k < maxNesting → p.Reads c (k + 1)) (hs : s.At k) (hcur : s.current? = some tok)
    (htok : tok.isCounted = true) :
    (prefixed op p).run s = (.ok e, t) ↔ ∃ x : Derivation c, .unary op x.tree = e ∧
      s.Passes (tok :: x.yield) t ∧ c.Ends t.tokens ∧ k + (1 + x.nesting) ≤ maxNesting := by
  rw [prefixed, run_counted_bind_iff hcur htok]
  constructor
  · rintro ⟨u, hu, hrun⟩
    obtain ⟨x, v, hoperand, hpure⟩ := run_bind_eq_ok_iff.1 hrun
    obtain ⟨rfl, rfl⟩ := run_pure_eq_ok_iff.1 hpure
    obtain ⟨d, rfl, hpass, hends, hn⟩ := (ReadsAs.run_nested_iff h (hu.at hs)).1 hoperand
    exact ⟨d, rfl, Progress.passes_cons_iff.2 ⟨u, hu, hpass⟩, hends, hn⟩
  · rintro ⟨x, rfl, hpass, hends, hn⟩
    obtain ⟨u, hu, hpass⟩ := Progress.passes_cons_iff.1 hpass
    have hoperand := (ReadsAs.run_nested_iff h (hu.at hs)).2 ⟨x, rfl, hpass, hends, hn⟩
    exact ⟨u, hu, run_bind_eq_ok_iff.2 ⟨_, _, hoperand, run_pure_eq_ok_iff.2 ⟨rfl, rfl⟩⟩⟩

/-! ## Primaries -/

/-- A call reads its arguments one nesting deeper. -/
theorem run_call_iff (h : k < maxNesting → inner.Reads (k + 1)) (f : Function) (hs : s.At k)
    (hcur : s.current? = some f.token) :
    (inner.call f).run s = (.ok e, t) ↔ ∃ args, (Derivation.call f args).tree = e ∧
      s.Passes (Derivation.call f args).yield t ∧
      k + (Derivation.call f args).nesting ≤ maxNesting := by
  simp only [Derivation.tree, Derivation.yield, Derivation.nesting]
  rw [call, run_counted_bind_iff hcur (by cases f <;> rfl)]
  constructor
  · rintro ⟨u, hu, hrun⟩
    obtain ⟨v, hv, hrun⟩ := (run_expectLeftParen_bind_iff (hu.at hs)).1 hrun
    obtain ⟨es, w, hargs, hrun⟩ := run_bind_eq_ok_iff.1 hrun
    obtain ⟨args, rfl, hw, -, hn⟩ :=
      (ReadsAs.run_nested_iff (fun hk => (h hk).arguments) (hv.at (hu.at hs))).1 hargs
    obtain ⟨w', hw', hpure⟩ := (run_expectRightParen_bind_iff (hw.at (hv.at (hu.at hs)))).1 hrun
    obtain ⟨rfl, rfl⟩ := run_pure_eq_ok_iff.1 hpure
    have hpass := Progress.passes_append_iff.2 ⟨w, hw, hw'⟩
    exact ⟨args, rfl,
      Progress.passes_cons_iff.2 ⟨u, hu, Progress.passes_cons_iff.2 ⟨v, hv, hpass⟩⟩, hn⟩
  · rintro ⟨args, rfl, hpass, hn⟩
    obtain ⟨u, hu, hpass⟩ := Progress.passes_cons_iff.1 hpass
    obtain ⟨v, hv, hpass⟩ := Progress.passes_cons_iff.1 hpass
    obtain ⟨w, hw, hw'⟩ := Progress.passes_append_iff.1 hpass
    have hends : args.Ends w.tokens := by
      rw [hw'.tokens_eq]
      exact args.ends_rightParen _
    have hargs :=
      (ReadsAs.run_nested_iff (fun hk => (h hk).arguments) (hv.at (hu.at hs))).2
        ⟨args, rfl, hw, hends, hn⟩
    refine ⟨u, hu, (run_expectLeftParen_bind_iff (hu.at hs)).2 ⟨v, hv, run_bind_eq_ok_iff.2
      ⟨_, w, hargs, ?_⟩⟩⟩
    exact (run_expectRightParen_bind_iff (hw.at (hv.at (hu.at hs)))).2
      ⟨t, hw', run_pure_eq_ok_iff.2 ⟨rfl, rfl⟩⟩

/-- A group reads an expression one nesting deeper. -/
theorem run_group_iff (h : k < maxNesting → inner.Reads (k + 1)) (hs : s.At k)
    (hcur : s.current? = some .leftParen) :
    inner.group.run s = (.ok e, t) ↔ ∃ x, (Derivation.group x).tree = e ∧
      s.Passes (Derivation.group x).yield t ∧
      k + (Derivation.group x).nesting ≤ maxNesting := by
  simp only [Derivation.tree, Derivation.yield, Derivation.nesting]
  rw [group, run_advance_bind_iff hs hcur rfl]
  constructor
  · rintro ⟨u, hu, hrun⟩
    obtain ⟨x, v, hinner, hrun⟩ := run_bind_eq_ok_iff.1 hrun
    obtain ⟨d, rfl, hv, -, hn⟩ :=
      (ReadsAs.run_nested_iff (fun hk => (h hk).expression) (hu.at hs)).1 hinner
    obtain ⟨w, hw, hpure⟩ := (run_expectRightParen_bind_iff (hv.at (hu.at hs))).1 hrun
    obtain ⟨rfl, rfl⟩ := run_pure_eq_ok_iff.1 hpure
    have hpass := Progress.passes_append_iff.2 ⟨v, hv, hw⟩
    exact ⟨d, rfl, Progress.passes_cons_iff.2 ⟨u, hu, hpass⟩, hn⟩
  · rintro ⟨x, rfl, hpass, hn⟩
    obtain ⟨u, hu, hpass⟩ := Progress.passes_cons_iff.1 hpass
    obtain ⟨v, hv, hw⟩ := Progress.passes_append_iff.1 hpass
    have hends : (Symbol.chain .additive).Ends v.tokens := by
      rw [hw.tokens_eq]
      exact Symbol.ends_rightParen
    have hinner :=
      (ReadsAs.run_nested_iff (fun hk => (h hk).expression) (hu.at hs)).2 ⟨x, rfl, hv, hends, hn⟩
    refine ⟨u, hu, run_bind_eq_ok_iff.2 ⟨_, v, hinner, ?_⟩⟩
    exact (run_expectRightParen_bind_iff (hv.at (hu.at hs))).2
      ⟨t, hw, run_pure_eq_ok_iff.2 ⟨rfl, rfl⟩⟩

/-- A token alone is read at once. -/
theorem run_advance_pure_iff (hs : s.At k) (hcur : s.current? = some tok)
    (htok : tok.isCounted = false) (e' : Expr) :
    (do advance; pure e' : Parser Expr).run s = (.ok e, t) ↔ e' = e ∧ s.Passes [tok] t := by
  rw [run_advance_bind_iff hs hcur htok]
  constructor
  · rintro ⟨u, hu, hpure⟩
    obtain ⟨rfl, rfl⟩ := run_pure_eq_ok_iff.1 hpure
    exact ⟨rfl, hu⟩
  · rintro ⟨rfl, hpass⟩
    exact ⟨t, hpass, run_pure_eq_ok_iff.2 ⟨rfl, rfl⟩⟩

/-- **Primaries are read.** -/
theorem reads_primary (hk : k ≤ maxNesting) (h : k < maxNesting → inner.Reads (k + 1)) :
    inner.primary.Reads .primary k := by
  intro s e t hs
  have hends : Symbol.primary.Ends t.tokens := Symbol.ends_of_rank rfl _
  rw [primary, run_current_bind]
  constructor
  · intro hrun
    split at hrun
    · next value hcur =>
      obtain ⟨rfl, hpass⟩ := (run_advance_pure_iff hs hcur rfl _).1 hrun
      exact ⟨.number value, rfl, hpass, hends, hk⟩
    · next name hcur =>
      obtain ⟨rfl, hpass⟩ := (run_advance_pure_iff hs hcur rfl _).1 hrun
      exact ⟨.cell name, rfl, hpass, hends, hk⟩
    · next hcur =>
      obtain ⟨args, he, hpass, hn⟩ := (run_call_iff h .mmin hs hcur).1 hrun
      exact ⟨.call .mmin args, he, hpass, hends, hn⟩
    · next hcur =>
      obtain ⟨args, he, hpass, hn⟩ := (run_call_iff h .mmax hs hcur).1 hrun
      exact ⟨.call .mmax args, he, hpass, hends, hn⟩
    · next hcur =>
      obtain ⟨x, he, hpass, hn⟩ := (run_group_iff h hs hcur).1 hrun
      exact ⟨.group x, he, hpass, hends, hn⟩
    · exact absurd hrun run_unexpected_ne
  · rintro ⟨d, rfl, hpass, -, hn⟩
    cases d with
    | number value =>
      rw [Derivation.yield] at hpass
      have hcur := hpass.current?_eq
      rw [hcur]
      exact (run_advance_pure_iff hs hcur rfl _).2 ⟨by rw [Derivation.tree], hpass⟩
    | cell name =>
      rw [Derivation.yield] at hpass
      have hcur := hpass.current?_eq
      rw [hcur]
      exact (run_advance_pure_iff hs hcur rfl _).2 ⟨by rw [Derivation.tree], hpass⟩
    | call f args =>
      have hcur : s.current? = some f.token := by
        rw [Derivation.yield] at hpass
        exact hpass.current?_eq
      have hrun := (run_call_iff h f hs hcur).2 ⟨args, rfl, hpass, hn⟩
      rw [hcur]
      cases f <;> exact hrun
    | group x =>
      have hcur : s.current? = some .leftParen := by
        rw [Derivation.yield] at hpass
        exact hpass.current?_eq
      rw [hcur]
      exact (run_group_iff h hs hcur).2 ⟨x, rfl, hpass, hn⟩

/-! ## Signs, steps and powers -/

/-- **Signs are read.** -/
theorem reads_signed (hk : k ≤ maxNesting) (h : k < maxNesting → inner.Reads (k + 1)) :
    inner.signed.Reads .sign k := by
  intro s e t hs
  have hends : Symbol.sign.Ends t.tokens := Symbol.ends_of_rank rfl _
  have hprefixed := fun (o : Sign) (hcur : s.current? = some o.token) =>
    run_prefixed_iff (e := e) (t := t) o.op (fun hk => (h hk).sign) hs hcur (by cases o <;> rfl)
  have hprimary := reads_primary hk h s e t hs
  rw [signed, run_current_bind]
  constructor
  · intro hrun
    split at hrun
    · next op hop =>
      obtain ⟨o, hcur, rfl⟩ := bind_signOp?_eq_some_iff.1 hop
      obtain ⟨x, he, hpass, -, hn⟩ := (hprefixed o hcur).1 hrun
      exact ⟨.signed o x, he, hpass, hends, hn⟩
    · obtain ⟨x, he, hpass, -, hn⟩ := hprimary.1 hrun
      exact ⟨.unsigned x, he, hpass, hends, hn⟩
  · rintro ⟨d, he, hpass, -, hn⟩
    cases d with
    | signed o x =>
      rw [Derivation.yield] at hpass
      have hcur := hpass.current?_eq
      rw [bind_signOp?_eq_some_iff.2 ⟨o, hcur, rfl⟩]
      exact (hprefixed o hcur).2 ⟨x, he, hpass, hends, hn⟩
    | unsigned x =>
      obtain ⟨tok, rest, hyield, hbegins⟩ := x.begins
      have hcur : s.current? = some tok := by
        rw [Derivation.yield, hyield] at hpass
        exact hpass.current?_eq
      rw [hcur, Option.bind_some, signOp?_of_begins hbegins]
      exact hprimary.2 ⟨x, he, hpass, Symbol.ends_of_rank rfl _, hn⟩

/-- Step operators after an operand are read as many as there are. -/
theorem run_steps_iff {e' : Expr} (hs : s.At k) :
    (operatorRounds stepOp? (fun e op => pure (.unary op e)) e).run s = (.ok e', t) ↔
      ∃ os : List Step, os.foldl (fun e o => .unary o.op e) e = e' ∧
        s.Passes (os.map Step.token) t ∧ Symbol.step.Ends t.tokens := by
  -- a round passes a lexeme, so fewer are left for the rounds after it
  induction hlen : s.items.length using Nat.strongRecOn generalizing s e with
  | ind n ih =>
    rw [run_operatorRounds_iff (by intro tok op; cases tok <;> simp [stepOp?, Token.isCounted])]
    constructor
    · rintro (⟨hnone, rfl, rfl⟩ | ⟨tok, op, u, x, v, hop, hu, hstep, hrest⟩)
      · exact ⟨[], rfl, (Progress.passes_nil_iff hs).2 rfl,
          Symbol.ends_step_iff.2 (t.current?_eq ▸ hnone)⟩
      · obtain ⟨o, hcur, rfl⟩ : ∃ o : Step, some tok = some o.token ∧ o.op = op :=
          bind_stepOp?_eq_some_iff.1 hop
        obtain rfl := Option.some.inj hcur
        obtain ⟨rfl, rfl⟩ := run_pure_eq_ok_iff.1 hstep
        have hlt : v.items.length < n := hlen ▸ hu.length_lt
        obtain ⟨os, rfl, hpass, hends⟩ := (ih _ hlt (hu.at hs) rfl).1 hrest
        exact ⟨o :: os, rfl, Progress.passes_cons_iff.2 ⟨_, hu, hpass⟩, hends⟩
    · rintro ⟨os, rfl, hpass, hends⟩
      cases os with
      | nil =>
        obtain rfl := (Progress.passes_nil_iff hs).1 hpass
        exact .inl ⟨t.current?_eq ▸ Symbol.ends_step_iff.1 hends, rfl, rfl⟩
      | cons o os =>
        obtain ⟨u, hu, hpass⟩ := Progress.passes_cons_iff.1 hpass
        have hlt : u.items.length < n := hlen ▸ hu.length_lt
        have hrest := (ih _ hlt (hu.at hs) rfl).2 ⟨os, rfl, hpass, hends⟩
        exact .inr ⟨o.token, o.op, u, _, u, by cases o <;> rfl, hu,
          run_pure_eq_ok_iff.2 ⟨rfl, rfl⟩, hrest⟩

/-- **Steps are read.** -/
theorem reads_stepped (hk : k ≤ maxNesting) (h : k < maxNesting → inner.Reads (k + 1)) :
    inner.stepped.Reads .step k := by
  intro s e t hs
  have hprefixed := fun (o : Step) (hcur : s.current? = some o.token) =>
    run_prefixed_iff (e := e) (t := t) o.op (fun hk => (h hk).step) hs hcur (by cases o <;> rfl)
  have hsigned := reads_signed hk h s
  rw [stepped, run_current_bind]
  constructor
  · intro hrun
    split at hrun
    · next op hop =>
      obtain ⟨o, hcur, rfl⟩ := bind_stepOp?_eq_some_iff.1 hop
      obtain ⟨x, he, hpass, hends, hn⟩ := (hprefixed o hcur).1 hrun
      exact ⟨.stepped o x, he, hpass, hends, hn⟩
    · obtain ⟨_, u, hx, hsteps⟩ := run_bind_eq_ok_iff.1 hrun
      obtain ⟨x, rfl, hu, -, hn⟩ := (hsigned _ _ hs).1 hx
      obtain ⟨os, rfl, hpass, hends⟩ := (run_steps_iff (hu.at hs)).1 hsteps
      exact ⟨.unstepped x os, rfl, Progress.passes_append_iff.2 ⟨u, hu, hpass⟩, hends, hn⟩
  · rintro ⟨d, rfl, hpass, hends, hn⟩
    cases d with
    | stepped o x =>
      rw [Derivation.yield] at hpass
      have hcur := hpass.current?_eq
      rw [bind_stepOp?_eq_some_iff.2 ⟨o, hcur, rfl⟩]
      exact (hprefixed o hcur).2 ⟨x, rfl, hpass, hends, hn⟩
    | unstepped x os =>
      obtain ⟨u, hu, hpass⟩ := Progress.passes_append_iff.1 hpass
      obtain ⟨tok, rest, hyield, hbegins⟩ := x.begins
      have hcur : s.current? = some tok := by
        rw [hyield] at hu
        exact hu.current?_eq
      rw [hcur, Option.bind_some, stepOp?_of_begins hbegins]
      have hx := (hsigned _ _ hs).2 ⟨x, rfl, hu, Symbol.ends_of_rank rfl _, hn⟩
      exact run_bind_eq_ok_iff.2
        ⟨_, u, hx, (run_steps_iff (hu.at hs)).2 ⟨os, rfl, hpass, hends⟩⟩

/-- **Powers are read.** -/
theorem reads_powered (hk : k ≤ maxNesting) (h : k < maxNesting → inner.Reads (k + 1)) :
    inner.powered.Reads .power k := by
  intro s e t hs
  have hstepped := reads_stepped hk h s
  rw [powered]
  constructor
  · intro hrun
    obtain ⟨_, u, hx, hrun⟩ := run_bind_eq_ok_iff.1 hrun
    obtain ⟨x, rfl, hu, hends, hn⟩ := (hstepped _ _ hs).1 hx
    rw [run_current_bind] at hrun
    split at hrun
    · next hcur =>
      obtain ⟨v, hv, hrun⟩ := (run_counted_bind_iff hcur rfl).1 hrun
      obtain ⟨_, w, hy, hpure⟩ := run_bind_eq_ok_iff.1 hrun
      obtain ⟨rfl, rfl⟩ := run_pure_eq_ok_iff.1 hpure
      obtain ⟨y, rfl, hw, hends, hn'⟩ :=
        (ReadsAs.run_nested_iff (fun hk => (h hk).power) (hv.at (hu.at hs))).1 hy
      have hpass := Progress.passes_append_iff.2 ⟨u, hu, Progress.passes_cons_iff.2 ⟨v, hv, hw⟩⟩
      exact ⟨.raised x y, rfl, hpass, hends, by simp only [Derivation.nesting]; omega⟩
    · next hcur =>
      obtain ⟨rfl, rfl⟩ := run_pure_eq_ok_iff.1 hrun
      refine ⟨.base x, rfl, hu, Symbol.ends_power_iff.2 ⟨hends, ?_⟩, hn⟩
      rwa [← Progress.current?_eq]
  · rintro ⟨d, rfl, hpass, hends, hn⟩
    cases d with
    | base x =>
      obtain ⟨hsteps, hpower⟩ := Symbol.ends_power_iff.1 hends
      rw [← Progress.current?_eq] at hpower
      have hx := (hstepped _ _ hs).2 ⟨x, rfl, hpass, hsteps, hn⟩
      refine run_bind_eq_ok_iff.2 ⟨_, t, hx, ?_⟩
      rw [run_current_bind]
      split
      · next hcur => exact absurd hcur hpower
      · exact run_pure_eq_ok_iff.2 ⟨rfl, rfl⟩
    | raised x y =>
      simp only [Derivation.nesting] at hn
      obtain ⟨u, hu, hpass⟩ := Progress.passes_append_iff.1 hpass
      have hcur := hpass.current?_eq
      obtain ⟨v, hv, hw⟩ := Progress.passes_cons_iff.1 hpass
      have hsteps : Symbol.step.Ends u.tokens := by
        rw [hpass.tokens_eq]
        exact Symbol.ends_power
      have hx := (hstepped _ _ hs).2 ⟨x, rfl, hu, hsteps, by omega⟩
      have hy := (ReadsAs.run_nested_iff (fun hk => (h hk).power) (hv.at (hu.at hs))).2
        ⟨y, rfl, hw, hends, by omega⟩
      refine run_bind_eq_ok_iff.2 ⟨_, u, hx, ?_⟩
      rw [run_current_bind, hcur]
      exact (run_counted_bind_iff hcur rfl).2
        ⟨v, hv, run_bind_eq_ok_iff.2 ⟨_, t, hy, run_pure_eq_ok_iff.2 ⟨rfl, rfl⟩⟩⟩

/-! ## Chains -/

/-- The rounds of a chain are read as many as there are. -/
theorem run_rounds_iff {r : Tier} {p : Parser Expr} {e' : Expr} (hk : k ≤ maxNesting)
    (hp : p.Reads r.operand k) (hs : s.At k) (hends : r.operand.Ends s.tokens) :
    (operatorRounds r.operator? (fun left op => do
      let right ← p
      pure (.binary op left right)) e).run s = (.ok e', t) ↔
    ∃ rounds : Rounds r, rounds.treeFrom e = e' ∧ s.Passes rounds.yield t ∧
      (Symbol.chain r).Ends t.tokens ∧ k + rounds.nesting ≤ maxNesting := by
  induction hlen : s.items.length using Nat.strongRecOn generalizing s e with
  | ind n ih =>
    rw [run_operatorRounds_iff (r.isCounted_of_operator?)]
    constructor
    · rintro (⟨hnone, rfl, rfl⟩ | ⟨tok, op, u, x, v, hop, hu, hstep, hrest⟩)
      · exact ⟨.done, rfl, (Progress.passes_nil_iff hs).2 rfl,
          Tier.ends_iff.2 ⟨hends, t.current?_eq ▸ hnone⟩, hk⟩
      · obtain ⟨o, hcur, rfl⟩ : ∃ o : Operator r, some tok = some o.token ∧ o.op = op :=
          Tier.bind_operator?_eq_some_iff.1 hop
        obtain rfl := Option.some.inj hcur
        obtain ⟨_, w, hx, hpure⟩ := run_bind_eq_ok_iff.1 hstep
        obtain ⟨rfl, rfl⟩ := run_pure_eq_ok_iff.1 hpure
        obtain ⟨d, rfl, hv, hends, hn⟩ := (hp _ _ _ (hu.at hs)).1 hx
        have hround := Progress.passes_cons_iff.2 ⟨u, hu, hv⟩
        have hlt : v.items.length < n := hlen ▸ hround.length_lt
        obtain ⟨more, rfl, hpass, hends, hn'⟩ := (ih _ hlt (hv.at (hu.at hs)) hends rfl).1 hrest
        refine ⟨.round o d more, rfl, Progress.passes_cons_iff.2 ⟨u, hu, ?_⟩, hends, ?_⟩
        · exact Progress.passes_append_iff.2 ⟨v, hv, hpass⟩
        · simp only [Rounds.nesting]
          omega
    · rintro ⟨rounds, rfl, hpass, hends', hn⟩
      cases rounds with
      | done =>
        obtain rfl := (Progress.passes_nil_iff hs).1 hpass
        exact .inl ⟨t.current?_eq ▸ (Tier.ends_iff.1 hends').2, rfl, rfl⟩
      | round o d more =>
        simp only [Rounds.nesting] at hn
        obtain ⟨u, hu, hpass⟩ := Progress.passes_cons_iff.1 hpass
        obtain ⟨v, hv, hpass⟩ := Progress.passes_append_iff.1 hpass
        have hround := Progress.passes_cons_iff.2 ⟨u, hu, hv⟩
        have hlt : v.items.length < n := hlen ▸ hround.length_lt
        have hends : r.operand.Ends v.tokens := by
          rw [hpass.tokens_eq]
          exact more.ends hends'
        have hx := (hp _ _ _ (hu.at hs)).2 ⟨d, rfl, hv, hends, by omega⟩
        have hrest := (ih _ hlt (hv.at (hu.at hs)) hends rfl).2
          ⟨more, rfl, hpass, hends', by omega⟩
        exact .inr ⟨o.token, o.op, u, _, v, Tier.operator?_token o, hu,
          run_bind_eq_ok_iff.2 ⟨_, v, hx, run_pure_eq_ok_iff.2 ⟨rfl, rfl⟩⟩, hrest⟩

/-- **Chains are read** if their operands are. -/
theorem reads_chain {r : Tier} {p : Parser Expr} (hk : k ≤ maxNesting)
    (hp : p.Reads r.operand k) : (chain r.operator? p).Reads (.chain r) k := by
  intro s e t hs
  rw [chain]
  constructor
  · intro hrun
    obtain ⟨_, u, hx, hrounds⟩ := run_bind_eq_ok_iff.1 hrun
    obtain ⟨x, rfl, hu, hends, hn⟩ := (hp _ _ _ hs).1 hx
    obtain ⟨rounds, rfl, hpass, hends, hn'⟩ :=
      (run_rounds_iff hk hp (hu.at hs) hends).1 hrounds
    refine ⟨.chain x rounds, rfl, Progress.passes_append_iff.2 ⟨u, hu, hpass⟩, hends, ?_⟩
    simp only [Derivation.nesting]
    omega
  · rintro ⟨d, rfl, hpass, hends, hn⟩
    cases d with
    | chain x rounds =>
      simp only [Derivation.nesting] at hn
      obtain ⟨u, hu, hpass⟩ := Progress.passes_append_iff.1 hpass
      have hends' : r.operand.Ends u.tokens := by
        rw [hpass.tokens_eq]
        exact rounds.ends hends
      have hx := (hp _ _ _ hs).2 ⟨x, rfl, hu, hends', by omega⟩
      have hrounds := (run_rounds_iff (e := x.tree) hk hp (hu.at hs) hends').2
        ⟨rounds, rfl, hpass, hends, by omega⟩
      exact run_bind_eq_ok_iff.2 ⟨_, u, hx, hrounds⟩

/-- **Expressions are read.** -/
theorem reads_sum (hk : k ≤ maxNesting) (h : k < maxNesting → inner.Reads (k + 1)) :
    inner.sum.Reads (.chain .additive) k :=
  reads_chain (r := .additive) hk <| reads_chain (r := .modular) hk <|
    reads_chain (r := .multiplicative) hk <| reads_powered hk h

/-! ## Arguments -/

/-- Further arguments are read as many as there are. -/
theorem run_commas_iff {p : Parser Expr} {acc es : List Expr} (hk : k ≤ maxNesting)
    (hp : p.Reads (.chain .additive) k) (hs : s.At k)
    (hends : (Symbol.chain .additive).Ends s.tokens) :
    (plainRounds comma? (fun args _ => do
      let e ← p
      pure (e :: args)) acc).run s = (.ok es, t) ↔
    ∃ more : MoreArguments, more.trees.reverse ++ acc = es ∧ s.Passes more.yield t ∧
      ((Symbol.chain .additive).Ends t.tokens ∧ t.tokens.head? ≠ some .comma) ∧
      k + more.nesting ≤ maxNesting := by
  induction hlen : s.items.length using Nat.strongRecOn generalizing s acc with
  | ind n ih =>
    rw [run_plainRounds_iff hs (by intro tok _ h; cases tok <;> cases h; rfl)]
    constructor
    · rintro (⟨hnone, rfl, rfl⟩ | ⟨tok, _, u, x, v, hcomma, hu, hstep, hrest⟩)
      · exact ⟨.done, rfl, (Progress.passes_nil_iff hs).2 rfl,
          ⟨hends, bind_comma?_eq_none_iff.1 (t.current?_eq ▸ hnone)⟩, hk⟩
      · obtain rfl := eq_comma_of_comma? hcomma
        obtain ⟨_, w, hx, hpure⟩ := run_bind_eq_ok_iff.1 hstep
        obtain ⟨rfl, rfl⟩ := run_pure_eq_ok_iff.1 hpure
        obtain ⟨d, rfl, hv, hends, hn⟩ := (hp _ _ _ (hu.at hs)).1 hx
        have hround := Progress.passes_cons_iff.2 ⟨u, hu, hv⟩
        have hlt : v.items.length < n := hlen ▸ hround.length_lt
        obtain ⟨more, rfl, hpass, hends, hn'⟩ := (ih _ hlt (hv.at (hu.at hs)) hends rfl).1 hrest
        refine ⟨.argument d more, by simp [MoreArguments.trees],
          Progress.passes_cons_iff.2 ⟨u, hu, ?_⟩, hends, ?_⟩
        · exact Progress.passes_append_iff.2 ⟨v, hv, hpass⟩
        · simp only [MoreArguments.nesting]
          omega
    · rintro ⟨more, rfl, hpass, hends', hn⟩
      cases more with
      | done =>
        obtain rfl := (Progress.passes_nil_iff hs).1 hpass
        exact .inl ⟨t.current?_eq ▸ bind_comma?_eq_none_iff.2 hends'.2, rfl, rfl⟩
      | argument d more =>
        simp only [MoreArguments.nesting] at hn
        obtain ⟨u, hu, hpass⟩ := Progress.passes_cons_iff.1 hpass
        obtain ⟨v, hv, hpass⟩ := Progress.passes_append_iff.1 hpass
        have hround := Progress.passes_cons_iff.2 ⟨u, hu, hv⟩
        have hlt : v.items.length < n := hlen ▸ hround.length_lt
        have hends : (Symbol.chain .additive).Ends v.tokens := by
          rw [hpass.tokens_eq]
          exact more.ends hends'.1
        have hx := (hp _ _ _ (hu.at hs)).2 ⟨d, rfl, hv, hends, by omega⟩
        have htrees : more.trees.reverse ++ d.tree :: acc =
            (MoreArguments.argument d more).trees.reverse ++ acc := by
          simp [MoreArguments.trees]
        have hrest := (ih _ hlt (hv.at (hu.at hs)) hends rfl).2
          ⟨more, htrees, hpass, hends', by omega⟩
        exact .inr ⟨.comma, (), u, _, v, rfl, hu,
          run_bind_eq_ok_iff.2 ⟨_, v, hx, run_pure_eq_ok_iff.2 ⟨rfl, rfl⟩⟩, hrest⟩

/-- **Arguments are read.** -/
theorem reads_argumentList (hk : k ≤ maxNesting) (h : k < maxNesting → inner.Reads (k + 1)) :
    inner.argumentList.ReadsArguments k := by
  intro s es t hs
  have hsum := reads_sum hk h
  rw [argumentList, run_current_bind]
  constructor
  · intro hrun
    split at hrun
    · next hcur =>
      obtain ⟨rfl, rfl⟩ := run_pure_eq_ok_iff.1 hrun
      rw [Progress.current?_eq] at hcur
      exact ⟨.empty, rfl, (Progress.passes_nil_iff hs).2 rfl, hcur, hk⟩
    · obtain ⟨_, u, hx, hrun⟩ := run_bind_eq_ok_iff.1 hrun
      obtain ⟨_, v, hmore, hpure⟩ := run_bind_eq_ok_iff.1 hrun
      obtain ⟨rfl, rfl⟩ := run_pure_eq_ok_iff.1 hpure
      obtain ⟨x, rfl, hu, hends, hn⟩ := (hsum _ _ _ hs).1 hx
      obtain ⟨more, rfl, hpass, hends, hn'⟩ := (run_commas_iff hk hsum (hu.at hs) hends).1 hmore
      refine ⟨.list x more, by simp [Arguments.trees],
        Progress.passes_append_iff.2 ⟨u, hu, hpass⟩, hends, ?_⟩
      simp only [Arguments.nesting]
      omega
  · rintro ⟨args, rfl, hpass, hends, hn⟩
    cases args with
    | empty =>
      obtain rfl := (Progress.passes_nil_iff hs).1 hpass
      rw [t.current?_eq, hends]
      exact run_pure_eq_ok_iff.2 ⟨rfl, rfl⟩
    | list x more =>
      simp only [Arguments.nesting] at hn
      obtain ⟨u, hu, hpass⟩ := Progress.passes_append_iff.1 hpass
      obtain ⟨tok, rest, hyield, hbegins⟩ := x.begins
      have hcur : s.current? = some tok := by
        rw [hyield] at hu
        exact hu.current?_eq
      have hends' : (Symbol.chain .additive).Ends u.tokens := by
        rw [hpass.tokens_eq]
        exact more.ends hends.1
      have hx := (hsum _ _ _ hs).2 ⟨x, rfl, hu, hends', by omega⟩
      have hmore := (run_commas_iff hk hsum (hu.at hs) hends').2
        ⟨more, (rfl : _ ++ [x.tree] = _), hpass, hends, by omega⟩
      rw [hcur]
      split
      · next hparen =>
        cases hparen
        cases hbegins
      · refine run_bind_eq_ok_iff.2 ⟨_, u, hx, run_bind_eq_ok_iff.2 ⟨_, t, hmore, ?_⟩⟩
        exact run_pure_eq_ok_iff.2 ⟨by simp [Arguments.trees], rfl⟩

/-! ## The levels -/

/-- **A level reads its symbols** if the level below it does, one nesting deeper. -/
theorem reads_above (hk : k ≤ maxNesting) (h : k < maxNesting → inner.Reads (k + 1)) :
    inner.above.Reads k where
  sign := reads_signed hk h
  step := reads_stepped hk h
  power := reads_powered hk h
  expression := reads_sum hk h
  arguments := reads_argumentList hk h

/-- A level reads its symbols at the nesting that leaves room for the levels below it. -/
theorem reads_tower (bottom : Level) (n : Nat) :
    ∀ k, k + n = maxNesting → (tower bottom (n + 1)).Reads k := by
  induction n with
  | zero =>
    intro k hk
    exact reads_above (Nat.le_of_eq hk) (fun hlt => absurd hk (Nat.ne_of_lt hlt))
  | succ n ih =>
    intro k hk
    exact reads_above (by omega) (fun _ => ih (k + 1) (by omega))

/-- The outermost level reads its symbols. -/
theorem reads_top : top.Reads 0 := reads_tower .ground maxNesting 0 (Nat.zero_add _)

end Level

/-! ## Formulas -/

/-- **A text spells a derivation** if it is without fault and its tokens are the derivation's. -/
def Derivation.SpelledBy {c : Symbol} (d : Derivation c) (cs : List Char) : Prop :=
  (∃ n, (lexemes cs).stop = .ok n) ∧ (lexemes cs).items.map Lexeme.token = d.yield

/-- **A derivation keeps to the limits** of nesting and of operators and calls. -/
def Derivation.Fits {c : Symbol} (d : Derivation c) : Prop :=
  d.nesting ≤ maxNesting ∧ d.yield.countP Token.isCounted ≤ maxOperators

/-- The whole of a text is read as an expression with nothing after it. -/
theorem Parser.run_whole_iff {level : Level} {s t : Progress} {e : Expr}
    (h : level.expression.Reads (.chain .additive) 0) (hs : s.nesting = 0)
    (hroom : s.operators ≤ maxOperators) :
    (whole level).run s = (.ok e, t) ↔ ∃ d : Derivation (.chain .additive), d.tree = e ∧
      (s.Passes d.yield t ∧ t.tokens = []) ∧ d.nesting ≤ maxNesting := by
  rw [whole]
  constructor
  · intro hrun
    obtain ⟨_, _, hmeet, hafter⟩ := run_bind_eq_ok_iff.1 hrun
    obtain ⟨rfl, hmet⟩ := run_meet_eq_ok_iff.1 hmeet
    obtain ⟨_, u, hexpr, hrun⟩ := run_bind_eq_ok_iff.1 hafter
    obtain ⟨d, rfl, hpass, -, hn⟩ := (h _ _ _ ⟨hs, hroom, hmet⟩).1 hexpr
    rw [run_current_bind] at hrun
    split at hrun
    · next hcur =>
      obtain ⟨rfl, rfl⟩ := run_pure_eq_ok_iff.1 hrun
      rw [Progress.current?_eq, List.head?_eq_none_iff] at hcur
      exact ⟨d, rfl, ⟨hpass, hcur⟩, by omega⟩
    · exact absurd hrun run_unexpected_ne
  · rintro ⟨d, rfl, ⟨hpass, hnil⟩, hn⟩
    -- a derivation is never empty, so no fault has been met before it
    have hmet : s.metFault? = none := by
      obtain ⟨tok, rest, hyield, -⟩ := d.begins
      rw [hyield] at hpass
      have hlt := hpass.length_lt
      refine Progress.metFault?_eq_none_iff.2 fun hitems => ?_
      rw [hitems] at hlt
      cases hlt
    have hends : (Symbol.chain .additive).Ends t.tokens := by
      simp [hnil, Symbol.Ends]
    have hexpr := (h _ _ _ ⟨hs, hroom, hmet⟩).2 ⟨d, rfl, hpass, hends, by omega⟩
    refine run_bind_eq_ok_iff.2 ⟨(), s, run_meet_eq_ok_iff.2 ⟨rfl, hmet⟩, ?_⟩
    refine run_bind_eq_ok_iff.2 ⟨_, t, hexpr, ?_⟩
    rw [run_current_bind, Progress.current?_eq, hnil]
    exact run_pure_eq_ok_iff.2 ⟨rfl, rfl⟩

/-- A text is parsed if it spells a derivation that keeps to the limits. -/
theorem parse_eq_ok_iff {cs : List Char} {e : Expr} : parse cs = .ok e ↔
    ∃ d : Derivation (.chain .additive), d.SpelledBy cs ∧ d.Fits ∧ d.tree = e := by
  have hwhole := fun t => Parser.run_whole_iff (t := t) (e := e) Level.reads_top.expression
    (s := .start (lexemes cs)) rfl (Nat.zero_le _)
  calc parse cs = .ok e
    _ ↔ ∃ t, (Parser.whole Level.top).run (.start (lexemes cs)) = (.ok e, t) := by
        rw [parse]
        constructor
        · intro h
          exact ⟨_, Prod.ext h rfl⟩
        · rintro ⟨t, h⟩
          rw [h]
    _ ↔ ∃ d : Derivation (.chain .additive), d.tree = e ∧
          (∃ t, (Progress.start (lexemes cs)).Passes d.yield t ∧ t.tokens = []) ∧
          d.nesting ≤ maxNesting := by
        simp only [hwhole]
        constructor
        · rintro ⟨t, d, he, hpass, hn⟩
          exact ⟨d, he, ⟨t, hpass⟩, hn⟩
        · rintro ⟨d, he, ⟨t, hpass⟩, hn⟩
          exact ⟨t, d, he, hpass, hn⟩
    _ ↔ ∃ d : Derivation (.chain .additive), d.SpelledBy cs ∧ d.Fits ∧ d.tree = e := by
        refine exists_congr fun d => ?_
        rw [Progress.exists_passes_iff, Derivation.SpelledBy, Derivation.Fits]
        simp only [Progress.start, Progress.tokens, Nat.zero_add]
        constructor
        · rintro ⟨he, ⟨hstop, htokens, hroom⟩, hn⟩
          exact ⟨⟨hstop, htokens⟩, ⟨hn, hroom⟩, he⟩
        · rintro ⟨⟨hstop, htokens⟩, ⟨hn, hroom⟩, he⟩
          exact ⟨he, ⟨hstop, htokens, hroom⟩, hn⟩

/-- **The parser accepts exactly the grammar, within the limits.** It answers a tree if and only
if the text spells a derivation that keeps to the limits and has this tree. A text spells one
derivation at most. In every other case the answer is a fault. -/
theorem parse_iff_derivation (cs : List Char) :
    (∀ e, parse cs = .ok e ↔
      ∃ d : Derivation (.chain .additive), d.SpelledBy cs ∧ d.Fits ∧ d.tree = e) ∧
    Subsingleton { d : Derivation (.chain .additive) // d.SpelledBy cs } ∧
    ((∃ fault, parse cs = .error fault) ↔
      ¬ ∃ d : Derivation (.chain .additive), d.SpelledBy cs ∧ d.Fits) := by
  refine ⟨fun e => parse_eq_ok_iff, ⟨?_⟩, ?_⟩
  · rintro ⟨d, -, hd⟩ ⟨d', -, hd'⟩
    exact Subtype.ext (Derivation.eq_of_yield_eq (hd.symm.trans hd'))
  · constructor
    · rintro ⟨fault, hfault⟩ ⟨d, hspelled, hfits⟩
      have hok := parse_eq_ok_iff.2 ⟨d, hspelled, hfits, rfl⟩
      rw [hfault] at hok
      cases hok
    · intro hnone
      cases h : parse cs with
      | error fault => exact ⟨fault, rfl⟩
      | ok e =>
        obtain ⟨d, hspelled, hfits, -⟩ := parse_eq_ok_iff.1 h
        exact absurd ⟨d, hspelled, hfits⟩ hnone

/-- A sign binds tighter than `^`. -/
example : parse "-a1^b2".toList =
    .ok (.binary .power (.unary .neg (.reference "A1")) (.reference "B2")) := by
  refine parse_eq_ok_iff.2 ⟨.chain (.chain (.chain (.raised
    (.unstepped (.signed .minus (.unsigned (.cell "A1"))) [])
    (.base (.unstepped (.unsigned (.cell "B2")) []))) .done) .done) .done, ⟨⟨6, ?_⟩, ?_⟩, ?_, ?_⟩
  · cbv
  · cbv
  · exact ⟨by decide, by decide⟩
  · rfl

end Formula
end FormulaGrid
