/-
# What the parser rejects

A text that is no formula is refused at its first offence (`first_offence_of_parse_error`), unless
it is refused for a limit before: its tokens up to there begin a formula, and what comes next is no
token, or one with which they begin none, or the end of the text though they are no formula. So the
parser reads neither past a place from which no formula can be reached, nor does it stop before.

A parser *finds offences* if every fault that it answers is an offence to what it reads (`Finds`).
As for acceptance, the parsers of a level find them if those of the level below do, one nesting
deeper. Each parser fails in one of its parts, after the parts before have read what they read. The
part finds an offence, and it is one to the whole because there is no second way to read what comes
before: a derivation that begins like the text goes on with the parts that were read.
-/

import FormulaGrid.Proofs.Formula.Continuation
import FormulaGrid.Proofs.Formula.Offence

namespace FormulaGrid
namespace Formula

namespace Parser

/-- A parser finds the offences to a symbol. -/
abbrev Finds (p : Parser Expr) (c : Symbol) : Nat → Prop :=
  p.FindsAs (D := Derivation c) Derivation.yield fun _ => c.Ends

/-- A parser finds the offences to the arguments of a call. -/
abbrev FindsArguments (p : Parser (List Expr)) : Nat → Prop :=
  p.FindsAs Arguments.yield Arguments.Ends

end Parser

namespace Level

open Formula.Parser

/-- **The parsers of a level find offences** at a nesting. -/
structure Finds (level : Level) (k : Nat) : Prop where
  sign : level.sign.Finds .sign k
  step : level.step.Finds .step k
  power : level.power.Finds .power k
  expression : level.expression.Finds (.chain .additive) k
  arguments : level.arguments.FindsArguments k

variable {inner : Level} {k : Nat} {s t : Progress} {f : Fault} {tok : Token}

/-- **An operator before its operand** fails at the operator or as its operand does. -/
theorem offence_of_prefixed {D : Type} {yield : D → List Token} {Ends : D → List Token → Prop}
    {c : Symbol} {p : Parser Expr} (op : UnaryOp) (hf : k < maxNesting → p.Finds c (k + 1))
    (hs : s.At k) (hcur : s.current? = some tok) (htok : tok.isCounted = true)
    (hviable : ∀ y : Derivation c, ∃ d, tok :: y.yield <+: yield d)
    (hrest : ∀ d r x, Ends d r → yield d ++ r = tok :: x →
      ∃ (y : Derivation c) (r' : List Token), c.Ends r' ∧ y.yield ++ r' = x)
    (hrun : (prefixed op p).run s = (.error f, t)) : Offence yield Ends s f := by
  rw [prefixed] at hrun
  have htoken : ∃ d, [] ++ [tok] <+: yield d := by
    obtain ⟨y⟩ := Derivation.nonempty c
    obtain ⟨d, hd⟩ := hviable y
    exact ⟨d, (List.prefix_append [tok] y.yield).trans hd⟩
  refine offence_of_counted (.refl s) hcur htok htoken hrun fun u hu hrun => ?_
  rcases run_bind_eq_error_iff.1 hrun with hoperand | ⟨_, _, -, hpure⟩
  · exact (findsAs_nested hf _ _ _ (hu.at hs) hoperand).after hu.reaches hviable
      fun d r x hends _ heq => hrest d r x hends heq
  · exact absurd hpure run_pure_ne_error

/-! ## Primaries -/

section
variable (hk : k ≤ maxNesting) (hr : k < maxNesting → inner.Reads (k + 1))
  (hf : k < maxNesting → inner.Finds (k + 1))

include hr hf in
/-- A call fails at its keyword, at a parenthesis or as its arguments do. -/
theorem offence_of_call (g : Function) (hs : s.At k) (hcur : s.current? = some g.token)
    (hrun : (inner.call g).run s = (.error f, t)) : Symbol.primary.Offence s f := by
  rw [call] at hrun
  refine offence_of_counted (.refl s) hcur (by cases g <;> rfl)
    ⟨.call g .empty, by simp [Derivation.yield]⟩ hrun fun u hu hrun => ?_
  have hsu := hu.at hs
  refine offence_of_expectLeftParen hsu hu.reaches ⟨.call g .empty, by simp [Derivation.yield]⟩ ?_
    hrun fun v hv hrun => ?_
  · intro d r x _ hx _ heq
    obtain ⟨args, rfl, rfl⟩ := Derivation.eq_call heq
    exact hx rfl
  have hsv := hv.at hsu
  have hreach := hu.reaches.trans hv.reaches
  rcases run_bind_eq_error_iff.1 hrun with hargs | ⟨_, w, hargs, hrun⟩
  · refine (findsAs_nested (fun hk => (hf hk).arguments) _ _ _ hsv hargs).after hreach
      (fun args => ⟨.call g args, by simp [Derivation.yield]⟩) ?_
    intro d r x _ _ heq
    obtain ⟨args, rfl, hx⟩ := Derivation.eq_call heq
    exact ⟨args, _, args.ends_rightParen r, (List.cons.inj hx).2.symm⟩
  · obtain ⟨args, rfl, hw, hends, -⟩ :=
      (ReadsAs.run_nested_iff (fun hk => (hr hk).arguments) hsv).1 hargs
    refine offence_of_expectRightParen (hw.at hsv) (hreach.trans hw.reaches)
      ⟨.call g args, by simp [Derivation.yield]⟩ ?_ hrun
      fun w' _ hpure => absurd hpure run_pure_ne_error
    -- the arguments read are those of any call that begins like the text, so only a closing
    -- parenthesis could come next
    intro d r x _ hx hcur' heq
    obtain ⟨args', rfl, hargs'⟩ := Derivation.eq_call heq
    rw [w.current?_eq] at hcur'
    obtain ⟨-, rfl⟩ := Arguments.eq_of_ends (hends.congr hcur') (args'.ends_rightParen r)
      (List.cons.inj hargs').2
    exact hx rfl

include hr hf in
/-- A group fails at a parenthesis or as its expression does. -/
theorem offence_of_group (hs : s.At k) (hcur : s.current? = some .leftParen)
    (hrun : inner.group.run s = (.error f, t)) : Symbol.primary.Offence s f := by
  obtain ⟨y⟩ := Derivation.nonempty (.chain .additive)
  rw [group] at hrun
  refine offence_of_free hs (.refl s) hcur rfl ⟨.group y, by simp [Derivation.yield]⟩ hrun
    fun u hu hrun => ?_
  have hsu := hu.at hs
  rcases run_bind_eq_error_iff.1 hrun with hinner | ⟨_, v, hinner, hrun⟩
  · refine (findsAs_nested (fun hk => (hf hk).expression) _ _ _ hsu hinner).after hu.reaches
      (fun y => ⟨.group y, by simp [Derivation.yield]⟩) ?_
    intro d r x _ _ heq
    obtain ⟨y, rfl, hx⟩ := Derivation.eq_group heq
    exact ⟨y, _, Symbol.ends_rightParen, hx.symm⟩
  · obtain ⟨y, rfl, hv, hends, -⟩ :=
      (ReadsAs.run_nested_iff (fun hk => (hr hk).expression) hsu).1 hinner
    refine offence_of_expectRightParen (hv.at hsu) (hu.reaches.trans hv.reaches)
      ⟨.group y, by simp [Derivation.yield]⟩ ?_ hrun
      fun w _ hpure => absurd hpure run_pure_ne_error
    intro d r x _ hx hcur' heq
    obtain ⟨y', rfl, hy'⟩ := Derivation.eq_group heq
    rw [v.current?_eq] at hcur'
    obtain ⟨-, rfl⟩ := y.eq_of_append y' (hends.congr hcur') Symbol.ends_rightParen hy'
    exact hx rfl

include hr hf in
/-- **Offences to primaries are found.** -/
theorem finds_primary : inner.primary.Finds .primary k := by
  intro s f t hs hrun
  rw [primary, run_current_bind] at hrun
  split at hrun
  · next value hcur =>
    exact offence_of_free hs (.refl s) hcur rfl ⟨.number value, by simp [Derivation.yield]⟩ hrun
      fun u _ hpure => absurd hpure run_pure_ne_error
  · next name hcur =>
    exact offence_of_free hs (.refl s) hcur rfl ⟨.cell name, by simp [Derivation.yield]⟩ hrun
      fun u _ hpure => absurd hpure run_pure_ne_error
  · next hcur => exact offence_of_call hr hf .mmin hs hcur hrun
  · next hcur => exact offence_of_call hr hf .mmax hs hcur hrun
  · next hcur => exact offence_of_group hr hf hs hcur hrun
  · -- the tokens tried so far are all that begin a primary
    next hnumber hcell hmmin hmmax hparen =>
    obtain ⟨y⟩ := Derivation.nonempty .primary
    refine .misplaced (.refl s) ⟨y, List.nil_prefix⟩ hs.unmet (position_of_run_unexpected hrun) ?_
    intro d r x _ hx heq
    obtain ⟨tok, rest, hd, hbegins⟩ := d.begins
    have hcur : s.current? = some tok := by
      rw [← hx, ← List.nil_append x, ← heq, hd]
      rfl
    cases tok with
    | number value => exact hnumber value hcur
    | cell name => exact hcell name hcur
    | mmin => exact hmmin hcur
    | mmax => exact hmmax hcur
    | leftParen => exact hparen hcur
    | _ => cases hbegins

/-! ## Signs, steps and powers -/

include hr hf in
/-- **Offences to signs are found.** -/
theorem finds_signed : inner.signed.Finds .sign k := by
  intro s f t hs hrun
  rw [signed, run_current_bind] at hrun
  split at hrun
  · next op hop =>
    obtain ⟨o, hcur, rfl⟩ := bind_signOp?_eq_some_iff.1 hop
    refine offence_of_prefixed o.op (fun hk => (hf hk).sign) hs hcur (by cases o <;> rfl)
      (fun y => ⟨.signed o y, by simp [Derivation.yield]⟩) ?_ hrun
    intro d r x hends heq
    obtain ⟨y, rfl, rfl⟩ := Derivation.eq_signed heq
    exact ⟨y, r, hends, rfl⟩
  · next hop =>
    refine (finds_primary hr hf s f t hs hrun).within
      (fun y => ⟨.unsigned y, by simp [Derivation.yield]⟩) ?_
    intro d r hends hcur
    cases d with
    | signed o y =>
      have htoken : s.current? = some o.token := by rw [← hcur, Derivation.yield]; rfl
      rw [bind_signOp?_eq_some_iff.2 ⟨o, htoken, rfl⟩] at hop
      cases hop
    | unsigned y => exact ⟨y, r, hends, by rw [Derivation.yield]⟩

/-- Step operators after an operand fail at one of them only, by what follows it. -/
theorem offence_of_steps {e : Expr} (hs : s.At k)
    (hrun : (operatorRounds stepOp? (fun e op => pure (.unary op e)) e).run s = (.error f, t)) :
    Offence (List.map Step.token) (fun _ => Symbol.step.Ends) s f := by
  change repeatFrom stepOp? countOperator countOperator_items _ e s = _ at hrun
  fun_induction repeatFrom stepOp? countOperator countOperator_items
    (fun e op => pure (.unary op e)) e s with
  | case1 => cases hrun
  | case2 e s op hop g u hround =>
    cases hrun
    obtain ⟨o, hcur, rfl⟩ := bind_stepOp?_eq_some_iff.1 hop
    exact offence_of_counted (.refl s) hcur (by cases o <;> rfl) ⟨[o], List.prefix_rfl⟩ hround
      fun v _ hpure => absurd hpure run_pure_ne_error
  | case3 e s op hop e' u hround ih =>
    obtain ⟨o, hcur, rfl⟩ := bind_stepOp?_eq_some_iff.1 hop
    obtain ⟨v, hv, hpure⟩ := (run_counted_bind_iff hcur (by cases o <;> rfl)).1 hround
    obtain ⟨rfl, rfl⟩ := run_pure_eq_ok_iff.1 hpure
    refine (ih (hv.at hs) hrun).after hv.reaches (fun os => ⟨o :: os, List.prefix_rfl⟩) ?_
    intro os r x hends _ heq
    obtain ⟨os', rfl, rfl⟩ := eq_step_cons hends heq
    exact ⟨os', r, hends, rfl⟩

include hk hr hf in
/-- **Offences to steps are found.** -/
theorem finds_stepped : inner.stepped.Finds .step k := by
  intro s f t hs hrun
  rw [stepped, run_current_bind] at hrun
  split at hrun
  · next op hop =>
    obtain ⟨o, hcur, rfl⟩ := bind_stepOp?_eq_some_iff.1 hop
    refine offence_of_prefixed o.op (fun hk => (hf hk).step) hs hcur (by cases o <;> rfl)
      (fun y => ⟨.stepped o y, by simp [Derivation.yield]⟩) ?_ hrun
    intro d r x hends heq
    obtain ⟨y, rfl, rfl⟩ := Derivation.eq_stepped heq
    exact ⟨y, r, hends, rfl⟩
  · next hop =>
    rcases run_bind_eq_error_iff.1 hrun with hsign | ⟨_, u, hsign, hsteps⟩
    · refine (finds_signed hr hf s f t hs hsign).within
        (fun y => ⟨.unstepped y [], by simp [Derivation.yield]⟩) ?_
      intro d r hends hcur
      cases d with
      | stepped o y =>
        have htoken : s.current? = some o.token := by rw [← hcur, Derivation.yield]; rfl
        rw [bind_stepOp?_eq_some_iff.2 ⟨o, htoken, rfl⟩] at hop
        cases hop
      | unstepped y os =>
        exact ⟨y, _, Symbol.ends_of_rank rfl _, by rw [Derivation.yield, List.append_assoc]⟩
    · obtain ⟨y, rfl, hu, -, -⟩ := (reads_signed hk hr _ _ _ hs).1 hsign
      refine (offence_of_steps (hu.at hs) hsteps).after hu.reaches
        (fun os => ⟨.unstepped y os, by simp [Derivation.yield]⟩) ?_
      intro d r x hends hcur heq
      cases d with
      | stepped o z =>
        rw [Derivation.yield] at heq
        exact absurd heq.symm (y.yield_append_ne (by cases o <;> rfl) _ _)
      | unstepped y' os =>
        rw [Derivation.yield, List.append_assoc] at heq
        obtain ⟨rfl, hrest⟩ :=
          y'.eq_of_append y (Symbol.ends_of_rank rfl _) (Symbol.ends_of_rank rfl _) heq
        exact ⟨os, r, hends, hrest⟩

include hk hr hf in
/-- **Offences to powers are found.** -/
theorem finds_powered : inner.powered.Finds .power k := by
  intro s f t hs hrun
  rw [powered] at hrun
  rcases run_bind_eq_error_iff.1 hrun with hbase | ⟨_, u, hbase, hrun⟩
  · refine (finds_stepped hk hr hf s f t hs hbase).within
      (fun y => ⟨.base y, by simp [Derivation.yield]⟩) ?_
    intro d r hends _
    cases d with
    | base y => exact ⟨y, r, hends.mono (by decide), by rw [Derivation.yield]⟩
    | raised y z => exact ⟨y, _, Symbol.ends_power, by rw [Derivation.yield, List.append_assoc]; rfl⟩
  · obtain ⟨y, rfl, hu, hends, -⟩ := (reads_stepped hk hr _ _ _ hs).1 hbase
    rw [run_current_bind] at hrun
    split at hrun
    · next hcur =>
      obtain ⟨z⟩ := Derivation.nonempty .power
      refine offence_of_counted hu.reaches hcur rfl
        ⟨.raised y z, by simp [Derivation.yield]⟩ hrun fun v hv hrun => ?_
      rcases run_bind_eq_error_iff.1 hrun with hexponent | ⟨_, _, -, hpure⟩
      · refine (findsAs_nested (fun hk => (hf hk).power) _ _ _ (hv.at (hu.at hs)) hexponent).after
          (hu.reaches.trans hv.reaches) (fun z => ⟨.raised y z, by simp [Derivation.yield]⟩) ?_
        intro d r x hends' _ heq
        rw [List.append_assoc] at heq
        obtain ⟨z, rfl, rfl⟩ := Derivation.eq_raised hends' heq
        exact ⟨z, r, hends', rfl⟩
      · exact absurd hpure run_pure_ne_error
    · exact absurd hrun run_pure_ne_error

end

/-! ## Chains -/

/-- The rounds of a chain fail at an operator or as an operand does. -/
theorem offence_of_rounds {c : Tier} {p : Parser Expr} {e : Expr} (hr : p.Reads c.operand k)
    (hf : p.Finds c.operand k) (hs : s.At k)
    (hrun : (operatorRounds c.operator? (fun left op => do
      let right ← p
      pure (.binary op left right)) e).run s = (.error f, t)) :
    Offence (D := Rounds c) Rounds.yield (fun _ => (Symbol.chain c).Ends) s f := by
  change repeatFrom c.operator? countOperator countOperator_items _ e s = _ at hrun
  fun_induction repeatFrom c.operator? countOperator countOperator_items (fun left op => do
    let right ← p
    pure (.binary op left right)) e s with
  | case1 => cases hrun
  | case2 e s op hop g u hround =>
    cases hrun
    obtain ⟨o, hcur, rfl⟩ := Tier.bind_operator?_eq_some_iff.1 hop
    obtain ⟨y⟩ := Derivation.nonempty c.operand
    refine offence_of_counted (.refl s) hcur (by cases o <;> rfl)
      ⟨.round o y .done, by simp [Rounds.yield]⟩ hround fun v hv hrun => ?_
    rcases run_bind_eq_error_iff.1 hrun with hoperand | ⟨_, _, -, hpure⟩
    · refine (hf v _ _ (hv.at hs) hoperand).after hv.reaches
        (fun y => ⟨.round o y .done, by simp [Rounds.yield]⟩) ?_
      intro rounds r x hends _ heq
      obtain ⟨y, more, rfl, rfl⟩ := Rounds.eq_round hends heq
      exact ⟨y, _, more.ends hends, rfl⟩
    · exact absurd hpure run_pure_ne_error
  | case3 e s op hop e' u hround ih =>
    obtain ⟨o, hcur, rfl⟩ := Tier.bind_operator?_eq_some_iff.1 hop
    obtain ⟨v, hv, hstep⟩ := (run_counted_bind_iff hcur (by cases o <;> rfl)).1 hround
    obtain ⟨_, w, hoperand, hpure⟩ := run_bind_eq_ok_iff.1 hstep
    obtain ⟨rfl, rfl⟩ := run_pure_eq_ok_iff.1 hpure
    obtain ⟨y, rfl, hu, hends, -⟩ := (hr _ _ _ (hv.at hs)).1 hoperand
    -- the operand ends before what follows it, so the rounds of any derivation that begins like
    -- the text go on from the same place
    refine (ih (hu.at (hv.at hs)) hrun).after (hv.reaches.trans hu.reaches)
      (fun more => ⟨.round o y more, by simp [Rounds.yield]⟩) ?_
    intro rounds r x hends' hcur' heq
    rw [List.append_assoc] at heq
    obtain ⟨y', more, rfl, hrest⟩ := Rounds.eq_round hends' heq
    rw [u.current?_eq] at hcur'
    obtain ⟨-, hmore⟩ := y.eq_of_append y' (hends.congr hcur') (more.ends hends') hrest
    exact ⟨more, r, hends', hmore.symm⟩

/-- **Offences to chains are found** if those to their operands are. -/
theorem finds_chain {c : Tier} {p : Parser Expr} (hr : p.Reads c.operand k)
    (hf : p.Finds c.operand k) : (chain c.operator? p).Finds (.chain c) k := by
  intro s f t hs hrun
  rw [chain] at hrun
  rcases run_bind_eq_error_iff.1 hrun with hfirst | ⟨_, u, hfirst, hrounds⟩
  · refine (hf s f t hs hfirst).within (fun y => ⟨.chain y .done, by simp [Derivation.yield]⟩) ?_
    intro d r hends _
    cases d with
    | chain y rounds =>
      exact ⟨y, _, rounds.ends hends, by rw [Derivation.yield, List.append_assoc]⟩
  · obtain ⟨y, rfl, hu, hends, -⟩ := (hr _ _ _ hs).1 hfirst
    refine (offence_of_rounds hr hf (hu.at hs) hrounds).after hu.reaches
      (fun rounds => ⟨.chain y rounds, by simp [Derivation.yield]⟩) ?_
    intro d r x hends' hcur heq
    cases d with
    | chain y' rounds =>
      rw [Derivation.yield, List.append_assoc] at heq
      rw [u.current?_eq] at hcur
      obtain ⟨-, hrest⟩ := y'.eq_of_append y (rounds.ends hends') (hends.congr hcur) heq
      exact ⟨rounds, r, hends', hrest⟩

section
variable (hk : k ≤ maxNesting) (hr : k < maxNesting → inner.Reads (k + 1))
  (hf : k < maxNesting → inner.Finds (k + 1))
include hk hr hf

/-- **Offences to expressions are found.** -/
theorem finds_sum : inner.sum.Finds (.chain .additive) k := by
  have hpower := finds_powered hk hr hf
  have hproduct := reads_chain (r := .multiplicative) hk (reads_powered hk hr)
  have hmodular := reads_chain (r := .modular) hk hproduct
  exact finds_chain (c := .additive) hmodular <| finds_chain (c := .modular) hproduct <|
    finds_chain (c := .multiplicative) (reads_powered hk hr) hpower

end

/-! ## Arguments -/

/-- Further arguments fail at a comma or as an argument does. -/
theorem offence_of_commas {p : Parser Expr} {acc : List Expr} (hr : p.Reads (.chain .additive) k)
    (hf : p.Finds (.chain .additive) k) (hs : s.At k)
    (hrun : (plainRounds comma? (fun args _ => do
      let e ← p
      pure (e :: args)) acc).run s = (.error f, t)) :
    Offence MoreArguments.yield
      (fun _ r => (Symbol.chain .additive).Ends r ∧ r.head? ≠ some .comma) s f := by
  change repeatFrom comma? (pure ()) (fun _ => rfl) _ acc s = _ at hrun
  fun_induction repeatFrom comma? (pure ()) (fun _ => rfl) (fun args _ => do
    let e ← p
    pure (e :: args)) acc s with
  | case1 => cases hrun
  | case2 acc s _ hcomma g u hround =>
    cases hrun
    obtain ⟨tok, hcur, htok⟩ := Option.bind_eq_some_iff.1 hcomma
    obtain rfl := eq_comma_of_comma? htok
    obtain ⟨y⟩ := Derivation.nonempty (.chain .additive)
    refine offence_of_free hs (.refl s) hcur rfl
      ⟨.argument y .done, by simp [MoreArguments.yield]⟩ hround fun v hv hrun => ?_
    rcases run_bind_eq_error_iff.1 hrun with hargument | ⟨_, _, -, hpure⟩
    · refine (hf v _ _ (hv.at hs) hargument).after hv.reaches
        (fun y => ⟨.argument y .done, by simp [MoreArguments.yield]⟩) ?_
      intro more r x hends _ heq
      obtain ⟨y, more', rfl, rfl⟩ := more.eq_argument hends.2 heq
      exact ⟨y, _, more'.ends hends.1, rfl⟩
    · exact absurd hpure run_pure_ne_error
  | case3 acc s _ hcomma es u hround ih =>
    obtain ⟨tok, hcur, htok⟩ := Option.bind_eq_some_iff.1 hcomma
    obtain rfl := eq_comma_of_comma? htok
    obtain ⟨v, hv, hstep⟩ := (run_advance_bind_iff hs hcur rfl).1 hround
    obtain ⟨_, w, hargument, hpure⟩ := run_bind_eq_ok_iff.1 hstep
    obtain ⟨rfl, rfl⟩ := run_pure_eq_ok_iff.1 hpure
    obtain ⟨y, rfl, hu, hends, -⟩ := (hr _ _ _ (hv.at hs)).1 hargument
    refine (ih (hu.at (hv.at hs)) hrun).after (hv.reaches.trans hu.reaches)
      (fun more => ⟨.argument y more, by simp [MoreArguments.yield]⟩) ?_
    intro more r x hends' hcur' heq
    rw [List.append_assoc] at heq
    obtain ⟨y', more', rfl, hrest⟩ := more.eq_argument hends'.2 heq
    rw [u.current?_eq] at hcur'
    obtain ⟨-, hmore⟩ := y.eq_of_append y' (hends.congr hcur') (more'.ends hends'.1) hrest
    exact ⟨more', r, hends', hmore.symm⟩

section
variable (hk : k ≤ maxNesting) (hr : k < maxNesting → inner.Reads (k + 1))
  (hf : k < maxNesting → inner.Finds (k + 1))
include hk hr hf

/-- **Offences to arguments are found.** -/
theorem finds_argumentList : inner.argumentList.FindsArguments k := by
  intro s f t hs hrun
  have hreads := reads_sum hk hr
  have hfinds := finds_sum hk hr hf
  rw [argumentList, run_current_bind] at hrun
  split at hrun
  · exact absurd hrun run_pure_ne_error
  · next hparen =>
    rcases run_bind_eq_error_iff.1 hrun with hfirst | ⟨_, u, hfirst, hrun⟩
    · refine (hfinds s f t hs hfirst).within
        (fun y => ⟨.list y .done, by simp [Arguments.yield]⟩) ?_
      intro args r hends hcur
      cases args with
      | empty => exact absurd (hcur.symm.trans hends) hparen
      | list y more => exact ⟨y, _, more.ends hends.1, by rw [Arguments.yield, List.append_assoc]⟩
    · obtain ⟨y, rfl, hu, hends, -⟩ := (hreads _ _ _ hs).1 hfirst
      rcases run_bind_eq_error_iff.1 hrun with hmore | ⟨_, _, -, hpure⟩
      · refine (offence_of_commas hreads hfinds (hu.at hs) hmore).after hu.reaches
          (fun more => ⟨.list y more, by simp [Arguments.yield]⟩) ?_
        intro args r x hends' hcur heq
        cases args with
        | empty =>
          obtain ⟨rest, rfl⟩ := List.head?_eq_some_iff.1 hends'
          exact absurd heq.symm (y.yield_append_ne rfl _ _)
        | list y' more =>
          rw [Arguments.yield, List.append_assoc] at heq
          rw [u.current?_eq] at hcur
          obtain ⟨-, hrest⟩ := y'.eq_of_append y (more.ends hends'.1) (hends.congr hcur) heq
          exact ⟨more, r, hends', hrest⟩
      · exact absurd hpure run_pure_ne_error

/-! ## The levels -/

/-- **A level finds offences** if the level below it does, one nesting deeper. -/
theorem finds_above : inner.above.Finds k where
  sign := finds_signed hr hf
  step := finds_stepped hk hr hf
  power := finds_powered hk hr hf
  expression := finds_sum hk hr hf
  arguments := finds_argumentList hk hr hf

end

/-- A level finds offences at the nesting that leaves room for the levels below it. -/
theorem finds_tower (bottom : Level) (n : Nat) :
    ∀ k, k + n = maxNesting → (tower bottom (n + 1)).Finds k := by
  induction n with
  | zero =>
    intro k hk
    have hfull : ¬ k < maxNesting := Nat.not_lt.2 (Nat.le_of_eq hk.symm)
    exact finds_above (Nat.le_of_eq hk) (absurd · hfull) (absurd · hfull)
  | succ n ih =>
    intro k hk
    exact finds_above (by omega) (fun _ => reads_tower bottom n (k + 1) (by omega))
      (fun _ => ih (k + 1) (by omega))

end Level

/-! ## Formulas -/

/-- A whole text fails as its expression does, or at the first token after it. -/
theorem Parser.offence_of_whole {level : Level} {s t : Progress} {f : Fault}
    (hr : level.expression.Reads (.chain .additive) 0)
    (hf : level.expression.Finds (.chain .additive) 0) (hs : s.nesting = 0)
    (hroom : s.operators ≤ maxOperators) (hrun : (whole level).run s = (.error f, t)) :
    Offence (D := Derivation (.chain .additive)) Derivation.yield (fun _ r => r = []) s f := by
  rw [whole] at hrun
  rcases run_bind_eq_error_iff.1 hrun with hmeet | ⟨_, _, hmeet, hafter⟩
  · obtain ⟨y⟩ := Derivation.nonempty (.chain .additive)
    simp only [meet] at hmeet
    split at hmeet
    · next hmet =>
      cases hmeet
      exact .unreadable (.refl s) ⟨y, List.nil_prefix⟩ hmet
    · cases hmeet
  obtain ⟨rfl, hmet⟩ := run_meet_eq_ok_iff.1 hmeet
  rcases run_bind_eq_error_iff.1 hafter with hexpr | ⟨_, u, hexpr, hrun⟩
  · refine (hf _ _ _ ⟨hs, hroom, hmet⟩ hexpr).within (fun d => ⟨d, List.prefix_rfl⟩) ?_
    rintro d r rfl -
    exact ⟨d, [], by simp [Symbol.Ends], rfl⟩
  · obtain ⟨d, rfl, hu, hends, -⟩ := (hr _ _ _ ⟨hs, hroom, hmet⟩).1 hexpr
    rw [run_current_bind] at hrun
    split at hrun
    · exact absurd hrun run_pure_ne_error
    · next tok hcur =>
      refine .misplaced hu.reaches ⟨d, List.prefix_rfl⟩ hu.unmet
        (position_of_run_unexpected hrun) ?_
      rintro d' r x rfl hx heq
      have hhead := hx
      rw [u.current?_eq] at hhead
      obtain ⟨-, rfl⟩ := d'.eq_of_append d (by simp [Symbol.Ends]) (hends.congr hhead) heq
      rw [hcur] at hx
      cases hx

/-- **What stands at a place** that is reached in a text. The text before it has the tokens of the
word and no fault; at the place there is its end, a fault or a token. -/
theorem Progress.Reaches.exists_cut {cs : List Char} {w : List Token} {t : Progress}
    (h : (start (lexemes cs)).Reaches w t) :
    ∃ front n, front.map Lexeme.token = w ∧ n ≤ cs.length ∧
      lexemes (cs.take n) = ⟨front, .ok n⟩ ∧
      ((cs.drop n = [] ∧ t.metFault? = none ∧ t.current? = none ∧ t.position = n) ∨
       (∃ c r complaint, cs.drop n = c :: r ∧ tokenAt c r = .error complaint ∧
          t.metFault? = some ⟨complaint, n⟩) ∨
       ∃ c r token m, cs.drop n = c :: r ∧ tokenAt c r = .ok (token, m) ∧
          t.metFault? = none ∧ t.current? = some token ∧ t.position = n) := by
  obtain ⟨front, hitems, hw⟩ := h.items
  have hstop := h.stop
  obtain ⟨items, stop, nesting, operators⟩ := t
  obtain ⟨n, hn, hbefore, hafter, hfirst⟩ := Formula.exists_cut hitems
  rw [Nat.zero_add] at hbefore hafter
  have hrest : lexemesFrom n (cs.drop n) = ⟨items, stop⟩ := by
    rw [hafter]
    exact congrArg _ hstop.symm
  refine ⟨front, n, hw, hn, hbefore, ?_⟩
  rcases lexemesFrom_cases n hfirst with
    ⟨hnil, heq⟩ | ⟨c, r, complaint, hdrop, htoken, heq⟩ | ⟨c, r, token, m, hdrop, -, htoken, heq⟩
  · cases hrest.symm.trans heq
    exact .inl ⟨hnil, rfl, rfl, rfl⟩
  · cases hrest.symm.trans heq
    exact .inr (.inl ⟨c, r, complaint, hdrop, htoken, rfl⟩)
  · cases hrest.symm.trans heq
    exact .inr (.inr ⟨c, r, token, m, hdrop, htoken, rfl, rfl, rfl⟩)

/-- **Tokens begin a formula:** they can be gone on with to the end of one. -/
def Begins (w : List Token) : Prop := ∃ d : Derivation (.chain .additive), w <+: d.yield

/-- The tokens of a text before a place. -/
def tokensBefore (cs : List Char) (n : Nat) : List Token :=
  (lexemes (cs.take n)).items.map Lexeme.token

/-- **A fault is the first offence in a text:** the text before it is read without a fault and begins
a formula; but where it stands no token begins, for which it is the complaint, or there is a token
with which no formula is begun any more, or the text is over and no formula. -/
structure FirstOffence (cs : List Char) (f : Fault) : Prop where
  inside : f.position ≤ cs.length
  readable : (lexemes (cs.take f.position)).stop = .ok f.position
  begins : Begins (tokensBefore cs f.position)
  offends :
    match cs.drop f.position with
    | [] => ∀ d : Derivation (.chain .additive), d.yield ≠ tokensBefore cs f.position
    | c :: r =>
      match tokenAt c r with
      | .error complaint => f.complaint = complaint
      | .ok (token, _) => ¬ Begins (tokensBefore cs f.position ++ [token])

/-- **A text that is no formula is refused at its first offence,** or for a limit. -/
theorem first_offence_of_parse_error {cs : List Char} {f : Fault} (h : parse cs = .error f)
    (hlimit : ¬ f.complaint.IsLimit) : FirstOffence cs f := by
  have hoffence : Offence (D := Derivation (.chain .additive)) Derivation.yield
      (fun _ r => r = []) (.start (lexemes cs)) f :=
    Parser.offence_of_whole (Level.reads_tower .ground maxNesting 0 (Nat.zero_add _)).expression
      (Level.finds_tower .ground maxNesting 0 (Nat.zero_add _)).expression rfl (Nat.zero_le _)
      (Prod.ext h rfl)
  cases hoffence with
  | limit h => exact absurd h hlimit
  | unreadable hreach hviable hmet =>
    obtain ⟨front, n, rfl, hn, hbefore, hplace⟩ := hreach.exists_cut
    rcases hplace with ⟨-, hunmet, -⟩ | ⟨c, r, complaint, hdrop, htoken, hfault⟩ |
      ⟨-, -, -, -, -, -, hunmet, -⟩
    · rw [hmet] at hunmet
      cases hunmet
    · cases hmet.symm.trans hfault
      refine ⟨hn, by rw [hbefore], by rwa [tokensBefore, hbefore], ?_⟩
      simp only [hdrop, htoken]
    · rw [hmet] at hunmet
      cases hunmet
  | misplaced hreach hviable hunmet hposition hblocked =>
    obtain ⟨front, n, rfl, hn, hbefore, hplace⟩ := hreach.exists_cut
    have htokens : tokensBefore cs n = front.map Lexeme.token := by rw [tokensBefore, hbefore]
    rcases hplace with ⟨hdrop, -, hcur, hn'⟩ | ⟨-, -, complaint, -, -, hmet⟩ |
      ⟨c, r, token, m, hdrop, htoken, -, hcur, hn'⟩
    · obtain rfl := hposition.trans hn'
      refine ⟨hn, by rw [hbefore], htokens ▸ hviable, ?_⟩
      rw [hdrop]
      intro d hd
      exact hblocked d [] [] rfl hcur.symm (by rw [hd, htokens])
    · rw [hunmet] at hmet
      cases hmet
    · obtain rfl := hposition.trans hn'
      refine ⟨hn, by rw [hbefore], htokens ▸ hviable, ?_⟩
      simp only [hdrop, htoken, htokens]
      rintro ⟨d, x, hx⟩
      exact hblocked d [] (token :: x) rfl hcur.symm (by rw [← hx]; simp)

/-- The hypotheses of `first_offence_of_parse_error` hold of a call with a comma missing. -/
theorem first_offence_of_missing_comma :
    parse "mmax(a1, b2 c3)".toList = .error ⟨.expected .rightParen (some (.cell "C3")), 12⟩ ∧
      ¬ (Complaint.expected .rightParen (some (.cell "C3"))).IsLimit ∧
      FirstOffence "mmax(a1, b2 c3)".toList ⟨.expected .rightParen (some (.cell "C3")), 12⟩ := by
  have hparse : parse "mmax(a1, b2 c3)".toList =
      .error ⟨.expected .rightParen (some (.cell "C3")), 12⟩ := by
    with_unfolding_all rfl
  exact ⟨hparse, id, first_offence_of_parse_error hparse id⟩

end Formula
end FormulaGrid
