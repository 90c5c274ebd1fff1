/-
# How derivations go on

A text in which a derivation of a symbol begins says by its first token which derivation that is,
and what the text goes on with after that token is made up of the parts that come next:

| begins with | goes on with |
| --- | --- |
| the keyword of a function | arguments in parentheses |
| an opening parenthesis | an expression and the closing one |
| a sign or step operator | a sign or a step |
| a step and `^` | a power |
| an operator of a chain | an operand and further rounds |
| a comma | an argument and further ones |

Arguments are read in one way only wherever they end, not only before a closing parenthesis
(`Arguments.eq_of_ends`). Every symbol has a derivation, so what it goes on with can always come.
-/

import FormulaGrid.Proofs.Formula.Acceptance

namespace FormulaGrid
namespace Formula

/-- **Every symbol has a derivation.** -/
theorem Derivation.nonempty : ∀ c : Symbol, Nonempty (Derivation c)
  | .primary => ⟨.cell ""⟩
  | .sign => ⟨.unsigned (.cell "")⟩
  | .step => (nonempty .sign).elim fun x => ⟨.unstepped x []⟩
  | .power => (nonempty .step).elim fun x => ⟨.base x⟩
  | .chain .multiplicative => (nonempty .power).elim fun x => ⟨.chain x .done⟩
  | .chain .modular => (nonempty (.chain .multiplicative)).elim fun x => ⟨.chain x .done⟩
  | .chain .additive => (nonempty (.chain .modular)).elim fun x => ⟨.chain x .done⟩
termination_by c => c.rank
decreasing_by all_goals decide

variable {c : Symbol} {r x : List Token} {t : Tier}

/-- A symbol ends where it ends before the same token. -/
theorem Symbol.Ends.congr (h : c.Ends r) (hx : x.head? = r.head?) : c.Ends x := by
  rwa [Symbol.Ends, hx]

/-- A primary that begins with the keyword of a function is a call of it. -/
theorem Derivation.eq_call {d : Derivation .primary} {f : Function}
    (h : d.yield ++ r = f.token :: x) :
    ∃ args, d = .call f args ∧ x = .leftParen :: (args.yield ++ .rightParen :: r) := by
  cases d with
  | call f' args =>
    simp only [Derivation.yield, List.cons_append, List.append_assoc, List.cons.injEq] at h
    obtain ⟨htoken, rfl⟩ := h
    exact ⟨args, by rw [Function.token_injective htoken], rfl⟩
  | _ => cases f <;> simp [Derivation.yield, Function.token] at h

/-- A primary that begins with a parenthesis is a group. -/
theorem Derivation.eq_group {d : Derivation .primary} (h : d.yield ++ r = .leftParen :: x) :
    ∃ y, d = .group y ∧ x = y.yield ++ .rightParen :: r := by
  cases d with
  | group y =>
    simp only [Derivation.yield, List.cons_append, List.append_assoc, List.cons.injEq] at h
    exact ⟨y, rfl, h.2.symm⟩
  | call f => cases f <;> simp [Derivation.yield, Function.token] at h
  | _ => simp [Derivation.yield] at h

/-- A sign that begins with a sign operator is signed. -/
theorem Derivation.eq_signed {d : Derivation .sign} {o : Sign} (h : d.yield ++ r = o.token :: x) :
    ∃ y, d = .signed o y ∧ x = y.yield ++ r := by
  cases d with
  | signed o' y =>
    simp only [Derivation.yield, List.cons_append, List.cons.injEq] at h
    exact ⟨y, by rw [Sign.token_injective h.1], h.2.symm⟩
  | unsigned y => exact absurd h (y.yield_append_ne (by cases o <;> rfl) _ _)

/-- A step that begins with a step operator is stepped before. -/
theorem Derivation.eq_stepped {d : Derivation .step} {o : Step}
    (h : d.yield ++ r = o.token :: x) : ∃ y, d = .stepped o y ∧ x = y.yield ++ r := by
  cases d with
  | stepped o' y =>
    simp only [Derivation.yield, List.cons_append, List.cons.injEq] at h
    exact ⟨y, by rw [Step.token_injective h.1], h.2.symm⟩
  | unstepped y os =>
    rw [Derivation.yield, List.append_assoc] at h
    exact absurd h (y.yield_append_ne (by cases o <;> rfl) _ _)

/-- A power that begins with a step and `^` is raised. -/
theorem Derivation.eq_raised {d : Derivation .power} {y : Derivation .step}
    (hr : Symbol.power.Ends r) (h : d.yield ++ r = y.yield ++ .power :: x) :
    ∃ z, d = .raised y z ∧ x = z.yield ++ r := by
  cases d with
  | base y' =>
    obtain ⟨-, rfl⟩ := y'.eq_of_append y (hr.mono (by decide)) Symbol.ends_power h
    exact absurd (Symbol.ends_cons.1 hr) (by decide)
  | raised y' z =>
    rw [Derivation.yield, List.append_assoc] at h
    obtain ⟨rfl, hrest⟩ := y'.eq_of_append y Symbol.ends_power Symbol.ends_power h
    exact ⟨z, rfl, (List.cons.inj hrest).2.symm⟩

/-- Steps that begin with a step operator go on after it. -/
theorem eq_step_cons {os : List Step} {o : Step} (hr : Symbol.step.Ends r)
    (h : os.map Step.token ++ r = o.token :: x) : ∃ os', os = o :: os' ∧ x = os'.map Step.token ++ r := by
  cases os with
  | nil =>
    rw [List.map_nil, List.nil_append] at h
    exact absurd (h ▸ hr) (o.not_ends _)
  | cons o' os' =>
    simp only [List.map_cons, List.cons_append, List.cons.injEq] at h
    exact ⟨os', by rw [Step.token_injective h.1], h.2.symm⟩

/-- Rounds that begin with an operator go on with an operand and rounds. -/
theorem Rounds.eq_round {rounds : Rounds t} {o : Operator t} (hr : (Symbol.chain t).Ends r)
    (h : rounds.yield ++ r = o.token :: x) :
    ∃ y more, rounds = .round o y more ∧ x = y.yield ++ (more.yield ++ r) := by
  cases rounds with
  | done =>
    rw [Rounds.yield, List.nil_append] at h
    exact absurd (h ▸ hr) (o.not_ends _)
  | round o' y more =>
    simp only [Rounds.yield, List.cons_append, List.append_assoc, List.cons.injEq] at h
    exact ⟨y, more, by rw [Operator.token_injective h.1], h.2.symm⟩

/-- Further arguments that begin with a comma go on with an argument and further ones. -/
theorem MoreArguments.eq_argument (more : MoreArguments) (hr : r.head? ≠ some .comma)
    (h : more.yield ++ r = .comma :: x) :
    ∃ y more', more = .argument y more' ∧ x = y.yield ++ (more'.yield ++ r) := by
  cases more with
  | done =>
    rw [MoreArguments.yield, List.nil_append] at h
    rw [h] at hr
    exact absurd rfl hr
  | argument y more' =>
    simp only [MoreArguments.yield, List.cons_append, List.append_assoc, List.cons.injEq,
      true_and] at h
    exact ⟨y, more', rfl, h.symm⟩

/-- Further arguments are all there are, if they end after both. -/
theorem MoreArguments.eq_of_ends : ∀ (more more' : MoreArguments) {r r' : List Token},
    (Symbol.chain .additive).Ends r → r.head? ≠ some .comma →
    (Symbol.chain .additive).Ends r' → r'.head? ≠ some .comma →
    more.yield ++ r = more'.yield ++ r' → more = more' ∧ r = r'
  | .done, .done, _, _, _, _, _, _, h => ⟨rfl, h⟩
  | .done, .argument y' more', r, r', _, hcomma, _, _, h => by
    obtain ⟨_, _, heq, -⟩ := MoreArguments.done.eq_argument hcomma h
    cases heq
  | .argument y more, .done, r, r', _, _, _, hcomma', h => by
    obtain ⟨_, _, heq, -⟩ := MoreArguments.done.eq_argument hcomma' h.symm
    cases heq
  | .argument y more, .argument y' more', r, r', hr, hcomma, hr', hcomma', h => by
    simp only [MoreArguments.yield, List.cons_append, List.append_assoc, List.cons.injEq,
      true_and] at h
    obtain ⟨rfl, hrest⟩ := y.eq_of_append y' (more.ends hr) (more'.ends hr') h
    obtain ⟨rfl, rfl⟩ := more.eq_of_ends more' hr hcomma hr' hcomma' hrest
    exact ⟨rfl, rfl⟩

/-- Arguments end where they end before the same token. -/
theorem Arguments.Ends.congr {args : Arguments} (h : args.Ends r) (hx : x.head? = r.head?) :
    args.Ends x := by
  cases args with
  | empty => exact hx.trans h
  | list y more => exact ⟨h.1.congr hx, hx ▸ h.2⟩

/-- Arguments are all there are, if they end after both. -/
theorem Arguments.eq_of_ends {args args' : Arguments} {r' : List Token} (hr : args.Ends r)
    (hr' : args'.Ends r') (h : args.yield ++ r = args'.yield ++ r') : args = args' ∧ r = r' := by
  have hempty : ∀ {y : Derivation (.chain .additive)} {more : MoreArguments} {r r' : List Token},
      r.head? = some .rightParen → r = (Arguments.list y more).yield ++ r' → False := by
    intro y more r r' hparen heq
    obtain ⟨rest, rfl⟩ := List.head?_eq_some_iff.1 hparen
    rw [Arguments.yield, List.append_assoc] at heq
    exact y.yield_append_ne rfl _ _ heq.symm
  cases args with
  | empty =>
    cases args' with
    | empty => exact ⟨rfl, h⟩
    | list y' more' => exact (hempty hr h).elim
  | list y more =>
    cases args' with
    | empty => exact (hempty hr' h.symm).elim
    | list y' more' =>
      simp only [Arguments.yield, List.append_assoc] at h
      obtain ⟨rfl, hrest⟩ := y.eq_of_append y' (more.ends hr.1) (more'.ends hr'.1) h
      obtain ⟨rfl, rfl⟩ := more.eq_of_ends more' hr.1 hr.2 hr'.1 hr'.2 hrest
      exact ⟨rfl, rfl⟩

end Formula
end FormulaGrid
