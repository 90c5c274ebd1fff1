/-
# What a parser passes

A parser that answers a value has passed the tokens of a word: the place it leaves is the one it
was given without these tokens, at the same nesting, with the operators and calls among them
counted (`Progress.Passes`). A word in two parts is passed by passing one after the other
(`passes_append_iff`), so that parsers may be put together and taken apart by their words.

For each part that parsers are made of there is a statement that says exactly when it answers a
value and what it has passed then.
-/

import FormulaGrid.Formula.Parser

namespace FormulaGrid
namespace Formula

/-- Whether a token is counted: it is an operator or the keyword of a call. -/
def Token.isCounted : Token → Bool
  | number _ => false
  | cell _ => false
  | leftParen => false
  | rightParen => false
  | comma => false
  | _ => true

namespace Progress

/-- The tokens from the current one on. -/
def tokens (s : Progress) : List Token := s.items.map Lexeme.token

/-- **A place at which the text is read on:** its nesting is known, there are not too many
operators and calls before it, and no fault has been met. -/
structure At (s : Progress) (k : Nat) : Prop where
  nesting : s.nesting = k
  room : s.operators ≤ maxOperators
  unmet : s.metFault? = none

/-- **A word is passed** between two places of a text. -/
structure Passes (s : Progress) (w : List Token) (t : Progress) : Prop where
  items : ∃ front, s.items = front ++ t.items ∧ front.map Lexeme.token = w
  stop : t.stop = s.stop
  nesting : t.nesting = s.nesting
  operators : t.operators = s.operators + w.countP Token.isCounted
  room : t.operators ≤ maxOperators
  unmet : t.metFault? = none

/-- The same place, one nesting deeper. -/
def deeper (s : Progress) : Progress := { s with nesting := s.nesting + 1 }

variable {s t u : Progress} {w w' : List Token} {tok : Token} {k : Nat}

/-- The current token is the first one. -/
theorem current?_eq (s : Progress) : s.current? = s.tokens.head? := by
  rw [current?, tokens, List.head?_map]

/-- No fault has been met where there is a token, and none is met at the end of a text that has
none. -/
theorem metFault?_eq_none_iff :
    s.metFault? = none ↔ (s.items = [] → ∃ n, s.stop = .ok n) := by
  obtain ⟨items, stop, nesting, operators⟩ := s
  cases items <;> cases stop <;> simp [metFault?]

/-- Deeper in the text it is read on at the greater nesting. -/
theorem At.deeper (hs : s.At k) : s.deeper.At (k + 1) :=
  ⟨congrArg Nat.succ hs.nesting, hs.room, hs.unmet⟩

/-- After a word the text is read on. -/
theorem Passes.at (h : s.Passes w t) (hs : s.At k) : t.At k :=
  ⟨h.nesting.trans hs.nesting, h.room, h.unmet⟩

/-- The tokens before a word are the word and those after it. -/
theorem Passes.tokens_eq (h : s.Passes w t) : s.tokens = w ++ t.tokens := by
  obtain ⟨front, hs, rfl⟩ := h.items
  rw [tokens, hs, List.map_append, tokens]

/-- The first token of a word is the current one. -/
theorem Passes.current?_eq (h : s.Passes (tok :: w) t) : s.current? = some tok := by
  rw [Progress.current?_eq, h.tokens_eq]
  rfl

/-- A word that is not empty leaves fewer lexemes. -/
theorem Passes.length_lt (h : s.Passes (tok :: w) t) : t.items.length < s.items.length := by
  obtain ⟨front, hs, hw⟩ := h.items
  obtain ⟨item, front, rfl, -, -⟩ := List.map_eq_cons_iff.1 hw
  rw [hs, List.length_append, List.length_cons]
  omega

/-- **To pass nothing** is to stay. -/
theorem passes_nil_iff (hs : s.At k) : s.Passes [] t ↔ t = s := by
  constructor
  · intro h
    obtain ⟨front, hitems, hw⟩ := h.items
    obtain rfl := List.map_eq_nil_iff.1 hw
    have hstop := h.stop
    have hnesting := h.nesting
    have hoperators := h.operators
    cases s
    cases t
    simp_all
  · rintro rfl
    exact ⟨⟨[], rfl, rfl⟩, rfl, rfl, rfl, hs.room, hs.unmet⟩

/-- **To pass two words** is to pass one after the other. -/
theorem passes_append_iff : s.Passes (w ++ w') t ↔ ∃ u, s.Passes w u ∧ u.Passes w' t := by
  constructor
  · intro h
    obtain ⟨front, hs, hw⟩ := h.items
    obtain ⟨front₁, front₂, rfl, rfl, rfl⟩ := List.map_eq_append_iff.1 hw
    have hoperators := h.operators
    have hroom := h.room
    rw [List.countP_append, ← Nat.add_assoc] at hoperators
    refine ⟨⟨front₂ ++ t.items, s.stop, s.nesting,
      s.operators + (front₁.map Lexeme.token).countP Token.isCounted⟩, ?_, ?_⟩
    · refine ⟨⟨front₁, by rw [hs, List.append_assoc], rfl⟩, rfl, rfl, rfl, ?_, ?_⟩
      · dsimp only
        omega
      · -- a fault would be met after the second word as well
        rw [metFault?_eq_none_iff]
        intro hnil
        have ht := metFault?_eq_none_iff.1 h.unmet (List.append_eq_nil_iff.1 hnil).2
        rwa [h.stop] at ht
    · exact ⟨⟨front₂, rfl, rfl⟩, h.stop, h.nesting, hoperators, hroom, h.unmet⟩
  · rintro ⟨u, h, h'⟩
    obtain ⟨front, hs, rfl⟩ := h.items
    obtain ⟨front', hu, rfl⟩ := h'.items
    refine ⟨⟨front ++ front', by rw [hs, hu, List.append_assoc], List.map_append⟩,
      h'.stop.trans h.stop, h'.nesting.trans h.nesting, ?_, h'.room, h'.unmet⟩
    rw [h'.operators, h.operators, List.countP_append, Nat.add_assoc]

/-- A word is passed by its first token and the others. -/
theorem passes_cons_iff : s.Passes (tok :: w) t ↔ ∃ u, s.Passes [tok] u ∧ u.Passes w t :=
  passes_append_iff (w := [tok])

/-- **The whole text is passed** if it has no fault and not too much to count. -/
theorem exists_passes_iff :
    (∃ t, s.Passes w t ∧ t.tokens = []) ↔ (∃ n, s.stop = .ok n) ∧ s.tokens = w ∧
      s.operators + w.countP Token.isCounted ≤ maxOperators := by
  constructor
  · rintro ⟨t, h, hnil⟩
    have hend := metFault?_eq_none_iff.1 h.unmet (List.map_eq_nil_iff.1 hnil)
    have htokens := h.tokens_eq
    rw [hnil, List.append_nil] at htokens
    exact ⟨h.stop ▸ hend, htokens, h.operators ▸ h.room⟩
  · rintro ⟨hend, rfl, hroom⟩
    refine ⟨⟨[], s.stop, s.nesting, s.operators + s.tokens.countP Token.isCounted⟩, ?_, rfl⟩
    exact ⟨⟨s.items, (List.append_nil _).symm, rfl⟩, rfl, rfl, rfl, hroom,
      metFault?_eq_none_iff.2 fun _ => hend⟩

/-- The nesting does not matter to what is passed. -/
theorem passes_deeper_iff : s.deeper.Passes w t.deeper ↔ s.Passes w t := by
  constructor
  · intro h
    exact ⟨h.items, h.stop, Nat.succ.inj h.nesting, h.operators, h.room, h.unmet⟩
  · intro h
    exact ⟨h.items, h.stop, congrArg Nat.succ h.nesting, h.operators, h.room, h.unmet⟩

/-- One token is passed by leaving its lexeme behind, and counted if it is to be. -/
theorem passes_singleton_iff (hcur : s.current? = some tok) : s.Passes [tok] t ↔
    t = ⟨s.items.tail, s.stop, s.nesting, s.operators + if tok.isCounted then 1 else 0⟩ ∧
      t.operators ≤ maxOperators ∧ t.metFault? = none := by
  obtain ⟨item, hitem, rfl⟩ := Option.map_eq_some_iff.1 hcur
  obtain ⟨rest, hrest⟩ := List.head?_eq_some_iff.1 hitem
  constructor
  · intro h
    obtain ⟨front, hs, hw⟩ := h.items
    obtain ⟨item', rfl, -⟩ := List.map_eq_singleton_iff.1 hw
    have hstop := h.stop
    have hnesting := h.nesting
    have hoperators := h.operators
    rw [List.countP_singleton] at hoperators
    refine ⟨?_, h.room, h.unmet⟩
    cases t
    simp_all
  · rintro ⟨rfl, hroom, hmet⟩
    refine ⟨⟨[item], by rw [hrest]; rfl, rfl⟩, rfl, rfl, ?_, hroom, hmet⟩
    rw [List.countP_singleton]

end Progress

namespace Parser

variable {α β : Type} {p : Parser α} {f : α → Parser β} {q : Parser β} {s t : Progress}
  {a a' : α} {b : β} {tok : Token} {k : Nat}

/-- A value is answered at once. -/
theorem run_pure_eq_ok_iff : (pure a : Parser α).run s = (.ok a', t) ↔ a' = a ∧ t = s := by
  simp [pure, eq_comm]

/-- One parser after another answers a value if both do. -/
theorem run_bind_eq_ok_iff : (p >>= f).run s = (.ok b, t) ↔
    ∃ a u, p.run s = (.ok a, u) ∧ (f a).run u = (.ok b, t) := by
  simp only [bind]
  rcases p.run s with ⟨_ | a, u⟩
  · simp
  · constructor
    · intro h
      exact ⟨a, u, rfl, h⟩
    · rintro ⟨a', u', h, h'⟩
      cases h
      exact h'

/-- To look at the current token changes nothing. -/
theorem run_current_bind (f : Option Token → Parser β) :
    (current >>= f).run s = (f s.current?).run s := rfl

/-- What cannot stand here has no value. -/
theorem run_unexpected_ne : (unexpected : Parser α).run s ≠ (.ok a, t) := by
  rw [unexpected, run_current_bind]
  cases s.current? <;> exact nofun

/-- A fault is met where one is. -/
theorem run_meet_eq_ok_iff {x : Unit} : meet.run s = (.ok x, t) ↔ t = s ∧ s.metFault? = none := by
  simp only [meet]
  split
  · next heq => simp [heq]
  · next heq => simp [heq, eq_comm]

/-- Passing a lexeme fails only at the fault that follows it. -/
theorem run_advance_eq_ok_iff {x : Unit} : advance.run s = (.ok x, t) ↔
    t = { s with items := s.items.tail } ∧ t.metFault? = none := by
  rw [advance, run_meet_eq_ok_iff]
  constructor
  · rintro ⟨rfl, hmet⟩
    exact ⟨rfl, hmet⟩
  · rintro ⟨rfl, hmet⟩
    exact ⟨rfl, hmet⟩

/-- Counting fails only if there is one too many. -/
theorem run_countOperator_eq_ok_iff {x : Unit} : countOperator.run s = (.ok x, t) ↔
    t = { s with operators := s.operators + 1 } ∧ s.operators < maxOperators := by
  simp only [countOperator]
  by_cases h : s.operators < maxOperators
  · simp [Nat.not_lt.2 (Nat.succ_le_of_lt h), h, eq_comm]
  · simp [Nat.lt_succ_of_le (Nat.not_lt.1 h), h]

/-- A token that is not counted is passed and the next parser run. -/
theorem run_advance_bind_iff (hs : s.At k) (hcur : s.current? = some tok)
    (htok : tok.isCounted = false) :
    (do advance; q).run s = (.ok b, t) ↔ ∃ u, s.Passes [tok] u ∧ q.run u = (.ok b, t) := by
  simp only [run_bind_eq_ok_iff, run_advance_eq_ok_iff, Progress.passes_singleton_iff hcur, htok]
  constructor
  · rintro ⟨_, u, ⟨rfl, hmet⟩, hq⟩
    exact ⟨_, ⟨rfl, hs.room, hmet⟩, hq⟩
  · rintro ⟨u, ⟨rfl, -, hmet⟩, hq⟩
    exact ⟨(), _, ⟨rfl, hmet⟩, hq⟩

/-- A token that is counted is passed and the next parser run. -/
theorem run_counted_bind_iff (hcur : s.current? = some tok) (htok : tok.isCounted = true) :
    (do countOperator; advance; q).run s = (.ok b, t) ↔
      ∃ u, s.Passes [tok] u ∧ q.run u = (.ok b, t) := by
  simp only [run_bind_eq_ok_iff, run_advance_eq_ok_iff, run_countOperator_eq_ok_iff,
    Progress.passes_singleton_iff hcur, htok]
  constructor
  · rintro ⟨_, _, ⟨rfl, hroom⟩, _, u, ⟨rfl, hmet⟩, hq⟩
    exact ⟨_, ⟨rfl, hroom, hmet⟩, hq⟩
  · rintro ⟨u, ⟨rfl, hroom, hmet⟩, hq⟩
    exact ⟨(), _, ⟨rfl, hroom⟩, (), _, ⟨rfl, hmet⟩, hq⟩

/-- A delimiter that is wanted is passed and the next parser run. -/
theorem run_expect_bind_iff {wanted : Token} {isWanted : Token → Bool} (hs : s.At k)
    (hwanted : ∀ tok, isWanted tok = true ↔ tok = wanted) (hfree : wanted.isCounted = false) :
    (do expect wanted isWanted; q).run s = (.ok b, t) ↔
      ∃ u, s.Passes [wanted] u ∧ q.run u = (.ok b, t) := by
  by_cases hcur : s.current? = some wanted
  · have hadvance : (do expect wanted isWanted; q).run s = (do advance; q).run s := by
      simp only [expect, bind, current, hcur, Option.any_some, (hwanted wanted).2 rfl, if_true]
    rw [hadvance, run_advance_bind_iff hs hcur hfree]
  · have hnot : s.current?.any isWanted = false := by
      cases htok : s.current? with
      | none => rfl
      | some tok =>
        rw [htok, Option.some.injEq] at hcur
        exact Bool.eq_false_iff.2 (mt (hwanted tok).1 hcur)
    constructor
    · intro h
      obtain ⟨_, u, h, -⟩ := run_bind_eq_ok_iff.1 h
      rw [expect, run_current_bind, hnot] at h
      cases h
    · rintro ⟨u, hu, -⟩
      exact absurd hu.current?_eq hcur

/-- A closing parenthesis is passed and the next parser run. -/
theorem run_expectRightParen_bind_iff (hs : s.At k) :
    (do expectRightParen; q).run s = (.ok b, t) ↔
      ∃ u, s.Passes [.rightParen] u ∧ q.run u = (.ok b, t) :=
  run_expect_bind_iff hs (fun tok => by cases tok <;> simp) rfl

/-- An opening parenthesis is passed and the next parser run. -/
theorem run_expectLeftParen_bind_iff (hs : s.At k) :
    (do expectLeftParen; q).run s = (.ok b, t) ↔
      ∃ u, s.Passes [.leftParen] u ∧ q.run u = (.ok b, t) :=
  run_expect_bind_iff hs (fun tok => by cases tok <;> simp) rfl

/-- One nesting deeper a parser is run from the same lexemes, if that is not too deep. -/
theorem run_nested_of_lt (h : s.nesting < maxNesting) : (nested p).run s =
    ((p.run s.deeper).1, { (p.run s.deeper).2 with nesting := (p.run s.deeper).2.nesting - 1 }) := by
  simp only [nested, if_neg (Nat.not_le.2 h)]
  rfl

/-- **One nesting deeper** a parser that keeps the nesting answers what it answers there, if that
is not too deep. -/
theorem run_nested_eq_ok_iff
    (keeps : ∀ u, p.run s.deeper = (.ok a, u) → u.nesting = s.nesting + 1) :
    (nested p).run s = (.ok a, t) ↔
      s.nesting < maxNesting ∧ t.nesting = s.nesting ∧ p.run s.deeper = (.ok a, t.deeper) := by
  by_cases h : s.nesting < maxNesting
  · rw [run_nested_of_lt h]
    rcases hu : p.run s.deeper with ⟨answer, u⟩
    constructor
    · intro hp
      obtain ⟨rfl, rfl⟩ := Prod.mk.inj hp
      obtain ⟨items, stop, nesting, operators⟩ := u
      obtain rfl : nesting = s.nesting + 1 := keeps _ hu
      exact ⟨h, rfl, rfl⟩
    · rintro ⟨-, -, hp⟩
      cases hp
      rfl
  · simp only [nested, if_pos (Nat.not_lt.1 h)]
    simp [h]

/-- **A repetition** whose rounds pass the token that continues it ends where there is none, or
passes one and goes on after the rest of the round. -/
theorem repeatFrom_eq_ok_iff {continues : Token → Option β} {before : Parser Unit}
    {kept : ∀ s, (before.run s).2.items = s.items} {step : α → β → Parser α}
    (passes : ∀ {tok b x v}, s.current? = some tok → continues tok = some b →
      ((round before (step a b)).run s = (.ok x, v) ↔
        ∃ u, s.Passes [tok] u ∧ (step a b).run u = (.ok x, v))) :
    repeatFrom continues before kept step a s = (.ok a', t) ↔
      (s.current?.bind continues = none ∧ a' = a ∧ t = s) ∨
      ∃ tok b u x v, continues tok = some b ∧ s.Passes [tok] u ∧
        (step a b).run u = (.ok x, v) ∧
        repeatFrom continues before kept step x v = (.ok a', t) := by
  have hround : ∀ {b x v}, s.current?.bind continues = some b →
      ((round before (step a b)).run s = (.ok x, v) ↔ ∃ tok u, continues tok = some b ∧
        s.Passes [tok] u ∧ (step a b).run u = (.ok x, v)) := by
    intro b x v hc
    obtain ⟨tok, hcur, hb⟩ := Option.bind_eq_some_iff.1 hc
    rw [passes hcur hb]
    constructor
    · rintro ⟨u, hu, hstep⟩
      exact ⟨tok, u, hb, hu, hstep⟩
    · rintro ⟨tok', u, -, hu, hstep⟩
      obtain rfl : tok = tok' := Option.some.inj (hcur.symm.trans hu.current?_eq)
      exact ⟨u, hu, hstep⟩
  have hcontinues : ∀ {tok b u}, continues tok = some b → s.Passes [tok] u →
      s.current?.bind continues = some b := by
    intro tok b u hb hu
    rw [hu.current?_eq, Option.bind_some, hb]
  rw [repeatFrom]
  split
  · next hc =>
    constructor
    · intro h
      cases h
      exact .inl ⟨hc, rfl, rfl⟩
    · rintro (⟨-, rfl, rfl⟩ | ⟨tok, b, u, x, v, hb, hu, -, -⟩)
      · rfl
      · rw [hcontinues hb hu] at hc
        cases hc
  · next b hc =>
    constructor
    · intro h
      split at h
      · cases h
      · next x v hr =>
        obtain ⟨tok, u, hb, hu, hstep⟩ := (hround hc).1 hr
        exact .inr ⟨tok, b, u, x, v, hb, hu, hstep, h⟩
    · rintro (⟨hnone, -⟩ | ⟨tok, b', u, x, v, hb, hu, hstep, hrest⟩)
      · rw [hc] at hnone
        cases hnone
      · obtain rfl : b = b' := Option.some.inj (hc.symm.trans (hcontinues hb hu))
        have hr := (hround hc).2 ⟨tok, u, hb, hu, hstep⟩
        split
        · next hr' =>
          rw [hr] at hr'
          cases hr'
        · next hr' =>
          rw [hr] at hr'
          cases hr'
          exact hrest

/-- A repetition of counted operators. -/
theorem run_operatorRounds_iff {continues : Token → Option β} {step : α → β → Parser α}
    (counted : ∀ tok b, continues tok = some b → tok.isCounted = true) :
    (operatorRounds continues step a).run s = (.ok a', t) ↔
      (s.current?.bind continues = none ∧ a' = a ∧ t = s) ∨
      ∃ tok b u x v, continues tok = some b ∧ s.Passes [tok] u ∧
        (step a b).run u = (.ok x, v) ∧ (operatorRounds continues step x).run v = (.ok a', t) :=
  repeatFrom_eq_ok_iff fun hcur hb => run_counted_bind_iff hcur (counted _ _ hb)

/-- A repetition of tokens that are not counted. -/
theorem run_plainRounds_iff {continues : Token → Option β} {step : α → β → Parser α}
    (hs : s.At k) (free : ∀ tok b, continues tok = some b → tok.isCounted = false) :
    (plainRounds continues step a).run s = (.ok a', t) ↔
      (s.current?.bind continues = none ∧ a' = a ∧ t = s) ∨
      ∃ tok b u x v, continues tok = some b ∧ s.Passes [tok] u ∧
        (step a b).run u = (.ok x, v) ∧ (plainRounds continues step x).run v = (.ok a', t) :=
  repeatFrom_eq_ok_iff fun hcur hb => run_advance_bind_iff hs hcur (free _ _ hb)

end Parser
end Formula
end FormulaGrid
