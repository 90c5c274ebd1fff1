/-
# Offences

A fault that a parser answers, other than for a limit, is an offence to the phrases that it reads
(`Offence`): from the place where it was started the text goes on with a word that begins a phrase,
and behind the word

| offence | there is |
| --- | --- |
| `unreadable` | no token, and the fault says why |
| `misplaced` | a token, or the end of the text, with which no phrase goes on |

A phrase goes on as far as it can, so whether one goes on is said together with the text after it:
`Ends d r` is whether the phrase `d` ends before the text `r`.

**An offence to a part of a phrase is one to the phrase** (`Offence.after`) if every phrase that
begins like the text goes on with such a part. The parsers that others are made of fail where their
parts do: at a token that is passed, or behind it (`offence_of_advance` and those after it).
-/

import FormulaGrid.Proofs.Formula.Acceptance
import FormulaGrid.Proofs.Formula.Lexing

namespace FormulaGrid
namespace Formula

/-- **A complaint about a limit**, not about the grammar. -/
def Complaint.IsLimit : Complaint → Prop
  | nestedTooDeeply => True
  | tooManyOperators => True
  | _ => False

namespace Progress

/-- **A word lies between two places** of a text. -/
structure Reaches (s : Progress) (w : List Token) (t : Progress) : Prop where
  items : ∃ front, s.items = front ++ t.items ∧ front.map Lexeme.token = w
  stop : t.stop = s.stop

variable {s t u : Progress} {v w : List Token} {tok : Token}

/-- Nothing lies between a place and itself. -/
theorem Reaches.refl (s : Progress) : s.Reaches [] s := ⟨⟨[], rfl, rfl⟩, rfl⟩

/-- What is passed lies between. -/
theorem Passes.reaches (h : s.Passes w t) : s.Reaches w t := ⟨h.items, h.stop⟩

/-- Two words in a row. -/
theorem Reaches.trans (h : s.Reaches v u) (h' : u.Reaches w t) : s.Reaches (v ++ w) t := by
  obtain ⟨front, hs, rfl⟩ := h.items
  obtain ⟨front', hu, rfl⟩ := h'.items
  exact ⟨⟨front ++ front', by rw [hs, hu, List.append_assoc], List.map_append⟩, h'.stop.trans h.stop⟩

/-- The tokens from the first place on are the word and those from the second place on. -/
theorem Reaches.tokens_eq (h : s.Reaches w t) : s.tokens = w ++ t.tokens := by
  obtain ⟨front, hs, rfl⟩ := h.items
  rw [tokens, hs, List.map_append, tokens]

/-- The current token lies before the rest. -/
theorem reaches_tail (hcur : s.current? = some tok) (hitems : t.items = s.items.tail)
    (hstop : t.stop = s.stop) : s.Reaches [tok] t := by
  obtain ⟨item, hitem, rfl⟩ := Option.map_eq_some_iff.1 hcur
  obtain ⟨rest, hrest⟩ := List.head?_eq_some_iff.1 hitem
  exact ⟨⟨[item], by rw [hitems, hrest]; rfl, rfl⟩, hstop⟩

end Progress

/-! ## Offences -/

section
variable {D : Type} (yield : D → List Token) (Ends : D → List Token → Prop)

/-- **A fault is an offence** to the phrases that a parser reads from a place on, or a limit. -/
inductive Offence (s : Progress) (f : Fault) : Prop
  | limit (hlimit : f.complaint.IsLimit) : Offence s f
  | unreadable {w : List Token} {t : Progress} (hreach : s.Reaches w t)
      (hviable : ∃ d, w <+: yield d) (hmet : t.metFault? = some f) : Offence s f
  | misplaced {w : List Token} {t : Progress} (hreach : s.Reaches w t)
      (hviable : ∃ d, w <+: yield d) (hunmet : t.metFault? = none) (hplace : f.position = t.position)
      (hblocked : ∀ d r x, Ends d r → x.head? = t.current? → yield d ++ r ≠ w ++ x) : Offence s f

end

/-- An offence to the derivations of a symbol. -/
abbrev Symbol.Offence (c : Symbol) : Progress → Fault → Prop :=
  Formula.Offence (D := Derivation c) Derivation.yield fun _ => c.Ends

namespace Offence

variable {D D' : Type} {yield : D → List Token} {Ends : D → List Token → Prop}
  {yield' : D' → List Token} {Ends' : D' → List Token → Prop}
  {s t u : Progress} {f : Fault} {v w : List Token}

/-- **An offence to a part of a phrase** is one to the phrase. -/
theorem after (h : Offence yield' Ends' u f) (hreach : s.Reaches v u)
    (hviable : ∀ d', ∃ d, v ++ yield' d' <+: yield d)
    (hrest : ∀ d r x, Ends d r → x.head? = u.current? → yield d ++ r = v ++ x →
      ∃ d' r', Ends' d' r' ∧ yield' d' ++ r' = x) : Offence yield Ends s f := by
  have hbegins : ∀ {w}, (∃ d', w <+: yield' d') → ∃ d, v ++ w <+: yield d := by
    rintro w ⟨d', hd'⟩
    obtain ⟨d, hd⟩ := hviable d'
    exact ⟨d, ((List.prefix_append_right_inj v).2 hd').trans hd⟩
  cases h with
  | limit hlimit => exact .limit hlimit
  | unreadable hreach' hviable' hmet =>
    exact .unreadable (hreach.trans hreach') (hbegins hviable') hmet
  | @misplaced w t hreach' hviable' hunmet hplace hblocked =>
    refine .misplaced (hreach.trans hreach') (hbegins hviable') hunmet hplace ?_
    intro d r x hends hx heq
    -- the part begins with the token that was current at its start, also if its word is empty
    rw [List.append_assoc] at heq
    have hhead : (w ++ x).head? = u.current? := by
      rw [u.current?_eq, hreach'.tokens_eq, List.head?_append, List.head?_append, hx, t.current?_eq]
    obtain ⟨d', r', hends', hx'⟩ := hrest d r (w ++ x) hends hhead heq
    exact hblocked d' r' x hends' hx hx'

/-- An offence to what a phrase begins with. -/
theorem within (h : Offence yield' Ends' s f) (hviable : ∀ d', ∃ d, yield' d' <+: yield d)
    (hrest : ∀ d r, Ends d r → (yield d ++ r).head? = s.current? →
      ∃ d' r', Ends' d' r' ∧ yield' d' ++ r' = yield d ++ r) : Offence yield Ends s f :=
  h.after (.refl s) hviable fun d r x hends hx heq => by
    rw [List.nil_append] at heq
    subst heq
    exact hrest d r hends hx

/-- The nesting does not matter to offences. -/
theorem of_deeper (h : Offence yield Ends s.deeper f) : Offence yield Ends s f := by
  cases h with
  | limit hlimit => exact .limit hlimit
  | unreadable hreach hviable hmet =>
    exact .unreadable ⟨hreach.items, hreach.stop⟩ hviable hmet
  | misplaced hreach hviable hunmet hplace hblocked =>
    exact .misplaced ⟨hreach.items, hreach.stop⟩ hviable hunmet hplace hblocked

end Offence

/-! ## Parsers that fail -/

namespace Parser

variable {α β : Type} {p : Parser α} {g : α → Parser β} {q : Parser β} {s t u : Progress}
  {f : Fault} {a : α} {tok : Token} {k : Nat}

/-- One parser after another fails if the first one does, or the second one after it. -/
theorem run_bind_eq_error_iff : (p >>= g).run s = (.error f, t) ↔
    p.run s = (.error f, t) ∨ ∃ a u, p.run s = (.ok a, u) ∧ (g a).run u = (.error f, t) := by
  simp only [bind]
  rcases p.run s with ⟨_ | a, u⟩
  · simp
  · constructor
    · intro h
      exact .inr ⟨a, u, rfl, h⟩
    · rintro (h | ⟨a', u', h, h'⟩)
      · cases h
      · cases h
        exact h'

/-- A value that is answered at once is no failure. -/
theorem run_pure_ne_error : (pure a : Parser α).run s ≠ (.error f, t) := nofun

/-- What cannot stand here is refused here. -/
theorem position_of_run_unexpected (h : (unexpected : Parser α).run s = (.error f, t)) :
    f.position = s.position := by
  rw [unexpected, run_current_bind] at h
  cases hcur : s.current? <;> rw [hcur] at h <;> cases h <;> rfl

variable {D : Type} {yield : D → List Token} {Ends : D → List Token → Prop} {v : List Token}

/-- **A failure at a token that is passed,** or after it. -/
theorem offence_of_advance (hreach : s.Reaches v u) (hcur : u.current? = some tok)
    (hviable : ∃ d, v ++ [tok] <+: yield d) (hrun : (do advance; q).run u = (.error f, t))
    (hq : ∀ w, w = { u with items := u.items.tail } → w.metFault? = none →
      q.run w = (.error f, t) → Offence yield Ends s f) : Offence yield Ends s f := by
  rcases run_bind_eq_error_iff.1 hrun with hadvance | ⟨_, w, hadvance, hrun⟩
  · simp only [advance, meet] at hadvance
    split at hadvance
    · next hmet =>
      cases hadvance
      exact .unreadable (t := { u with items := u.items.tail })
        (hreach.trans (Progress.reaches_tail hcur rfl rfl)) hviable hmet
    · cases hadvance
  · obtain ⟨hw, hmet⟩ := run_advance_eq_ok_iff.1 hadvance
    exact hq w hw hmet hrun

/-- A failure at a token that is not counted, or after it. -/
theorem offence_of_free (hs : u.At k) (hreach : s.Reaches v u) (hcur : u.current? = some tok)
    (htok : tok.isCounted = false) (hviable : ∃ d, v ++ [tok] <+: yield d)
    (hrun : (do advance; q).run u = (.error f, t))
    (hq : ∀ w, u.Passes [tok] w → q.run w = (.error f, t) → Offence yield Ends s f) :
    Offence yield Ends s f := by
  refine offence_of_advance hreach hcur hviable hrun fun w hw hmet hrun => hq w ?_ hrun
  subst hw
  rw [Progress.passes_singleton_iff hcur, htok]
  exact ⟨rfl, hs.room, hmet⟩

/-- A failure at a token that is counted, or after it. -/
theorem offence_of_counted (hreach : s.Reaches v u) (hcur : u.current? = some tok)
    (htok : tok.isCounted = true) (hviable : ∃ d, v ++ [tok] <+: yield d)
    (hrun : (do countOperator; advance; q).run u = (.error f, t))
    (hq : ∀ w, u.Passes [tok] w → q.run w = (.error f, t) → Offence yield Ends s f) :
    Offence yield Ends s f := by
  rcases run_bind_eq_error_iff.1 hrun with hcount | ⟨_, w, hcount, hrun⟩
  · simp only [countOperator] at hcount
    split at hcount
    · cases hcount
      exact .limit trivial
    · cases hcount
  · obtain ⟨rfl, hroom⟩ := run_countOperator_eq_ok_iff.1 hcount
    refine offence_of_advance (u := { u with operators := u.operators + 1 })
      ⟨hreach.items, hreach.stop⟩ hcur hviable hrun fun w hw hmet hrun => hq w ?_ hrun
    subst hw
    rw [Progress.passes_singleton_iff hcur, htok]
    exact ⟨rfl, hroom, hmet⟩

/-- A failure at a delimiter that has to come, or after it. -/
theorem offence_of_expect {wanted : Token} {isWanted : Token → Bool}
    (hwanted : ∀ tok, isWanted tok = true ↔ tok = wanted) (hfree : wanted.isCounted = false)
    (hs : u.At k) (hreach : s.Reaches v u) (hviable : ∃ d, v ++ [wanted] <+: yield d)
    (hblocked : ∀ d r x, Ends d r → x.head? ≠ some wanted → x.head? = u.current? →
      yield d ++ r ≠ v ++ x)
    (hrun : (do expect wanted isWanted; q).run u = (.error f, t))
    (hq : ∀ w, u.Passes [wanted] w → q.run w = (.error f, t) → Offence yield Ends s f) :
    Offence yield Ends s f := by
  by_cases hcur : u.current? = some wanted
  · have hadvance : (do expect wanted isWanted; q).run u = (do advance; q).run u := by
      simp only [expect, bind, current, hcur, Option.any_some, (hwanted wanted).2 rfl, if_true]
    rw [hadvance] at hrun
    exact offence_of_free hs hreach hcur hfree hviable hrun hq
  · have hnot : u.current?.any isWanted = false := by
      cases htok : u.current? with
      | none => rfl
      | some tok =>
        rw [htok, Option.some.injEq] at hcur
        exact Bool.eq_false_iff.2 (mt (hwanted tok).1 hcur)
    have hplace : f.position = u.position := by
      rcases run_bind_eq_error_iff.1 hrun with hexpect | ⟨_, w, hexpect, -⟩
      · rw [expect, run_current_bind, hnot] at hexpect
        cases hexpect
        rfl
      · rw [expect, run_current_bind, hnot] at hexpect
        cases hexpect
    obtain ⟨d, hd⟩ := hviable
    refine .misplaced hreach ⟨d, (List.prefix_append v _).trans hd⟩ hs.unmet hplace
      fun d r x hends hx => hblocked d r x hends ?_ hx
    rwa [hx]

/-- A failure at an opening parenthesis that has to come, or after it. -/
theorem offence_of_expectLeftParen (hs : u.At k) (hreach : s.Reaches v u)
    (hviable : ∃ d, v ++ [.leftParen] <+: yield d)
    (hblocked : ∀ d r x, Ends d r → x.head? ≠ some .leftParen → x.head? = u.current? →
      yield d ++ r ≠ v ++ x)
    (hrun : (do expectLeftParen; q).run u = (.error f, t))
    (hq : ∀ w, u.Passes [.leftParen] w → q.run w = (.error f, t) → Offence yield Ends s f) :
    Offence yield Ends s f :=
  offence_of_expect (fun tok => by cases tok <;> simp) rfl hs hreach hviable hblocked hrun hq

/-- A failure at a closing parenthesis that has to come, or after it. -/
theorem offence_of_expectRightParen (hs : u.At k) (hreach : s.Reaches v u)
    (hviable : ∃ d, v ++ [.rightParen] <+: yield d)
    (hblocked : ∀ d r x, Ends d r → x.head? ≠ some .rightParen → x.head? = u.current? →
      yield d ++ r ≠ v ++ x)
    (hrun : (do expectRightParen; q).run u = (.error f, t))
    (hq : ∀ w, u.Passes [.rightParen] w → q.run w = (.error f, t) → Offence yield Ends s f) :
    Offence yield Ends s f :=
  offence_of_expect (fun tok => by cases tok <;> simp) rfl hs hreach hviable hblocked hrun hq

/-- **A parser finds offences** at a nesting: whatever fault it answers is an offence to the phrases
that it reads. -/
def FindsAs (p : Parser α) (yield : D → List Token) (Ends : D → List Token → Prop) (k : Nat) : Prop :=
  ∀ s f t, s.At k → p.run s = (.error f, t) → Offence yield Ends s f

/-- One nesting deeper a parser finds what it finds there, or the limit. -/
theorem findsAs_nested (h : k < maxNesting → p.FindsAs yield Ends (k + 1)) :
    (nested p).FindsAs yield Ends k := by
  intro s f t hs hrun
  by_cases hk : k < maxNesting
  · rw [run_nested_of_lt (hs.nesting ▸ hk)] at hrun
    rcases hu : p.run s.deeper with ⟨answer, u⟩
    rw [hu] at hrun
    obtain ⟨rfl, -⟩ := Prod.mk.inj hrun
    exact (h hk s.deeper f u hs.deeper hu).of_deeper
  · simp only [nested, hs.nesting, if_pos (Nat.not_lt.1 hk)] at hrun
    cases hrun
    exact .limit trivial

end Parser

end Formula
end FormulaGrid
