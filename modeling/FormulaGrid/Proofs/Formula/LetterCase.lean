/-
# Letter case

Only small letters have another letter in upper case, there are 26 of them, and what a character is
to the lexer (a blank, a digit, a letter) is not changed by that (`toUpper_congr`). A word is read
in upper case, and a number, an operator or a stray character has no small letters in it. So a text
has the same lexemes in upper case (`lexemesFrom_map_toUpper`), each at the same place, up to the
same end or fault.
-/

import FormulaGrid.Proofs.Formula.Lexing
import FormulaGrid.Formula.Parser

namespace FormulaGrid
namespace Formula

/-- The letters that have another letter in upper case, counted from zero. -/
def smallLetter (i : Nat) : Char := Char.ofNat ('a'.toNat + i)

variable {c : Char} {r cs ds : List Char}

/-- **A character is in upper case or one of 26 small letters.** -/
theorem toUpper_eq_or_smallLetter (c : Char) : c.toUpper = c ∨ ∃ i < 26, c = smallLetter i := by
  by_cases h : 'a'.val ≤ c.val ∧ c.val ≤ 'z'.val
  · have hlow : 97 ≤ c.toNat := UInt32.le_iff_toNat_le.1 h.1
    have hhigh : c.toNat ≤ 122 := UInt32.le_iff_toNat_le.1 h.2
    have hnumber : 'a'.toNat + (c.toNat - 97) = c.toNat := Nat.add_sub_cancel' hlow
    refine .inr ⟨c.toNat - 97, by omega, ?_⟩
    rw [smallLetter, hnumber, Char.ofNat_toNat]
  · exact .inl (dif_neg h)

/-- **What does not depend on the case of small letters** does not depend on that of characters. -/
theorem toUpper_congr {α : Type} {p : Char → α}
    (h : ∀ i < 26, p (smallLetter i).toUpper = p (smallLetter i)) (c : Char) :
    p c.toUpper = p c := by
  rcases toUpper_eq_or_smallLetter c with hc | ⟨i, hi, rfl⟩
  · rw [hc]
  · exact h i hi

theorem isBlank_toUpper (c : Char) : Text.isBlank c.toUpper = Text.isBlank c :=
  toUpper_congr (by decide) c

theorem isDigit_toUpper (c : Char) : c.toUpper.isDigit = c.isDigit := toUpper_congr (by decide) c

theorem isAlpha_toUpper (c : Char) : c.toUpper.isAlpha = c.isAlpha := toUpper_congr (by decide) c

theorem isAlphanum_toUpper (c : Char) : c.toUpper.isAlphanum = c.isAlphanum :=
  toUpper_congr (by decide) c

theorem toUpper_toUpper (c : Char) : c.toUpper.toUpper = c.toUpper := toUpper_congr (by decide) c

/-- Only letters have another letter in upper case. -/
theorem toUpper_eq_of_isAlpha_eq_false (h : c.isAlpha = false) : c.toUpper = c := by
  have hletters : ∀ i < 26, (smallLetter i).isAlpha = true := by decide
  rcases toUpper_eq_or_smallLetter c with hc | ⟨i, hi, rfl⟩
  · exact hc
  · simp [hletters i hi] at h

/-! ## Tokens -/

/-- What is taken from the front of a text is taken in upper case. -/
theorem takeWhile_map_toUpper {p : Char → Bool} (hp : ∀ c, p c.toUpper = p c) (r : List Char) :
    (r.map Char.toUpper).takeWhile p = (r.takeWhile p).map Char.toUpper := by
  rw [List.takeWhile_map, show p ∘ Char.toUpper = p from funext hp]

/-- And what is left after it is left in upper case. -/
theorem dropWhile_map_toUpper {p : Char → Bool} (hp : ∀ c, p c.toUpper = p c) (r : List Char) :
    (r.map Char.toUpper).dropWhile p = (r.dropWhile p).map Char.toUpper := by
  rw [List.dropWhile_map, show p ∘ Char.toUpper = p from funext hp]

/-- A digit is no letter. -/
theorem toUpper_of_isDigit (h : c.isDigit = true) : c.toUpper = c := by
  have hletters : ∀ i < 26, (smallLetter i).isDigit = false := by decide
  rcases toUpper_eq_or_smallLetter c with hc | ⟨i, hi, rfl⟩
  · exact hc
  · simp [hletters i hi] at h

/-- Digits are the same in upper case. -/
theorem map_toUpper_of_isDigit (h : ∀ c ∈ ds, c.isDigit = true) : ds.map Char.toUpper = ds :=
  (List.map_congr_left fun c hc => toUpper_of_isDigit (h c hc)).trans (List.map_id ds)

/-- What is taken as digits is digits. -/
theorem isDigit_of_mem_takeWhile (h : c ∈ r.takeWhile Char.isDigit) : c.isDigit = true :=
  List.all_eq_true.1 List.all_takeWhile c h

/-- The first character is a sign in upper case only if it is. -/
theorem toUpper_eq_iff {sign : Char} (h : sign.isAlpha = false) : c.toUpper = sign ↔ c = sign := by
  constructor
  · intro hc
    rw [← hc, isAlpha_toUpper] at h
    rw [← hc, toUpper_eq_of_isAlpha_eq_false h]
  · rintro rfl
    exact toUpper_eq_of_isAlpha_eq_false h

/-- A fraction is as long in upper case. -/
theorem fractionLength_map_toUpper (r : List Char) :
    fractionLength (r.map Char.toUpper) = fractionLength r := by
  fun_cases fractionLength r with
  | case1 r =>
    rw [List.map_cons, toUpper_eq_of_isAlpha_eq_false (by decide), fractionLength,
      takeWhile_map_toUpper isDigit_toUpper, List.length_map]
  | case2 r hdot =>
    cases r with
    | nil => rfl
    | cons c r =>
      rw [List.map_cons, fractionLength]
      intro r' heq
      have hc := (toUpper_eq_iff (by decide)).1 (List.cons.inj heq).1
      exact hdot r (by rw [hc])

/-- A fraction has no letters. -/
theorem map_toUpper_fraction (r : List Char) :
    (r.take (fractionLength r)).map Char.toUpper = r.take (fractionLength r) := by
  fun_cases fractionLength r with
  | case1 r =>
    have hdigits := map_toUpper_of_isDigit fun c (hc : c ∈ r.takeWhile Char.isDigit) =>
      isDigit_of_mem_takeWhile hc
    rw [take_dot, List.map_cons, hdigits, toUpper_eq_of_isAlpha_eq_false (by decide)]
  | case2 => rw [List.take_zero, List.map_nil]

/-- **A token is the same in upper case,** and as long. -/
theorem tokenAt_toUpper (c : Char) (r : List Char) :
    tokenAt c.toUpper (r.map Char.toUpper) = tokenAt c r := by
  rw [tokenAt, tokenAt, isDigit_toUpper, isAlpha_toUpper]
  cases hdigit : c.isDigit with
  | true =>
    have hmore : (r.takeWhile Char.isDigit).map Char.toUpper = r.takeWhile Char.isDigit :=
      map_toUpper_of_isDigit fun _ => isDigit_of_mem_takeWhile
    simp only [if_true, takeWhile_map_toUpper isDigit_toUpper,
      dropWhile_map_toUpper isDigit_toUpper, fractionLength_map_toUpper, ← List.map_take, hmore,
      map_toUpper_fraction, toUpper_of_isDigit hdigit]
  | false =>
    cases halpha : c.isAlpha with
    | true =>
      have hword : (c.toUpper :: (r.takeWhile Char.isAlphanum).map Char.toUpper).map Char.toUpper =
          (c :: r.takeWhile Char.isAlphanum).map Char.toUpper := by
        simp only [List.map_cons, List.map_map, toUpper_toUpper,
          show Char.toUpper ∘ Char.toUpper = Char.toUpper from funext toUpper_toUpper]
      simp only [Bool.false_eq_true, if_false, if_true, takeWhile_map_toUpper isAlphanum_toUpper,
        hword, List.length_map]
    | false =>
      have hhead : ∀ sign : Char, sign.isAlpha = false →
          ((r.map Char.toUpper).head? == some sign) = (r.head? == some sign) := by
        intro sign hsign
        cases r with
        | nil => rfl
        | cons d r =>
          rw [Bool.eq_iff_iff]
          simp [toUpper_eq_iff hsign]
      simp only [Bool.false_eq_true, if_false, toUpper_eq_of_isAlpha_eq_false halpha,
        hhead '+' (by decide), hhead '-' (by decide)]

/-- **A text has the same lexemes in upper case,** at the same places. -/
theorem lexemesFrom_map_toUpper (offset : Nat) (cs : List Char) :
    lexemesFrom offset (cs.map Char.toUpper) = lexemesFrom offset cs := by
  induction hn : cs.length using Nat.strongRecOn generalizing cs offset with
  | ind n ih =>
    obtain ⟨bs, rest, rfl, hbs, hrest⟩ := exists_blanks_append cs
    have hbs' : ∀ b ∈ bs.map Char.toUpper, Text.isBlank b = true := by
      simpa [isBlank_toUpper] using hbs
    rw [List.map_append, lexemesFrom_blanks hbs, lexemesFrom_blanks hbs', List.length_map]
    rcases lexemesFrom_cases (offset + bs.length) hrest with
      ⟨rfl, -⟩ | ⟨c, r, complaint, rfl, htoken, hfault⟩ |
      ⟨c, r, token, k, rfl, hc, htoken, hitems⟩
    · rfl
    · have hc : Text.isBlank c.toUpper = false := (isBlank_toUpper c).trans (hrest c rfl)
      rw [hfault, List.map_cons, lexemesFrom_fault hc ((tokenAt_toUpper c r).trans htoken)]
    · have hc' : Text.isBlank c.toUpper = false := (isBlank_toUpper c).trans hc
      have hlength : (r.drop k).length < n := by
        rw [← hn, List.length_append, List.length_cons, List.length_drop]
        omega
      rw [hitems, List.map_cons, lexemesFrom_token hc' ((tokenAt_toUpper c r).trans htoken),
        ← List.map_drop, ih _ hlength _ _ rfl]

/-- **Letter case is nothing to the parser,** neither to trees nor to faults. -/
theorem parse_congr_of_toUpper (h : cs.map Char.toUpper = ds.map Char.toUpper) :
    parse cs = parse ds := by
  have hlexemes : lexemes cs = lexemes ds := by
    rw [lexemes, lexemes, ← lexemesFrom_map_toUpper 0 cs, h, lexemesFrom_map_toUpper]
  rw [parse, parse, hlexemes]

end Formula
end FormulaGrid
