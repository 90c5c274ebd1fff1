/-
# Column letters as numbers

The digits of a positional system are written most significant first: `positional base digit cs` is
what characters are worth if `digit` says what each of them is. Column letters are such a system of
base 26 with digits from 1 to 26, and no number is written twice in it:

| | |
| --- | --- |
| `number?_eq_some_iff` | letters stand for what they are worth, if that is below the limit |
| `value_letters` | the letters of a number are worth that number |
| `letters_value` | letters are those of the number that they are worth, in upper case |

The limit is asked for after every letter. Nothing is lost by that, since letters are worth no less
than those in front of them.
-/

import FormulaGrid.Address
import FormulaGrid.Proofs.Formula.LetterCase
import Mathlib.Data.List.Induction
import Mathlib.Data.Nat.Digits.Defs

namespace FormulaGrid

/-- **What characters are worth** as the digits of a positional system. -/
def positional (base : Nat) (digit : Char → Nat) (cs : List Char) : Nat :=
  Nat.ofDigits base (cs.reverse.map digit)

/-- One more digit shifts those in front of it. -/
theorem positional_concat (base : Nat) (digit : Char → Nat) (cs : List Char) (c : Char) :
    positional base digit (cs ++ [c]) = positional base digit cs * base + digit c := by
  simp only [positional, List.reverse_concat, List.map_cons, Nat.ofDigits_cons]
  rw [Nat.add_comm, Nat.mul_comm]

namespace Column

open Formula (isAlpha_toUpper smallLetter toUpper_congr)

/-- The place of a letter in the alphabet, counted from one. -/
def place (c : Char) : Nat := c.toUpper.toNat - 'A'.toNat + 1

/-- **What letters are worth** in base 26. -/
def value (cs : List Char) : Nat := positional 26 place cs

variable {c : Char} {cs : List Char} {n m d : Nat}

/-! ## Letters -/

/-- A letter is a capital or a small one. -/
theorem isAlpha_eq (c : Char) : c.isAlpha = (c.isUpper || c.isLower) := rfl

/-- The numbers of letters, capitals and small ones. -/
theorem isAlpha_iff_toNat : c.isAlpha = true ↔
    (65 ≤ c.toNat ∧ c.toNat ≤ 90) ∨ (97 ≤ c.toNat ∧ c.toNat ≤ 122) := by
  have hupper : c.isUpper = decide (65 ≤ c.val ∧ c.val ≤ 90) := rfl
  have hlower : c.isLower = (decide (97 ≤ c.val) && decide (c.val ≤ 122)) := rfl
  simp [isAlpha_eq, hupper, hlower, UInt32.le_iff_toNat_le, ← Char.toNat_val]

/-- **A letter is one of 26,** in either case. -/
theorem isAlpha_iff : c.isAlpha = true ↔ ∃ i < 26, c.toUpper = letter i := by
  constructor
  · intro h
    rcases isAlpha_iff_toNat.1 h with ⟨hlow, hhigh⟩ | ⟨hlow, hhigh⟩
    · have hcapitals : ∀ i < 26, (letter i).toUpper = letter i := by decide
      obtain ⟨i, hi, rfl⟩ : ∃ i < 26, c = letter i := by
        refine ⟨c.toNat - 65, by omega, ?_⟩
        have hnumber : 'A'.toNat + (c.toNat - 65) = c.toNat := Nat.add_sub_cancel' hlow
        rw [letter, hnumber, Char.ofNat_toNat]
      exact ⟨i, hi, hcapitals i hi⟩
    · have hletters : ∀ i < 26, (smallLetter i).toUpper = letter i := by decide
      obtain ⟨i, hi, rfl⟩ : ∃ i < 26, c = smallLetter i := by
        refine ⟨c.toNat - 97, by omega, ?_⟩
        have hnumber : 'a'.toNat + (c.toNat - 97) = c.toNat := Nat.add_sub_cancel' hlow
        rw [smallLetter, hnumber, Char.ofNat_toNat]
      exact ⟨i, hi, hletters i hi⟩
  · rintro ⟨i, hi, hc⟩
    have hletters : ∀ i < 26, (letter i).isAlpha = true := by decide
    rw [← isAlpha_toUpper, hc, hletters i hi]

/-- The place of a letter. -/
theorem place_of_toUpper {i : Nat} (hi : i < 26) (hc : c.toUpper = letter i) : place c = i + 1 := by
  have hletters : ∀ i < 26, (letter i).toNat - 'A'.toNat = i := by decide
  rw [place, hc, hletters i hi]

/-- A letter is that of its place, in upper case. -/
theorem letter_place (h : c.isAlpha = true) : letter (place c - 1) = c.toUpper := by
  obtain ⟨i, hi, hc⟩ := isAlpha_iff.1 h
  rw [place_of_toUpper hi hc, hc, Nat.add_sub_cancel]

/-- Places are the numbers from 1 to 26. -/
theorem place_bounds (h : c.isAlpha = true) : 1 ≤ place c ∧ place c ≤ 26 := by
  obtain ⟨i, hi, hc⟩ := isAlpha_iff.1 h
  rw [place_of_toUpper hi hc]
  omega

/-- **Letters are the digits, by their places.** -/
theorem digit?_eq_some_iff : digit? c = some d ↔ c.isAlpha = true ∧ place c = d := by
  cases h : c.isAlpha with
  | true =>
    obtain ⟨i, hi, hc⟩ := isAlpha_iff.1 h
    have hletters : ∀ i < 26, digit? (letter i) = some (i + 1) := by decide
    have hcase : digit? c.toUpper = digit? c := toUpper_congr (by decide) c
    rw [← hcase, hc, hletters i hi, place_of_toUpper hi hc]
    simp
  | false =>
    have hc : c.isUpper = false ∧ c.isLower = false := by simpa [isAlpha_eq] using h
    simp [digit?, hc.1, hc.2]

/-! ## Numbers -/

/-- One more letter after letters. -/
theorem value_concat (cs : List Char) (c : Char) : value (cs ++ [c]) = value cs * 26 + place c :=
  positional_concat 26 place cs c

/-- One more letter is taken as long as the number stays below the limit. -/
theorem appendDigit?_eq_some_iff : appendDigit? n c = some m ↔
    c.isAlpha = true ∧ n * 26 + place c = m ∧ m < numberLimit := by
  simp only [appendDigit?, Option.bind_eq_bind, Option.bind_eq_some_iff, digit?_eq_some_iff,
    Option.ite_none_right_eq_some, Option.some.injEq]
  constructor
  · rintro ⟨d, ⟨hc, rfl⟩, hlimit, rfl⟩
    exact ⟨hc, rfl, hlimit⟩
  · rintro ⟨hc, rfl, hlimit⟩
    exact ⟨_, ⟨hc, rfl⟩, hlimit, rfl⟩

/-- Letters are taken one after the other as long as all of them are worth less than the limit. -/
theorem foldlM_appendDigit?_eq_some_iff : cs.foldlM appendDigit? 0 = some n ↔
    (∀ c ∈ cs, c.isAlpha = true) ∧ value cs = n ∧ n < numberLimit := by
  induction cs using List.reverseRecOn generalizing n with
  | nil =>
    have hpos : 0 < numberLimit := by decide
    constructor
    · intro h
      cases h
      exact ⟨by simp, rfl, hpos⟩
    · rintro ⟨-, rfl, -⟩
      rfl
  | append_singleton cs c ih =>
    simp only [List.foldlM_append, List.foldlM_cons, List.foldlM_nil, bind_pure,
      Option.bind_eq_bind, Option.bind_eq_some_iff, ih, appendDigit?_eq_some_iff, value_concat,
      List.forall_mem_append, List.forall_mem_singleton]
    constructor
    · rintro ⟨m, ⟨hcs, rfl, -⟩, hc, hn, hlimit⟩
      exact ⟨⟨hcs, hc⟩, hn, hlimit⟩
    · rintro ⟨⟨hcs, hc⟩, hn, hlimit⟩
      exact ⟨value cs, ⟨hcs, rfl, by omega⟩, hc, hn, hlimit⟩

/-- **Letters stand for what they are worth,** if there are any and that is below the limit. -/
theorem number?_eq_some_iff : number? cs = some n ↔
    cs ≠ [] ∧ (∀ c ∈ cs, c.isAlpha = true) ∧ value cs = n ∧ n < numberLimit := by
  rw [number?, ← foldlM_appendDigit?_eq_some_iff]
  cases cs <;> simp

/-- The letters of a number end with its last one. -/
theorem letters_of_pos (h : n ≠ 0) :
    letters n = letters ((n - 1) / 26) ++ [letter ((n - 1) % 26)] := by
  rw [letters, if_neg h]

/-- The letters of a number are capitals. -/
theorem isUpper_of_mem_letters : ∀ c ∈ letters n, c.isUpper = true := by
  have hletters : ∀ i < 26, (letter i).isUpper = true := by decide
  fun_induction letters n with
  | case1 => simp
  | case2 n hn ih =>
    simp only [List.forall_mem_append, List.forall_mem_singleton]
    exact ⟨ih, hletters _ (Nat.mod_lt _ (by decide))⟩

/-- **The letters of a number are worth that number.** -/
theorem value_letters (n : Nat) : value (letters n) = n := by
  have hletters : ∀ i < 26, place (letter i) = i + 1 := by decide
  fun_induction letters n with
  | case1 => rfl
  | case2 n hn ih =>
    have hlast : (n - 1) % 26 < 26 := Nat.mod_lt _ (by decide)
    rw [value_concat, ih, hletters _ hlast]
    omega

/-- **Letters are those of the number that they are worth,** in upper case. -/
theorem letters_value (h : ∀ c ∈ cs, c.isAlpha = true) :
    letters (value cs) = cs.map Char.toUpper := by
  induction cs using List.reverseRecOn with
  | nil =>
    have hzero : value [] = 0 := rfl
    rw [letters, if_pos hzero, List.map_nil]
  | append_singleton cs c ih =>
    simp only [List.forall_mem_append, List.forall_mem_singleton] at h
    obtain ⟨hcs, hc⟩ := h
    obtain ⟨hlow, hhigh⟩ := place_bounds hc
    have hfront : (value (cs ++ [c]) - 1) / 26 = value cs := by
      rw [value_concat]
      omega
    have hlast : (value (cs ++ [c]) - 1) % 26 = place c - 1 := by
      rw [value_concat]
      omega
    have hpos : value (cs ++ [c]) ≠ 0 := by
      rw [value_concat]
      omega
    rw [letters_of_pos hpos, hfront, hlast, ih hcs, letter_place hc, List.map_append]
    rfl

/-- A number that is not zero has letters. -/
theorem letters_ne_nil (h : n ≠ 0) : letters n ≠ [] := by
  rw [letters_of_pos h]
  simp

end Column
end FormulaGrid
