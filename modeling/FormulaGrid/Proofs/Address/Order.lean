/-
# The order of column letters

Letters grow like the numbers that they stand for: a smaller number has fewer letters, or as many
and then it comes first in the alphabet (`shortlex_letters`). Digits without a zero do not get in
the way of that. The last letter is taken from the number before, so of two numbers the smaller one
has the smaller number of what stands in front, or the same and then the smaller last letter.

Together with what letters are worth this makes them another writing of the numbers from 1 to the
largest one of 64 bits, with the same order (`number?_name_and_name_lt`).
-/

import Mathlib.Data.List.Shortlex
import FormulaGrid.Proofs.Address.Letters

namespace FormulaGrid
namespace Column

variable {n m : Nat}

/-- Of words of one length, the one that comes first does so whatever stands behind them. -/
theorem lex_append_of_length_eq {r : Char → Char → Prop} {cs ds : List Char} (h : List.Lex r cs ds)
    (hlength : cs.length = ds.length) (us vs : List Char) : List.Lex r (cs ++ us) (ds ++ vs) := by
  induction h with
  | nil => cases hlength
  | cons _ ih => exact .cons (ih (Nat.succ.inj hlength))
  | rel hr => exact .rel hr

/-- **A smaller word stays smaller** with one more letter behind each. -/
theorem shortlex_concat {r : Char → Char → Prop} {cs ds : List Char} (h : List.Shortlex r cs ds)
    (c d : Char) : List.Shortlex r (cs ++ [c]) (ds ++ [d]) := by
  rcases List.shortlex_def.1 h with hlength | ⟨hlength, hlex⟩
  · refine .of_length_lt ?_
    simpa using hlength
  · refine .of_lex ?_ (lex_append_of_length_eq hlex hlength _ _)
    simpa using hlength

/-- Letters are in the order of their places. -/
theorem letter_lt {i j : Nat} (hij : i < j) (hj : j < 26) : letter i < letter j := by
  have hletters : ∀ j < 26, ∀ i < j, letter i < letter j := by decide
  exact hletters j hj i hij

/-- **A smaller number has the smaller letters:** fewer, or as many that come first in the
alphabet. -/
theorem shortlex_letters (h : n < m) : List.Shortlex (· < ·) (letters n) (letters m) := by
  induction m using Nat.strongRecOn generalizing n with
  | ind m ih =>
    have hm : m ≠ 0 := by omega
    rw [letters_of_pos hm]
    by_cases hn : n = 0
    · have hnone : letters n = [] := by rw [letters, if_pos hn]
      rw [hnone]
      exact .of_length_lt (by simp)
    rw [letters_of_pos hn]
    rcases Nat.lt_or_ge ((n - 1) / 26) ((m - 1) / 26) with hfront | hfront
    · have hless : (m - 1) / 26 < m := by omega
      exact shortlex_concat (ih _ hless hfront) _ _
    · -- the letters in front are the same, so the last ones decide
      have heq : (n - 1) / 26 = (m - 1) / 26 := by omega
      have hlast : (n - 1) % 26 < (m - 1) % 26 := by omega
      rw [heq]
      refine .append_left ?_ _
      rw [List.shortlex_singleton_iff]
      exact letter_lt hlast (Nat.mod_lt _ (by decide))

/-- **Column letters and numbers of 64 bits are one to one, in the same order.** A number from 1 on
is written with capitals, at least one, and read from them again. A text is read as a number exactly
if it is letters, at least one, and what they are worth is a number of 64 bits, and the letters of
that number are the text in capitals. A smaller number has the shorter name, or one of the same
length that comes first in the alphabet. -/
theorem number?_name_and_name_lt :
    (∀ n, 1 ≤ n → n ≤ 2 ^ 64 - 1 → name n ≠ "" ∧ (∀ c ∈ (name n).toList, c.isUpper = true) ∧
      number? (name n).toList = some n) ∧
    (∀ (s : String) (n : Nat), number? s.toList = some n ↔
      s ≠ "" ∧ (∀ c ∈ s.toList, c.isAlpha = true) ∧ value s.toList = n ∧ n ≤ 2 ^ 64 - 1) ∧
    (∀ (s : String) (n : Nat), number? s.toList = some n →
      name n = String.ofList (s.toList.map Char.toUpper)) ∧
    ∀ n m, n < m → (name n).length < (name m).length ∨
      (name n).length = (name m).length ∧ name n < name m := by
  have hlimit : ∀ n, n < numberLimit ↔ n ≤ 2 ^ 64 - 1 := fun n => Nat.lt_iff_le_pred (by decide)
  refine ⟨fun n hpos hle => ?_, fun s n => ?_, fun s n h => ?_, fun n m h => ?_⟩
  · have hne : letters n ≠ [] := letters_ne_nil (by omega)
    have hupper : ∀ c ∈ letters n, c.isUpper = true := isUpper_of_mem_letters
    refine ⟨by simpa [name] using hne, by simpa [name] using hupper, ?_⟩
    rw [name, String.toList_ofList, number?_eq_some_iff]
    refine ⟨hne, fun c hc => ?_, value_letters n, (hlimit n).2 hle⟩
    rw [isAlpha_eq, hupper c hc, Bool.true_or]
  · rw [number?_eq_some_iff, hlimit, ne_eq, String.toList_eq_nil_iff]
  · obtain ⟨-, halpha, rfl, -⟩ := number?_eq_some_iff.1 h
    rw [name, letters_value halpha]
  · have horder := List.shortlex_def.1 (shortlex_letters h)
    rw [String.lt_iff]
    simpa [name, String.length_ofList] using horder

/-- From `ZZ` on there is one letter more. -/
theorem number?_name_and_name_lt_carry :
    number? (name 702).toList = some 702 ∧ number? "zz".toList = some 702 ∧
    name 702 = String.ofList ("zz".toList.map Char.toUpper) ∧
    ((name 702).length < (name 703).length ∨
      (name 702).length = (name 703).length ∧ name 702 < name 703) := by
  obtain ⟨hwritten, hread, hname, horder⟩ := number?_name_and_name_lt
  have hzz : number? "zz".toList = some 702 :=
    (hread "zz" 702).2 ⟨by decide, List.all_eq_true.1 (by decide +kernel), by decide +kernel,
      by decide⟩
  exact ⟨(hwritten 702 (by decide) (by decide)).2.2, hzz, hname "zz" 702 hzz,
    horder 702 703 (by decide)⟩

/-- The letters of the largest number of 64 bits, and one more. -/
example : number? "gkgwbylwrxtlpo".toList = some (2 ^ 64 - 1) ∧
    number? "GKGWBYLWRXTLPP".toList = none := by decide +kernel

end Column
end FormulaGrid
