/-
# What trimming takes off

Trimming takes blanks off the ends of a text and nothing else (`exists_trimEnd_append`), so it stops
at a character that is no blank (`trimEnd_append_cons`). If spaces are the only blanks of a text, it
is known again from what trimming its end leaves and from its length (`Spaced.trimEnd_append`).
-/

import Mathlib.Data.List.TakeWhile
import FormulaGrid.Proofs.Address.Name
import FormulaGrid.Proofs.Cell.Content

namespace FormulaGrid
namespace Text

variable {cs ds bs : List Char} {c : Char}

/-- A visible character of the ASCII range is no blank. -/
theorem isBlank_of_toNat (h : 0x21 ≤ c.toNat) (h' : c.toNat ≤ 0x7E) : isBlank c = false := by
  simp only [isBlank, Bool.or_eq_false_iff, Bool.and_eq_false_iff, decide_eq_false_iff_not,
    beq_eq_false_iff_ne]
  omega

/-- A letter or digit is no blank. -/
theorem isBlank_of_isAlphanum (h : c.isAlphanum = true) : isBlank c = false := by
  rcases Bool.or_eq_true_iff.1 h with h | h
  · have := Column.isAlpha_iff_toNat.1 h
    exact isBlank_of_toNat (by omega) (by omega)
  · have := Address.isDigit_iff_toNat.1 h
    exact isBlank_of_toNat (by omega) (by omega)

/-! ## The ends of a text -/

/-- **What trimming takes off** the end of a text are blanks. -/
theorem exists_trimEnd_append (cs : List Char) :
    ∃ bs, cs = trimEnd cs ++ bs ∧ ∀ b ∈ bs, isBlank b = true := by
  refine ⟨(cs.reverse.takeWhile isBlank).reverse, ?_, fun b hb => ?_⟩
  · rw [trimEnd, ← List.reverse_append, List.takeWhile_append_dropWhile, List.reverse_reverse]
  · exact List.mem_takeWhile_imp (List.mem_reverse.1 hb)

/-- What trimming leaves does not end in a blank. -/
theorem isBlank_of_mem_getLast?_trimEnd (h : c ∈ (trimEnd cs).getLast?) : isBlank c = false := by
  have hhead := List.head?_dropWhile_not isBlank cs.reverse
  rw [trimEnd, List.getLast?_reverse] at h
  rw [Option.mem_def.1 h] at hhead
  exact hhead

/-- Trimming adds no character. -/
theorem mem_of_mem_trimEnd (h : c ∈ trimEnd cs) : c ∈ cs := by
  obtain ⟨bs, hcs, -⟩ := exists_trimEnd_append cs
  rw [hcs]
  exact List.mem_append_left _ h

/-- Trimming makes no text longer. -/
theorem length_trimEnd_le (cs : List Char) : (trimEnd cs).length ≤ cs.length := by
  have hle := (List.dropWhile_sublist (l := cs.reverse) isBlank).length_le
  rwa [List.length_reverse, ← List.length_reverse] at hle

/-- Blanks at the end do not matter to what trimming leaves. -/
theorem trimEnd_append_blanks (h : ∀ b ∈ bs, isBlank b = true) :
    trimEnd (cs ++ bs) = trimEnd cs := by
  rw [trimEnd, List.reverse_append, List.dropWhile_append_of_pos (by simpa using h), trimEnd]

/-- **Trimming stops** at a character that is no blank. -/
theorem trimEnd_append_cons (h : isBlank c = false) :
    trimEnd (cs ++ c :: ds) = cs ++ c :: trimEnd ds := by
  simp only [trimEnd, List.reverse_append, List.reverse_cons, List.append_assoc,
    List.dropWhile_append]
  split
  · next he =>
    rw [List.isEmpty_iff] at he
    simp [he, h]
  · simp

/-- A character before a text is kept, unless nothing is left of the text. -/
theorem trimEnd_cons_cases (c : Char) (cs : List Char) :
    trimEnd (c :: cs) = c :: trimEnd cs ∨ trimEnd (c :: cs) = [] ∧ trimEnd cs = [] := by
  simp only [trimEnd, List.reverse_cons, List.dropWhile_append]
  split
  · next he =>
    rw [List.isEmpty_iff] at he
    by_cases hc : isBlank c = true <;> simp [he, hc]
  · simp

/-- What trimming leaves does not start with a blank. -/
theorem isBlank_of_mem_head?_trim (h : c ∈ (trim cs).head?) : isBlank c = false := by
  cases hstart : trimStart cs with
  | nil =>
    rw [trim, hstart] at h
    cases h
  | cons b r =>
    rw [trim_of_trimStart hstart] at h
    obtain rfl : b = c := Option.some.inj h
    exact isBlank_of_trimStart hstart

/-- **A text is left as it is** exactly if it neither starts nor ends with a blank. -/
theorem trim_eq_self_iff : trim cs = cs ↔
    (∀ c ∈ cs.head?, isBlank c = false) ∧ ∀ c ∈ cs.getLast?, isBlank c = false := by
  constructor
  · intro h
    rw [← h]
    exact ⟨fun _ => isBlank_of_mem_head?_trim, fun _ => isBlank_of_mem_getLast?_trimEnd⟩
  · rintro ⟨hhead, hlast⟩
    have hstart : trimStart cs = cs := by
      cases cs with
      | nil => rfl
      | cons c r => simp [trimStart, hhead c rfl]
    obtain ⟨bs, hcs, hbs⟩ := exists_trimEnd_append cs
    rw [trim, hstart]
    cases hb : bs.getLast? with
    | none =>
      rw [List.getLast?_eq_none_iff.1 hb, List.append_nil] at hcs
      exact hcs.symm
    | some b =>
      have hcsb : b ∈ cs.getLast? := by
        rw [hcs, List.getLast?_append, hb]
        rfl
      have hblank := hbs b (List.mem_of_getLast? hb)
      rw [hlast b hcsb] at hblank
      cases hblank

/-- Trimming again takes nothing off. -/
theorem trim_trim (cs : List Char) : trim (trim cs) = trim cs :=
  trim_eq_self_iff.2
    ⟨fun _ => isBlank_of_mem_head?_trim, fun _ => isBlank_of_mem_getLast?_trimEnd⟩

/-! ## Spaces -/

/-- **Spaces are the only blanks** of a text. -/
def Spaced (cs : List Char) : Prop := ∀ c ∈ cs, isBlank c = true → c = ' '

instance : DecidablePred Spaced := List.decidableBAll fun c => isBlank c = true → c = ' '

/-- A text put together is spaced if its parts are. -/
@[simp]
theorem spaced_append : Spaced (cs ++ ds) ↔ Spaced cs ∧ Spaced ds := List.forall_mem_append

/-- Strings in a row are spaced if they all are. -/
theorem spaced_toList_append {s t : String} :
    Spaced (s ++ t).toList ↔ Spaced s.toList ∧ Spaced t.toList := by
  rw [String.toList_append, spaced_append]

/-- A string is spaced if its characters are. -/
theorem spaced_toList_ofList (h : Spaced cs) : Spaced (String.ofList cs).toList := by
  rwa [String.toList_ofList]

/-- Spaces are spaced. -/
@[simp]
theorem spaced_replicate (n : Nat) : Spaced (List.replicate n ' ') :=
  fun _ hc _ => List.eq_of_mem_replicate hc

/-- A text without blanks is spaced. -/
theorem spaced_of_isBlank (h : ∀ c ∈ cs, isBlank c = false) : Spaced cs :=
  fun c hc hblank => absurd hblank (by simp [h c hc])

/-- Letters and digits are spaced. -/
theorem spaced_of_isAlphanum (h : ∀ c ∈ cs, c.isAlphanum = true) : Spaced cs :=
  spaced_of_isBlank fun c hc => isBlank_of_isAlphanum (h c hc)

/-- Digits are spaced. -/
theorem spaced_of_isDigit (h : ∀ c ∈ cs, c.isDigit = true) : Spaced cs :=
  spaced_of_isAlphanum fun c hc => by rw [Char.isAlphanum, h c hc, Bool.or_true]

/-- The digits of a number are spaced. -/
@[simp]
theorem spaced_toDigits (n : Nat) : Spaced (Nat.toDigits 10 n) :=
  spaced_of_isDigit fun _ => Nat.isDigit_of_mem_toDigits (by decide) (by decide)

/-- A spaced text is in one line. -/
theorem Spaced.lineFeed_not_mem (h : Spaced cs) : '\n' ∉ cs := fun hmem => by
  have := h '\n' hmem (by decide)
  simp at this

/-- **A spaced text is what trimming leaves,** filled up with spaces again. -/
theorem Spaced.trimEnd_append (h : Spaced cs) :
    trimEnd cs ++ List.replicate (cs.length - (trimEnd cs).length) ' ' = cs := by
  obtain ⟨bs, hcs, hbs⟩ := exists_trimEnd_append cs
  have hspaces : bs = List.replicate bs.length ' ' := by
    refine List.eq_replicate_of_mem fun b hb => h b ?_ (hbs b hb)
    rw [hcs]
    exact List.mem_append_right _ hb
  have hlength : cs.length - (trimEnd cs).length = bs.length := by
    have := congrArg List.length hcs
    rw [List.length_append] at this
    omega
  rw [hlength, ← hspaces, ← hcs]

end Text
end FormulaGrid
