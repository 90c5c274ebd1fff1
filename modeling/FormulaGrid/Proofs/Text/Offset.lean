/-
# Characters in their bytes

At the offset of a character a text that is kept in its UTF-8 bytes can be changed, and what comes
of that is the UTF-8 of the text with the character taken out (`removeAt?_offset`) or put in
(`insertAt?_offset`). For the bytes that begin a character stand where the characters before it end
(`getElem?_startsFrom`), and so its offset is the length of what stands before it (`offset_utf8`).
-/

import FormulaGrid.Proofs.Text.Utf8
import FormulaGrid.Text.Offset

namespace FormulaGrid
namespace Text

variable {bs r : Bytes} {n i : Nat} {c : Char} {cs : List Char}

/-- No character begins in bytes that go on with one. -/
theorem startsFrom_of_continues (h : ∀ b ∈ bs, Continues b) :
    startsFrom n (bs ++ r) = startsFrom (n + bs.length) r := by
  induction bs generalizing n with
  | nil => rfl
  | cons b bs ih =>
    obtain ⟨hb, hbs⟩ := List.forall_mem_cons.1 h
    rw [List.cons_append, startsFrom, if_pos hb, ih hbs, List.length_cons]
    congr 1
    omega

/-- **One character begins in the bytes of one.** -/
theorem startsFrom_encodeChar (n : Nat) (c : Char) (r : Bytes) :
    startsFrom n (String.utf8EncodeChar c ++ r) = n :: startsFrom (n + c.utf8Size) r := by
  obtain ⟨b, rest, hc, hb, hrest⟩ := exists_utf8EncodeChar c
  have hstart : ¬ Continues b := by
    rintro ⟨hge, hlt⟩
    rcases hb with ⟨hsmall, heq, -⟩ | ⟨-, hlead⟩ <;> omega
  have hsize : c.utf8Size = rest.length + 1 := by
    rw [← String.length_utf8EncodeChar, hc, List.length_cons]
  rw [hc, List.cons_append, startsFrom, if_neg hstart, startsFrom_of_continues hrest, hsize]
  congr 2
  omega

/-- **The characters of a text begin** where those before them end. -/
theorem getElem?_startsFrom (n : Nat) (cs : List Char) (i : Nat) :
    (startsFrom n (utf8 cs))[i]? =
      if i < cs.length then some (n + (utf8 (cs.take i)).length) else none := by
  induction cs generalizing n i with
  | nil => rfl
  | cons c cs ih =>
    rw [utf8_cons, startsFrom_encodeChar]
    cases i with
    | zero => simp [utf8_nil]
    | succ i =>
      rw [List.getElem?_cons_succ, ih, List.take_succ_cons, utf8_cons, List.length_append,
        String.length_utf8EncodeChar, List.length_cons, Nat.add_assoc]
      simp only [Nat.add_lt_add_iff_right]

/-- As many characters begin as there are. -/
theorem length_starts (cs : List Char) : (starts (utf8 cs)).length = cs.length := by
  have hnone : ∀ i, (starts (utf8 cs)).length ≤ i ↔ cs.length ≤ i := fun i => by
    rw [← List.getElem?_eq_none_iff, starts, getElem?_startsFrom]
    simp
  exact Nat.le_antisymm ((hnone _).2 (Nat.le_refl _)) ((hnone _).1 (Nat.le_refl _))

/-- **The offset of a character** is the length of what stands before it. -/
theorem offset_utf8 (cs : List Char) (i : Nat) :
    offset (utf8 cs) i = (utf8 (cs.take i)).length := by
  rw [offset, starts, getElem?_startsFrom]
  by_cases hi : i < cs.length
  · rw [if_pos hi, Option.getD_some, Nat.zero_add]
  · rw [if_neg hi, Option.getD_none, List.take_of_length_le (Nat.le_of_not_lt hi)]

/-- The offset of a character cuts no other in two. -/
theorem isBoundary_offset (cs : List Char) (i : Nat) :
    IsBoundary (utf8 cs) (offset (utf8 cs) i) := by
  rw [offset]
  cases hi : (starts (utf8 cs))[i]? with
  | none => exact .inl rfl
  | some n => exact .inr (List.mem_of_getElem? hi)

/-- The bytes of a text are those before a character and those from it on. -/
theorem utf8_split (cs : List Char) (i : Nat) :
    (utf8 cs).take (offset (utf8 cs) i) = utf8 (cs.take i) ∧
      (utf8 cs).drop (offset (utf8 cs) i) = utf8 (cs.drop i) := by
  have hcs : utf8 cs = utf8 (cs.take i) ++ utf8 (cs.drop i) := by
    rw [← utf8_append, List.take_append_drop]
  rw [offset_utf8]
  exact ⟨by rw [hcs, List.take_left], by rw [hcs, List.drop_left]⟩

/-- **A character is taken out whole.** -/
theorem removeAt?_offset (hi : i < cs.length) :
    removeAt? (utf8 cs) (offset (utf8 cs) i) = some (utf8 (cs.eraseIdx i)) := by
  obtain ⟨hbefore, hafter⟩ := utf8_split cs i
  have hfirst : firstChar? (utf8 (cs.drop i)) = some cs[i] := by
    rw [List.drop_eq_getElem_cons hi, utf8_cons]
    exact firstChar?_eq_some_iff.2 ⟨_, rfl⟩
  have hrest : (utf8 cs).drop (offset (utf8 cs) i + cs[i].utf8Size) = utf8 (cs.drop (i + 1)) := by
    rw [← List.drop_drop, hafter, List.drop_eq_getElem_cons hi, utf8_cons,
      List.drop_left' (String.length_utf8EncodeChar _)]
  rw [removeAt?, hafter, hfirst, Option.map_some, hbefore, hrest, List.eraseIdx_eq_take_drop_succ,
    utf8_append]

/-- What stands before a place, what is put in there, and the rest. -/
theorem insertIdx_eq (c : Char) (hi : i ≤ cs.length) :
    cs.insertIdx i c = cs.take i ++ c :: cs.drop i := by
  induction cs generalizing i with
  | nil => simp [Nat.le_zero.1 hi]
  | cons c' cs ih =>
    cases i with
    | zero => rfl
    | succ i =>
      rw [List.insertIdx_succ_cons, ih (Nat.le_of_succ_le_succ hi), List.take_succ_cons,
        List.drop_succ_cons, List.cons_append]

/-- **A character is put in between others.** -/
theorem insertAt?_offset (c : Char) (hi : i ≤ cs.length) :
    insertAt? (utf8 cs) (offset (utf8 cs) i) c = some (utf8 (cs.insertIdx i c)) := by
  obtain ⟨hbefore, hafter⟩ := utf8_split cs i
  rw [insertAt?, if_pos (isBoundary_offset cs i), hbefore, hafter, insertIdx_eq c hi, utf8_append,
    utf8_cons, List.append_assoc]

end Text
end FormulaGrid
