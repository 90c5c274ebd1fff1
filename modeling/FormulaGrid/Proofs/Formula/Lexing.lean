/-
# Cutting a text at a lexeme

The lexemes of a text do not depend on what comes after them: a text that is cut where a lexeme
begins has the lexemes before that place and no others, and no fault (`exists_cut`). For a token is
the longest there is, so it is still the longest one when less text follows it (`tokenAt_take`).

What stands at the place of the cut is seen from the lexemes that are left: none at the end of the
text, none and a fault where no token begins, and else the first of them (`lexemesFrom_cases`).
-/

import FormulaGrid.Formula.Lexeme

namespace FormulaGrid
namespace Formula

variable {c : Char} {r cs : List Char} {token : Token} {n m offset : Nat}

/-! ## Tokens -/

/-- What is taken from the front of a text is taken from it if the text is cut behind that. -/
theorem takeWhile_take {p : Char → Bool} (h : (r.takeWhile p).length ≤ m) :
    (r.take m).takeWhile p = r.takeWhile p := by
  rw [← List.take_takeWhile, List.take_of_length_le h]

/-- And what is left after it is cut at the same place. -/
theorem dropWhile_take {p : Char → Bool} (h : (r.takeWhile p).length ≤ m) :
    (r.take m).dropWhile p = (r.dropWhile p).take (m - (r.takeWhile p).length) := by
  induction r generalizing m with
  | nil => simp
  | cons a r ih =>
    cases m with
    | zero =>
      have ha : ¬ p a = true := fun ha => by simp [ha] at h
      simp [ha]
    | succ m =>
      by_cases ha : p a = true
      · simp only [List.takeWhile_cons_of_pos ha, List.length_cons, Nat.add_le_add_iff_right] at h
        simp [ha, ih h]
      · simp [ha]

/-- The first character stays if any do. -/
theorem head?_take_eq (hm : 0 < m) : (r.take m).head? = r.head? := by
  rw [List.head?_take, if_neg (Nat.ne_of_gt hm)]

/-- A fraction ends within its text. -/
theorem fractionLength_le (r : List Char) : fractionLength r ≤ r.length := by
  fun_cases fractionLength r with
  | case1 r =>
    have htake := (List.takeWhile_sublist (l := r) Char.isDigit).length_le
    rw [List.length_cons]
    omega
  | case2 => exact Nat.zero_le _

/-- A dot and the digits after it are the fraction that is taken. -/
theorem take_dot (r : List Char) : ('.' :: r).take (1 + (r.takeWhile Char.isDigit).length) =
    '.' :: r.takeWhile Char.isDigit := by
  rw [Nat.add_comm, List.take_succ_cons,
    ← List.prefix_iff_eq_take.1 (List.takeWhile_prefix Char.isDigit)]

/-- **A fraction stays** when the text is cut behind it. -/
theorem fractionLength_take (h : fractionLength r ≤ m) :
    fractionLength (r.take m) = fractionLength r := by
  cases m with
  | zero => exact (Nat.le_zero.1 h).symm
  | succ m =>
    fun_cases fractionLength r with
    | case1 r =>
      rw [fractionLength] at h
      rw [List.take_succ_cons, fractionLength, takeWhile_take (by omega)]
    | case2 r hdot =>
      cases r with
      | nil => rfl
      | cons a r =>
        have ha : a ≠ '.' := fun ha => hdot r (by rw [ha])
        rw [List.take_succ_cons, fractionLength]
        intro r' heq
        exact ha (List.cons.inj heq).1

/-- A number or a word takes its own characters, whatever it is read as. -/
theorem eq_ok_of_read {found : Except Complaint Token} {length : Nat}
    (h : (do let token ← found; Except.ok (token, length)) = .ok (token, n)) :
    found = .ok token ∧ n = length := by
  cases found with
  | error complaint => cases h
  | ok token =>
    cases h
    exact ⟨rfl, rfl⟩

/-- **A token ends within its text.** -/
theorem tokenAt_le (h : tokenAt c r = .ok (token, n)) : n ≤ r.length := by
  have hpair : ∀ {sign : Char}, (c == sign && r.head? == some sign) = true → 1 ≤ r.length := by
    intro sign hpair
    cases r with
    | nil => simp at hpair
    | cons a r => exact Nat.succ_le_succ (Nat.zero_le _)
  revert h
  fun_cases tokenAt c r with
  | case1 hdigit more after length =>
    intro h
    rw [(eq_ok_of_read h).2]
    have hlength : length ≤ after.length := fractionLength_le after
    have hsplit : more.length + after.length = r.length := by
      rw [← List.length_append, List.takeWhile_append_dropWhile]
    omega
  | case2 hdigit halpha more =>
    intro h
    rw [(eq_ok_of_read h).2]
    exact (List.takeWhile_sublist Char.isAlphanum).length_le
  | case3 hdigit halpha hplus =>
    intro h
    cases h
    exact hpair hplus
  | case4 hdigit halpha hplus hminus =>
    intro h
    cases h
    exact hpair hminus
  | case5 =>
    intro h
    cases h
    exact Nat.zero_le _
  | case6 => exact nofun

/-- **A token stays** when the text is cut behind it. -/
theorem tokenAt_take (h : tokenAt c r = .ok (token, n)) (hm : n ≤ m) :
    tokenAt c (r.take m) = .ok (token, n) := by
  revert h
  fun_cases tokenAt c r with
  | case1 hdigit more after length =>
    intro h
    have hn : n = more.length + length := (eq_ok_of_read h).2
    have hdigits : more.length ≤ m := by omega
    have hmore : (r.take m).takeWhile Char.isDigit = more := takeWhile_take hdigits
    have hafter : (r.take m).dropWhile Char.isDigit = after.take (m - more.length) :=
      dropWhile_take hdigits
    have hlength : fractionLength (after.take (m - more.length)) = length :=
      fractionLength_take (by omega)
    have hfraction : (after.take (m - more.length)).take length = after.take length := by
      rw [List.take_take, Nat.min_eq_left (by omega)]
    rw [tokenAt, if_pos hdigit]
    simp only [hmore, hafter, hlength, hfraction]
    exact h
  | case2 hdigit halpha more =>
    intro h
    have hmore : (r.take m).takeWhile Char.isAlphanum = more :=
      takeWhile_take ((eq_ok_of_read h).2 ▸ hm)
    rw [tokenAt, if_neg hdigit, if_pos halpha]
    simp only [hmore]
    exact h
  | case3 hdigit halpha hplus =>
    intro h
    cases h
    rw [tokenAt, if_neg hdigit, if_neg halpha, head?_take_eq hm, if_pos hplus]
  | case4 hdigit halpha hplus hminus =>
    intro h
    cases h
    rw [tokenAt, if_neg hdigit, if_neg halpha, head?_take_eq hm, if_neg hplus, if_pos hminus]
  | case5 hdigit halpha hplus hminus symbol hsymbol =>
    intro h
    cases h
    have hshort : ∀ {sign : Char}, ¬ (c == sign && r.head? == some sign) = true →
        ¬ (c == sign && (r.take m).head? == some sign) = true := by
      intro sign hsign
      cases m with
      | zero => simp
      | succ m => rwa [head?_take_eq (Nat.succ_pos m)]
    rw [tokenAt, if_neg hdigit, if_neg halpha, if_neg (hshort hplus), if_neg (hshort hminus),
      hsymbol]
  | case6 => exact nofun

/-! ## Texts -/

/-- Nothing has no lexemes. -/
theorem lexemesFrom_nil (offset : Nat) : lexemesFrom offset [] = ⟨[], .ok offset⟩ := by
  rw [lexemesFrom]
  rfl

/-- Blanks before a text shift its lexemes. -/
theorem lexemesFrom_blanks {bs : List Char} (hbs : ∀ b ∈ bs, Text.isBlank b = true)
    (offset : Nat) (cs : List Char) :
    lexemesFrom offset (bs ++ cs) = lexemesFrom (offset + bs.length) cs := by
  rw [lexemesFrom, lexemesFrom.eq_def (offset + bs.length), List.takeWhile_append_of_pos hbs,
    List.dropWhile_append_of_pos hbs, List.length_append]
  simp only [Nat.add_assoc]

/-- Where a token begins, the other lexemes are those of the text after it. -/
theorem lexemesFrom_token (hc : Text.isBlank c = false) (h : tokenAt c r = .ok (token, n))
    (offset : Nat) :
    lexemesFrom offset (c :: r) =
      ⟨⟨token, offset⟩ :: (lexemesFrom (offset + 1 + n) (r.drop n)).items,
        (lexemesFrom (offset + 1 + n) (r.drop n)).stop⟩ := by
  rw [lexemesFrom]
  split
  · next hdrop => simp [hc] at hdrop
  · next hdrop =>
    simp only [List.dropWhile_cons, hc] at hdrop
    cases hdrop
    simp [hc, h]

/-- Where no token begins, there is a fault. -/
theorem lexemesFrom_fault (hc : Text.isBlank c = false) {complaint : Complaint}
    (h : tokenAt c r = .error complaint) (offset : Nat) :
    lexemesFrom offset (c :: r) = ⟨[], .error ⟨complaint, offset⟩⟩ := by
  rw [lexemesFrom]
  split
  · next hdrop => simp [hc] at hdrop
  · next hdrop =>
    simp only [List.dropWhile_cons, hc] at hdrop
    cases hdrop
    simp [hc, h]

/-- **What stands at the front** of a text that begins with no blank. -/
theorem lexemesFrom_cases (offset : Nat) (hcs : ∀ c ∈ cs.head?, Text.isBlank c = false) :
    (cs = [] ∧ lexemesFrom offset cs = ⟨[], .ok offset⟩) ∨
    (∃ c r complaint, cs = c :: r ∧ tokenAt c r = .error complaint ∧
      lexemesFrom offset cs = ⟨[], .error ⟨complaint, offset⟩⟩) ∨
    ∃ c r token n, cs = c :: r ∧ Text.isBlank c = false ∧ tokenAt c r = .ok (token, n) ∧
      lexemesFrom offset cs =
        ⟨⟨token, offset⟩ :: (lexemesFrom (offset + 1 + n) (r.drop n)).items,
          (lexemesFrom (offset + 1 + n) (r.drop n)).stop⟩ := by
  cases cs with
  | nil => exact .inl ⟨rfl, lexemesFrom_nil offset⟩
  | cons c r =>
    have hc : Text.isBlank c = false := hcs c rfl
    cases h : tokenAt c r with
    | error complaint => exact .inr (.inl ⟨c, r, complaint, rfl, h, lexemesFrom_fault hc h offset⟩)
    | ok found =>
      exact .inr (.inr ⟨c, r, found.1, found.2, rfl, hc, h, lexemesFrom_token hc h offset⟩)

/-- A text is its blanks at the front and a rest without. -/
theorem exists_blanks_append (cs : List Char) : ∃ bs rest, cs = bs ++ rest ∧
    (∀ b ∈ bs, Text.isBlank b = true) ∧ ∀ c ∈ rest.head?, Text.isBlank c = false := by
  refine ⟨cs.takeWhile Text.isBlank, cs.dropWhile Text.isBlank,
    List.takeWhile_append_dropWhile.symm, List.all_eq_true.1 List.all_takeWhile, fun c hc => ?_⟩
  have hfirst := List.head?_dropWhile_not Text.isBlank cs
  rw [hc] at hfirst
  exact hfirst

/-- **A text is cut between its lexemes.** Before the place of the cut it has the lexemes `front`
and no fault, and from there on the others and what stops them. -/
theorem exists_cut {front rest : List Lexeme} (h : (lexemesFrom offset cs).items = front ++ rest) :
    ∃ n, n ≤ cs.length ∧ lexemesFrom offset (cs.take n) = ⟨front, .ok (offset + n)⟩ ∧
      lexemesFrom (offset + n) (cs.drop n) = ⟨rest, (lexemesFrom offset cs).stop⟩ ∧
      ∀ c ∈ (cs.drop n).head?, Text.isBlank c = false := by
  induction front generalizing offset cs with
  | nil =>
    obtain ⟨bs, cs, rfl, hbs, hcs⟩ := exists_blanks_append cs
    refine ⟨bs.length, by simp, ?_, ?_, ?_⟩
    · have hnil := lexemesFrom_blanks hbs offset []
      rw [List.append_nil, lexemesFrom_nil] at hnil
      rw [List.take_left, hnil]
    · rw [List.drop_left, ← lexemesFrom_blanks hbs]
      rw [List.nil_append] at h
      rw [← h]
    · rwa [List.drop_left]
  | cons item front ih =>
    obtain ⟨bs, cs, rfl, hbs, hcs⟩ := exists_blanks_append cs
    rw [lexemesFrom_blanks hbs] at h ⊢
    rcases lexemesFrom_cases (offset + bs.length) hcs with
      ⟨-, heq⟩ | ⟨c, r, complaint, -, -, heq⟩ | ⟨c, r, token, n, rfl, hc, htoken, heq⟩
    · rw [heq] at h
      cases h
    · rw [heq] at h
      cases h
    · rw [heq] at h ⊢
      obtain ⟨hitem, hitems⟩ := List.cons.inj h
      subst hitem
      obtain ⟨m, hm, hbefore, hafter, hfirst⟩ := ih hitems
      have hn := tokenAt_le htoken
      have htake : (bs ++ c :: r).take (bs.length + (n + m + 1)) = bs ++ c :: r.take (n + m) := by
        rw [List.take_length_add_append, List.take_succ_cons]
      have hdrop : (bs ++ c :: r).drop (bs.length + (n + m + 1)) = (r.drop n).drop m := by
        rw [List.drop_length_add_append, List.drop_succ_cons, List.drop_drop]
      have hoffset : offset + (bs.length + (n + m + 1)) = offset + bs.length + 1 + n + m := by
        omega
      refine ⟨bs.length + (n + m + 1), ?_, ?_, ?_, ?_⟩
      · simp only [List.length_append, List.length_cons, List.length_drop] at hm ⊢
        omega
      · have hcut := lexemesFrom_token hc (tokenAt_take htoken (Nat.le_add_right n m))
          (offset + bs.length)
        rw [htake, lexemesFrom_blanks hbs, hcut, List.drop_take, Nat.add_sub_cancel_left,
          hbefore, hoffset]
      · rw [hdrop, hoffset, hafter]
      · rwa [hdrop]

end Formula
end FormulaGrid
