/-
# Names of cells

A name is letters and then digits, at least one of each (`Spelled`). It denotes the address of which
the letters are worth the column and the digits the row, both counted from one and below the limit
(`Denotes`), and that is the address which is read from it (`ofName?_eq_some_iff`).

Many names denote one address: letters may be small, and digits may have zeros before them. The name
that an address has itself is the one in capitals and without such zeros (`Spelled.name_eq`). It is
read back if its numbers are below the limit (`denotes_name`), and no two addresses have the same
(`name_injective`).
-/

import FormulaGrid.Proofs.Address.Letters

namespace FormulaGrid
namespace Address

/-- **What digits are worth** in base 10. -/
def decimal (ds : List Char) : Nat := positional 10 (fun c => c.toNat - '0'.toNat) ds

/-- **Letters and then digits,** at least one of each. -/
structure Spelled (s : String) (letters digits : List Char) : Prop where
  eq : s.toList = letters ++ digits
  letters_ne : letters ≠ []
  digits_ne : digits ≠ []
  isAlpha : ∀ c ∈ letters, c.isAlpha = true
  isDigit : ∀ c ∈ digits, c.isDigit = true

/-- **A name denotes an address:** its letters are worth the column and its digits the row. -/
def Denotes (s : String) (a : Address) : Prop :=
  ∃ letters digits, Spelled s letters digits ∧
    Column.value letters = a.col + 1 ∧ a.col + 1 ≤ 2 ^ 64 - 1 ∧
    decimal digits = a.row + 1 ∧ a.row + 1 ≤ 2 ^ 64 - 1

variable {s : String} {letters digits ds cs : List Char} {c : Char} {a b : Address} {n row : Nat}

/-! ## Digits -/

/-- The numbers of digits. -/
theorem isDigit_iff_toNat : c.isDigit = true ↔ 48 ≤ c.toNat ∧ c.toNat ≤ 57 := by
  simp [Char.isDigit, UInt32.le_iff_toNat_le, ← Char.toNat_val]

/-- A digit is no letter. -/
theorem isAlpha_of_isDigit (h : c.isDigit = true) : c.isAlpha = false := by
  have hc := isDigit_iff_toNat.1 h
  refine Bool.eq_false_iff.2 fun halpha => ?_
  have hc' := Column.isAlpha_iff_toNat.1 halpha
  omega

/-- The row is read from what the digits are worth. -/
theorem ofDigitChars_eq_decimal (ds : List Char) : Nat.ofDigitChars 10 ds 0 = decimal ds := by
  induction ds using List.reverseRecOn with
  | nil => rfl
  | append_singleton ds c ih =>
    rw [Nat.ofDigitChars_append, ih, Nat.ofDigitChars_cons, Nat.ofDigitChars_nil, decimal, decimal,
      positional_concat, Nat.mul_comm]

/-- **Digits stand for what they are worth,** if there are any and that is neither zero nor too
much. -/
theorem rowNumber?_eq_some_iff : rowNumber? ds = some row ↔
    ds ≠ [] ∧ (∀ c ∈ ds, c.isDigit = true) ∧ decimal ds = row + 1 ∧ row + 1 < numberLimit := by
  rw [rowNumber?, ofDigitChars_eq_decimal]
  by_cases hds : ds ≠ [] ∧ ∀ c ∈ ds, c.isDigit = true
  · have hno : (ds.isEmpty || !ds.all Char.isDigit) = false := by simpa using hds
    simp only [hno, Bool.false_eq_true, if_false, Option.ite_none_right_eq_some, Option.some.injEq]
    constructor
    · rintro ⟨⟨hpos, hlimit⟩, rfl⟩
      exact ⟨hds.1, hds.2, by omega, by omega⟩
    · rintro ⟨-, -, hrow, hlimit⟩
      exact ⟨by omega, by omega⟩
  · have hno : (ds.isEmpty || !ds.all Char.isDigit) = true := by
      by_contra hyes
      exact hds (by simpa using hyes)
    simp only [hno, if_true]
    exact ⟨nofun, fun h => absurd ⟨h.1, h.2.1⟩ hds⟩

/-- A digit is written as itself. -/
theorem toDigits_of_isDigit (h : c.isDigit = true) :
    Nat.toDigits 10 (c.toNat - '0'.toNat) = [c] := by
  obtain ⟨hlow, hhigh⟩ := isDigit_iff_toNat.1 h
  have hdigits : ∀ i < 10, Nat.toDigits 10 i = [Char.ofNat (48 + i)] := by decide
  have hc : 48 + (c.toNat - 48) = c.toNat := Nat.add_sub_cancel' hlow
  have hi : c.toNat - 48 < 10 := by omega
  calc Nat.toDigits 10 (c.toNat - '0'.toNat) = [Char.ofNat (48 + (c.toNat - 48))] := hdigits _ hi
    _ = [c] := by rw [hc, Char.ofNat_toNat]

/-- Digits after a number that is not zero are written after it. -/
theorem toDigits_ofDigitChars (hds : ∀ c ∈ ds, c.isDigit = true) (hn : 0 < n) :
    Nat.toDigits 10 (Nat.ofDigitChars 10 ds n) = Nat.toDigits 10 n ++ ds := by
  induction ds generalizing n with
  | nil => simp
  | cons c ds ih =>
    obtain ⟨hc, hds⟩ := List.forall_mem_cons.1 hds
    have hlt : c.toNat - '0'.toNat < 10 := by
      have hbounds := isDigit_iff_toNat.1 hc
      exact Nat.sub_lt_left_of_lt_add hbounds.1 (Nat.lt_succ_of_le hbounds.2)
    rw [Nat.ofDigitChars_cons, ih hds (by omega),
      ← Nat.toDigits_append_toDigits (by decide) hn hlt, toDigits_of_isDigit hc, List.append_assoc]
    rfl

/-- **What digits are worth is written without the zeros before them.** -/
theorem toDigits_decimal (hds : ∀ c ∈ ds, c.isDigit = true) (hpos : 0 < decimal ds) :
    Nat.toDigits 10 (decimal ds) = ds.dropWhile (· == '0') := by
  rw [← ofDigitChars_eq_decimal] at hpos ⊢
  induction ds with
  | nil => cases hpos
  | cons c ds ih =>
    obtain ⟨hc, hrest⟩ := List.forall_mem_cons.1 hds
    rw [Nat.ofDigitChars_cons, Nat.mul_zero, Nat.zero_add] at hpos ⊢
    by_cases hzero : c = '0'
    · subst hzero
      rw [List.dropWhile_cons_of_pos (by decide)]
      exact ih hrest hpos
    · have hworth : 0 < c.toNat - '0'.toNat := by
        have hlow : '0'.toNat ≤ c.toNat := (isDigit_iff_toNat.1 hc).1
        have hne : c.toNat ≠ '0'.toNat := fun heq => hzero (Char.toNat_inj.1 heq)
        omega
      rw [toDigits_ofDigitChars hrest hworth, toDigits_of_isDigit hc,
        List.dropWhile_cons_of_neg (by simpa using hzero)]
      rfl

/-! ## Names -/

/-- The letters of a name are those it starts with. -/
theorem Spelled.takeWhile_eq (h : Spelled s letters digits) :
    s.toList.takeWhile Char.isAlpha = letters := by
  obtain ⟨d, ds, rfl⟩ := List.exists_cons_of_ne_nil h.digits_ne
  have hd : ¬ d.isAlpha = true := by simp [isAlpha_of_isDigit (h.isDigit d List.mem_cons_self)]
  rw [h.eq, List.takeWhile_append_of_pos h.isAlpha, List.takeWhile_cons_of_neg hd, List.append_nil]

/-- And its digits are what comes after them. -/
theorem Spelled.dropWhile_eq (h : Spelled s letters digits) :
    s.toList.dropWhile Char.isAlpha = digits := by
  have hsplit := List.takeWhile_append_dropWhile (p := Char.isAlpha) (l := s.toList)
  rw [h.takeWhile_eq, h.eq] at hsplit
  rw [h.eq]
  exact List.append_cancel_left hsplit

/-- **An address is read from the names that denote it,** and from nothing else. -/
theorem ofName?_eq_some_iff : ofName? s = some a ↔ Denotes s a := by
  have hlimit : ∀ m, m < numberLimit ↔ m ≤ 2 ^ 64 - 1 := fun m => Nat.lt_iff_le_pred (by decide)
  simp only [ofName?, Option.bind_eq_bind, Option.bind_eq_some_iff, Column.number?_eq_some_iff,
    rowNumber?_eq_some_iff, Option.some.injEq]
  constructor
  · rintro ⟨n, ⟨hne, halpha, hcol, hn⟩, row, ⟨hne', hdigit, hrow, hr⟩, rfl⟩
    have hpos : 0 < n := by
      have hletters := Column.letters_value halpha
      rw [hcol] at hletters
      refine Nat.pos_of_ne_zero ?_
      rintro rfl
      rw [Column.letters, if_pos rfl] at hletters
      exact hne (List.map_eq_nil_iff.1 hletters.symm)
    refine ⟨_, _, ⟨List.takeWhile_append_dropWhile.symm, hne, hne', halpha, hdigit⟩, ?_, ?_, hrow,
      (hlimit _).1 hr⟩
    · dsimp only
      omega
    · dsimp only
      rw [← hlimit]
      omega
  · rintro ⟨letters, digits, hs, hcol, hcollimit, hrow, hrowlimit⟩
    rw [hs.takeWhile_eq, hs.dropWhile_eq]
    exact ⟨a.col + 1, ⟨hs.letters_ne, hs.isAlpha, hcol, (hlimit _).2 hcollimit⟩, a.row,
      ⟨hs.digits_ne, hs.isDigit, hrow, (hlimit _).2 hrowlimit⟩, rfl⟩

/-- **The name of an address is letters and then digits.** -/
theorem spelled_name (a : Address) :
    Spelled a.name (Column.letters (a.col + 1)) (Nat.toDigits 10 (a.row + 1)) where
  eq := by simp [name, Column.name, Nat.toList_repr]
  letters_ne := Column.letters_ne_nil (Nat.succ_ne_zero _)
  digits_ne := Nat.toDigits_ne_nil
  isAlpha c hc := by
    rw [Column.isAlpha_eq, Column.isUpper_of_mem_letters c hc, Bool.true_or]
  isDigit c hc := Nat.isDigit_of_mem_toDigits (by decide) (by decide) hc

/-- **The name of an address denotes it** if its numbers are below the limit. -/
theorem denotes_name (hrow : a.row < 2 ^ 64 - 1) (hcol : a.col < 2 ^ 64 - 1) :
    Denotes a.name a := by
  refine ⟨_, _, a.spelled_name, Column.value_letters _, hcol, ?_, hrow⟩
  rw [← ofDigitChars_eq_decimal, Nat.ofDigitChars_ten_toDigits]

/-- **No two addresses have the same name.** -/
theorem name_injective : Function.Injective Address.name := by
  intro a b h
  have ha := a.spelled_name
  have hb := b.spelled_name
  rw [h] at ha
  have hletters := ha.takeWhile_eq.symm.trans hb.takeWhile_eq
  have hdigits := ha.dropWhile_eq.symm.trans hb.dropWhile_eq
  have hcol : a.col + 1 = b.col + 1 := by
    rw [← Column.value_letters (a.col + 1), hletters, Column.value_letters]
  have hrow : a.row + 1 = b.row + 1 := by
    rw [← Nat.ofDigitChars_ten_toDigits (n := a.row + 1), hdigits, Nat.ofDigitChars_ten_toDigits]
  obtain ⟨row, col⟩ := a
  obtain ⟨row', col'⟩ := b
  rw [Address.mk.injEq]
  exact ⟨Nat.succ.inj hrow, Nat.succ.inj hcol⟩

/-- **Of the names of an address it has itself the one in capitals,** without zeros before its
digits. -/
theorem Spelled.name_eq (h : Spelled s letters digits) (ha : ofName? s = some a) :
    a.name = String.ofList (letters.map Char.toUpper ++ digits.dropWhile (· == '0')) := by
  obtain ⟨letters', digits', hs, hcol, -, hrow, -⟩ := ofName?_eq_some_iff.1 ha
  obtain rfl : letters' = letters := hs.takeWhile_eq.symm.trans h.takeWhile_eq
  obtain rfl : digits' = digits := hs.dropWhile_eq.symm.trans h.dropWhile_eq
  have hpos : 0 < decimal digits' := hrow ▸ Nat.succ_pos _
  rw [← String.toList_inj, String.toList_ofList, ← Column.letters_value h.isAlpha, hcol,
    ← toDigits_decimal h.isDigit hpos, hrow]
  exact a.spelled_name.eq

/-- A name in small letters, with zeros before its digits. -/
example : ofName? "ab007" = some ⟨6, 27⟩ := by decide +kernel

end Address
end FormulaGrid
