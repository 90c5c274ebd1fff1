/-
# Cells by their names

Formulas refer to cells by names, and errors and messages tell cells by them. A name tells which
cell it is, so the chain of an evaluation may as well be made of the names of cells: to look for
one, to add one and to take one away is the same with both (`Context.mem_names_iff`,
`Context.names_enter`, `Context.names_leave`).

A formula is read only with names that are letters and then digits (`spelled_of_mem_lexemes`). What
such a name is answered in an evaluation may be an error of another cell, but that it is out of
range it is answered exactly if it denotes no cell of the sheet (`resolveAt_outOfRange_iff`): a cell
of the sheet is never out of range itself, and the names for which others are out of range denote no
cell.
-/

import FormulaGrid.Proofs.Address.Name
import FormulaGrid.Proofs.Formula.Lexing
import FormulaGrid.Proofs.Sheet.Descent

namespace FormulaGrid

/-! ## Names in formulas -/

namespace Formula

variable {cs : List Char} {offset n : Nat}

/-- **What every token has that can stand at the front of a text,** every token of a text has. -/
theorem forall_token_of_tokenAt {p : Token → Prop}
    (h : ∀ c r token n, tokenAt c r = .ok (token, n) → p token) (offset : Nat) (cs : List Char) :
    ∀ item ∈ (lexemesFrom offset cs).items, p item.token := by
  induction hn : cs.length using Nat.strongRecOn generalizing cs offset with
  | ind n ih =>
    obtain ⟨bs, rest, rfl, hbs, hrest⟩ := exists_blanks_append cs
    rw [lexemesFrom_blanks hbs]
    rcases lexemesFrom_cases (offset + bs.length) hrest with
      ⟨-, heq⟩ | ⟨c, r, complaint, -, -, heq⟩ | ⟨c, r, token, k, rfl, -, htoken, heq⟩
    · simp [heq]
    · simp [heq]
    · have hlength : (r.drop k).length < n := by
        rw [← hn, List.length_append, List.length_cons, List.length_drop]
        omega
      rw [heq]
      exact List.forall_mem_cons.2 ⟨h c r token k htoken, ih _ hlength _ _ rfl⟩

/-- A word that is read as a name is one. -/
theorem spelled_of_isCellName {word : List Char} (h : isCellName word = true) :
    Address.Spelled (String.ofList word) (word.takeWhile Char.isAlpha)
      (word.dropWhile Char.isAlpha) := by
  have hparts : (word.takeWhile Char.isAlpha ≠ [] ∧ word.dropWhile Char.isAlpha ≠ []) ∧
      ∀ c ∈ word.dropWhile Char.isAlpha, c.isDigit = true := by
    simpa [isCellName, and_assoc] using h
  obtain ⟨⟨hletters, hdigits⟩, hall⟩ := hparts
  exact
    { eq := by rw [String.toList_ofList, List.takeWhile_append_dropWhile]
      letters_ne := hletters
      digits_ne := hdigits
      isAlpha := List.all_eq_true.1 List.all_takeWhile
      isDigit := hall }

/-- A word is a name only if it has the shape of one. -/
theorem isCellName_of_wordToken {word : List Char} {name : String}
    (h : wordToken word = .ok (.cell name)) :
    isCellName word = true ∧ name = String.ofList word := by
  revert h
  fun_cases wordToken word with
  | case7 =>
    next hname =>
      intro h
      exact ⟨hname, (Token.cell.inj (Except.ok.inj h)).symm⟩
  | _ =>
    intro h
    cases h

/-- What digits are read as is a number. -/
theorem number_of_numberToken {token : Token} (h : numberToken cs = .ok token) :
    ∃ x, token = .number x := by
  rw [numberToken] at h
  split at h
  · next x hx => exact ⟨x, (Except.ok.inj h).symm⟩
  · cases h

/-- A name at the front of a text is letters and then digits. -/
theorem spelled_of_tokenAt {c : Char} {r : List Char} {name : String}
    (h : tokenAt c r = .ok (.cell name, n)) :
    ∃ letters digits, Address.Spelled name letters digits := by
  revert h
  fun_cases tokenAt c r with
  | case1 =>
    intro h
    obtain ⟨x, hx⟩ := number_of_numberToken (eq_ok_of_read h).1
    cases hx
  | case3 | case4 | case6 =>
    intro h
    cases h
  | case2 =>
    intro h
    obtain ⟨hname, rfl⟩ := isCellName_of_wordToken (eq_ok_of_read h).1
    exact ⟨_, _, spelled_of_isCellName hname⟩
  | case5 _ _ _ _ token hsymbol =>
    -- no symbol is a name
    intro h
    cases h
    revert hsymbol
    fun_cases symbol? c <;>
      (intro h; cases h)

/-- **Every name in a formula is letters and then digits.** -/
theorem spelled_of_mem_lexemes {name : String} (offset : Nat)
    (h : .cell name ∈ (lexemesFrom offset cs).items.map Lexeme.token) :
    ∃ letters digits, Address.Spelled name letters digits := by
  obtain ⟨item, hitem, hname⟩ := List.mem_map.1 h
  have hall := forall_token_of_tokenAt
    (p := fun token => ∀ name, token = .cell name →
      ∃ letters digits, Address.Spelled name letters digits)
    (fun _ _ _ _ htoken _ hcell => spelled_of_tokenAt (hcell ▸ htoken)) offset cs
  exact hall item hitem name hname

end Formula

/-! ## Names in a context -/

namespace Context

/-- The names of the cells that have been entered and not left. -/
def names (c : Context) : List String := c.chain.map Address.name

variable {k : Nat}

/-- **A cell is waiting exactly if its name is.** -/
theorem mem_names_iff (c : Context) (a : Address) : a.name ∈ c.names ↔ a ∈ c.chain :=
  List.mem_map_of_injective Address.name_injective

/-- A cell that is entered adds its name. -/
theorem names_enter (a : Address) (c : At k) : (enter a c).1.names = a.name :: c.1.names := rfl

/-- A cell that is left takes away its own name and no other. -/
theorem names_leave (a : Address) (c : At k) : (leave a c).1.names = c.1.names.erase a.name :=
  List.map_erase Address.name_injective c.1.chain

end Context

/-! ## Names of a sheet -/

namespace Sheet

open Context (waiting)

variable {s : Sheet} {k : Nat} {n : String} {halt : Halt}

/-- A name is that of a cell exactly if it denotes one. -/
theorem cell?_eq_none_iff :
    s.cell? n = none ↔ ¬ ∃ a, s.inBounds a = true ∧ Address.Denotes n a := by
  rw [← Option.not_isSome_iff_eq_none, Option.isSome_iff_exists]
  simp only [cell?_eq_some_iff, Address.ofName?_eq_some_iff, and_comm]

/-- **What is out of range is no cell,** wherever in the formulas below a cell it was asked for. -/
theorem cell?_of_descend_outOfRange {chain : List Address} {k : Nat} {a : Address}
    (hin : s.inBounds a = true) (h : s.descend chain k a = .error halt)
    (herr : halt.error = .outOfRange n) : s.cell? n = none := by
  cases halts_of_descend h with
  | missing hc =>
    rw [← isSome_content?, hc] at hin
    cases hin
  | waiting _ hx | word _ _ hx | broken _ _ _ hx | tooDeep _ _ _ _ hx =>
    subst hx
    cases herr
  | inside e _ _ hk he =>
    cases Formula.Expr.answer_error e he with
    | name m hm hlook =>
      cases hb : s.cell? m with
      | none =>
        rw [lookFrom, hb] at hlook
        cases hlook
        cases herr
        exact hb
      | some b =>
        rw [lookFrom_of_cell? hb] at hlook
        exact cell?_of_descend_outOfRange (cell?_eq_some_iff.1 hb).2 hlook herr
    | quotient _ _ _ _ _ _ _ _ _ hx | call _ _ hx =>
      subst hx
      cases herr
termination_by maxDepth - k
decreasing_by omega

/-- **A name is answered to be out of range exactly if it is no cell's,** in whatever context it is
asked for. -/
theorem resolveAt_outOfRange_iff (c : Context.At k) :
    ((s.resolveAt k n).run.run c).1 = .error (.outOfRange n) ↔ s.cell? n = none := by
  obtain ⟨⟨chain, k⟩, rfl⟩ := c
  have hrun := resolveAt_run (s.numberAt_run chain k) n
  change ((s.resolveAt k n).run.run (waiting chain k)).1 = _ ↔ _
  rw [hrun]
  constructor
  · intro h
    cases hb : s.cell? n with
    | none => rfl
    | some b =>
      rw [lookFrom_of_cell? hb] at h
      cases hd : s.descend chain k b with
      | ok x =>
        rw [hd] at h
        cases h
      | error halt =>
        rw [hd] at h
        have herr : halt.error = .outOfRange n := Except.error.inj h
        rw [← hb, cell?_of_descend_outOfRange (cell?_eq_some_iff.1 hb).2 hd herr]
  · intro hb
    rw [lookFrom, hb]
    rfl

/-- **Cells and names are one to one, up to how a name is spelled.** An address is read from its own
name, no two have the same, and the cells of a context are told apart by their names. A text is read
as the address that it denotes, by letters and digits that are worth its column and row, and the
name of that address is the text in capitals without zeros before its digits. All names in a formula
are letters and then digits, and a name is answered to be out of range exactly if it denotes no cell
of the sheet. -/
theorem ofName?_name_and_resolveAt_iff :
    (∀ a : Address, a.row < 2 ^ 64 - 1 → a.col < 2 ^ 64 - 1 → Address.ofName? a.name = some a) ∧
    Function.Injective Address.name ∧
    (∀ (k : Nat) (c : Context.At k) (a : Address), (a.name ∈ c.1.names ↔ a ∈ c.1.chain) ∧
      (Context.enter a c).1.names = a.name :: c.1.names ∧
      (Context.leave a c).1.names = c.1.names.erase a.name) ∧
    (∀ (n : String) (a : Address), Address.ofName? n = some a ↔ Address.Denotes n a) ∧
    (∀ (n : String) (a : Address) (letters digits : List Char),
      Address.ofName? n = some a → Address.Spelled n letters digits →
      a.name = String.ofList (letters.map Char.toUpper ++ digits.dropWhile (· == '0'))) ∧
    (∀ (cs : List Char) (n : String),
      .cell n ∈ (Formula.lexemes cs).items.map Formula.Lexeme.token →
      ∃ letters digits, Address.Spelled n letters digits) ∧
    (∀ (s : Sheet) (k : Nat) (c : Context.At k) (n : String),
      ((s.resolveAt k n).run.run c).1 = .error (.outOfRange n) ↔
        ¬ ∃ a, s.inBounds a = true ∧ Address.Denotes n a) := by
  refine ⟨fun a hrow hcol => ?_, Address.name_injective, fun k c a => ?_,
    fun n a => Address.ofName?_eq_some_iff, fun n a letters digits ha hn => hn.name_eq ha,
    fun cs n => Formula.spelled_of_mem_lexemes 0, fun s k c n => ?_⟩
  · exact Address.ofName?_eq_some_iff.2 (a.denotes_name hrow hcol)
  · exact ⟨c.1.mem_names_iff a, Context.names_enter a c, Context.names_leave a c⟩
  · rw [resolveAt_outOfRange_iff, cell?_eq_none_iff]

end Sheet
end FormulaGrid
