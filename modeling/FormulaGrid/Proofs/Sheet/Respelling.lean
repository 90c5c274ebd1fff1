/-
# Spellings of formulas

One cell has many names: letters may be small, and digits may have zeros before them. A tree
respells another if it differs from it in nothing but names, and in these only where both are names
of one cell of the sheet (`Expr.Respells`). Sheets whose formulas respell each other, cell by cell,
have the same values (`Respells.valueOf_eq`): their references lead through the same cells, chains
are made of cells and not of names, and the only errors that have a name as it was written are those
of names that no cell has, which are the same in both.

The letter case is gone with the lexemes already, so the trees themselves are the same
(`FormulaGrid.Proofs.Formula.LetterCase`).
-/

import FormulaGrid.Proofs.Formula.LetterCase
import FormulaGrid.Proofs.Sheet.Blame

namespace FormulaGrid

open Formula (Error Expr parse)

namespace Formula

/-! ## Trees -/

namespace Expr

mutual

/-- **One tree respells another:** they differ in the names of references only, and where one has a
name, the other has the same or another one for the same. -/
inductive Respells (same : String → String → Prop) : Expr → Expr → Prop
  | number (x : Float) : Respells same (.number x) (.number x)
  | reference {n n' : String} : same n n' → Respells same (.reference n) (.reference n')
  | unary {e e' : Expr} (op : UnaryOp) : Respells same e e' →
      Respells same (.unary op e) (.unary op e')
  | binary {l l' r r' : Expr} (op : BinaryOp) : Respells same l l' → Respells same r r' →
      Respells same (.binary op l r) (.binary op l' r')
  | call {args args' : List Expr} (f : Function) : RespellsAll same args args' →
      Respells same (.call f args) (.call f args')

/-- Trees that respell others, one by one. -/
inductive RespellsAll (same : String → String → Prop) : List Expr → List Expr → Prop
  | nil : RespellsAll same [] []
  | cons {e e' : Expr} {es es' : List Expr} : Respells same e e' → RespellsAll same es es' →
      RespellsAll same (e :: es) (e' :: es')

end

variable {same : String → String → Prop} {e e' : Expr} {es es' : List Expr}

mutual

/-- A tree respells itself. -/
theorem respells_self (h : ∀ n, same n n) : ∀ e : Expr, e.Respells same e
  | .number x => .number x
  | .reference n => .reference (h n)
  | .unary op e => .unary op (respells_self h e)
  | .binary op l r => .binary op (respells_self h l) (respells_self h r)
  | .call f args => .call f (respellsAll_self h args)

/-- Trees respell themselves. -/
theorem respellsAll_self (h : ∀ n, same n n) : ∀ es : List Expr, RespellsAll same es es
  | [] => .nil
  | e :: es => .cons (respells_self h e) (respellsAll_self h es)

end

mutual

/-- A tree that is respelled has the same height. -/
theorem Respells.depth_eq : ∀ {e e' : Expr}, e.Respells same e' → e'.depth = e.depth
  | _, _, .number _ => rfl
  | _, _, .reference _ => rfl
  | _, _, .unary _ h => by rw [depth, depth, h.depth_eq]
  | _, _, .binary _ hl hr => by rw [depth, depth, hl.depth_eq, hr.depth_eq]
  | _, _, .call _ h => by rw [depth, depth, h.depth_eq]

/-- Trees that are respelled have the same greatest height. -/
theorem RespellsAll.depth_eq : ∀ {es es' : List Expr}, RespellsAll same es es' →
    depthOfAll es' = depthOfAll es
  | _, _, .nil => rfl
  | _, _, .cons h hs => by rw [depthOfAll, depthOfAll, h.depth_eq, hs.depth_eq]

end

section
variable {ε : Type} {look look' : String → Except ε Float} {raise : Error → ε}

mutual

/-- **A tree that is respelled has the same answer** if the names do. -/
theorem Respells.answer_eq (hlook : ∀ n n', same n n' → look' n' = look n) :
    ∀ {e e' : Expr}, e.Respells same e' → e'.answer look' raise = e.answer look raise
  | _, _, .number _ => rfl
  | _, _, .reference h => hlook _ _ h
  | _, _, .unary _ h => by rw [answer, answer, h.answer_eq hlook]
  | _, _, .binary _ hl hr => by rw [answer, answer, hl.answer_eq hlook, hr.answer_eq hlook]
  | _, _, .call _ h => by rw [answer, answer, h.answers_eq hlook]

/-- Trees that are respelled have the same answers. -/
theorem RespellsAll.answers_eq (hlook : ∀ n n', same n n' → look' n' = look n) :
    ∀ {es es' : List Expr}, RespellsAll same es es' →
      answers look' raise es' = answers look raise es
  | _, _, .nil => rfl
  | _, _, .cons h hs => by rw [answers, answers, h.answer_eq hlook, hs.answers_eq hlook]

end

end

end Expr
end Formula

/-! ## Sheets -/

namespace Sheet

/-- **Two names are the same** to a sheet if they are equal or both that of one cell. -/
def SameCell (s : Sheet) (n n' : String) : Prop :=
  n = n' ∨ ∃ b, s.cell? n = some b ∧ s.cell? n' = some b

/-- **One sheet respells another:** they have the same extent, and cells have the same text or
formulas that can be parsed, with trees of which one respells the other. -/
structure Respells (s t : Sheet) : Prop where
  rows : t.rows = s.rows
  cols : t.cols = s.cols
  cells : ∀ a, t.text? a = s.text? a ∨ ∃ e e', s.content? a = some (.formula e) ∧
    t.content? a = some (.formula e') ∧ e.Respells s.SameCell e'

variable {s t : Sheet} {a : Address}

/-- Names stand for the same cells. -/
theorem Respells.cell?_eq (h : s.Respells t) (n : String) : t.cell? n = s.cell? n :=
  cell?_congr (inBounds_congr h.rows h.cols) n

/-- **Cells hold the same,** or formulas with trees of which one respells the other. -/
theorem Respells.content?_cases (h : s.Respells t) (a : Address) :
    (t.content? a = s.content? a ∧ ∀ e, s.content? a ≠ some (.formula e)) ∨
    ∃ e e', s.content? a = some (.formula e) ∧ t.content? a = some (.formula e') ∧
      e.Respells s.SameCell e' := by
  rcases h.cells a with htext | hformulas
  · have hc : t.content? a = s.content? a := by rw [content?, content?, htext]
    by_cases he : ∃ e, s.content? a = some (.formula e)
    · obtain ⟨e, he⟩ := he
      exact .inr ⟨e, e, he, hc.trans he, e.respells_self fun _ => .inl rfl⟩
    · exact .inl ⟨hc, fun e heq => he ⟨e, heq⟩⟩
  · exact .inr hformulas

/-- **References are followed in the same way,** to the same number or error. -/
theorem Respells.descend_eq (h : s.Respells t) (chain : List Address) (k : Nat) (a : Address) :
    t.descend chain k a = s.descend chain k a := by
  rcases h.content?_cases a with ⟨hc, hno⟩ | ⟨e, e', hs, ht, hrespells⟩
  · rw [descend, descend, hc]
    cases hs : s.content? a with
    | none => rfl
    | some content =>
      cases content with
      | formula e => exact absurd hs (hno e)
      | _ => rfl
  · have hdepth := hrespells.depth_eq
    by_cases ha : a ∈ chain
    · rw [descend, descend, hs, ht]
      simp only [ha, if_true]
    by_cases hk : k + (e.depth + 1) ≤ maxDepth
    · have hlook : ∀ n n', s.SameCell n n' → t.lookFrom (a :: chain) (k + (e.depth + 1)) n' =
          s.lookFrom (a :: chain) (k + (e.depth + 1)) n := by
        rintro n n' (rfl | ⟨b, hn, hn'⟩)
        -- a name that no cell has is in the error as it was written, and it is the same in both
        · rw [lookFrom, lookFrom, h.cell?_eq]
          cases s.cell? n with
          | none => rfl
          | some b => exact h.descend_eq _ _ b
        · rw [lookFrom_of_cell? hn, lookFrom_of_cell? ((h.cell?_eq n').trans hn')]
          exact h.descend_eq _ _ b
      rw [descend_formula hs ha hk, descend_formula ht ha (by rwa [hdepth]), hdepth]
      exact hrespells.answer_eq hlook
    · have hk' : ¬ k + (e'.depth + 1) ≤ maxDepth := by rwa [hdepth]
      rw [descend, descend, hs, ht]
      simp only [ha, hk, hk', if_false, dite_false]
termination_by maxDepth - k
decreasing_by all_goals omega

/-- **The value of a cell is the same in every spelling.** -/
theorem Respells.valueOf_eq (h : s.Respells t) (a : Address) : t.valueOf a = s.valueOf a := by
  have hformula : t.isFormula a = s.isFormula a := by
    rcases h.cells a with htext | ⟨e, e', hs, ht, -⟩
    · rw [isFormula, isFormula, htext]
    · exact (isFormula_of_content? ht).trans (isFormula_of_content? hs).symm
  cases hf : s.isFormula a with
  | true =>
    rw [valueOf_of_isFormula (hformula.trans hf), valueOf_of_isFormula hf, h.descend_eq]
  | false =>
    rcases h.cells a with htext | ⟨e, e', hs, -, -⟩
    · exact valueOf_eq_of_not_isFormula htext hf
    · rw [isFormula_of_content? hs] at hf
      cases hf

/-- **How a formula is spelled does not matter.** Texts that are equal but for the case of letters
are parsed to the same tree or the same fault. And a sheet in which formulas are spelled with other
names for the same cells has the same values, errors and the names in them included. -/
theorem parse_eq_and_valueOf_eq_of_respells :
    (∀ cs ds : List Char, cs.map Char.toUpper = ds.map Char.toUpper → parse cs = parse ds) ∧
    ∀ s t : Sheet, s.Respells t → ∀ a, t.valueOf a = s.valueOf a :=
  ⟨fun _ _ => Formula.parse_congr_of_toUpper, fun _ _ => Respells.valueOf_eq⟩

/-- A formula that refers to a cycle of two others. -/
def plain : Sheet := (ofTexts? [["=B1", "=C1", "=B1"]]).getD usual

/-- The same with other names for the cells of the cycle. -/
def fanciful : Sheet := (ofTexts? [["=b01", "= c1", "=B001"]]).getD usual

/-- Outside of both sheets there is nothing to compare. -/
theorem respells_of_addresses (hrows : t.rows = s.rows) (hcols : t.cols = s.cols)
    (h : ∀ a ∈ s.cells.addresses, ∃ e e', s.content? a = some (.formula e) ∧
      t.content? a = some (.formula e') ∧ e.Respells s.SameCell e') : s.Respells t where
  rows := hrows
  cols := hcols
  cells := by
    intro a
    cases ha : s.inBounds a with
    | true => exact .inr (h a (Grid.mem_addresses.2 ha))
    | false =>
      have ht : t.inBounds a = false := (inBounds_congr hrows hcols a).trans ha
      exact .inl (by rw [text?_eq_none ht, text?_eq_none ha])

/-- The formulas of the one are those of the other with other names. -/
theorem plain_respells_fanciful : plain.Respells fanciful := by
  have haddresses : plain.cells.addresses = [⟨0, 0⟩, ⟨0, 1⟩, ⟨0, 2⟩] := by decide +kernel
  refine respells_of_addresses (by decide +kernel) (by decide +kernel) fun a ha => ?_
  rw [haddresses] at ha
  have hsame : ∀ n, plain.cell? n = some ⟨0, 1⟩ → plain.SameCell "B1" n :=
    fun n hn => .inr ⟨⟨0, 1⟩, by decide +kernel, hn⟩
  rcases ha with _ | ⟨_, _ | ⟨_, _ | ⟨_, ha⟩⟩⟩
  · exact ⟨_, _, content?_of_isReference "B1" (by decide +kernel),
      content?_of_isReference "B01" (by decide +kernel),
      .reference (hsame "B01" (by decide +kernel))⟩
  · exact ⟨_, _, content?_of_isReference "C1" (by decide +kernel),
      content?_of_isReference "C1" (by decide +kernel), .reference (.inl rfl)⟩
  · exact ⟨_, _, content?_of_isReference "B1" (by decide +kernel),
      content?_of_isReference "B001" (by decide +kernel),
      .reference (hsame "B001" (by decide +kernel))⟩
  · cases ha

/-- The hypotheses of `parse_eq_and_valueOf_eq_of_respells` hold of two spellings of a text, and of
two spellings of a cycle, in which the same cell is blamed. -/
theorem parse_eq_and_valueOf_eq_fanciful :
    parse "mmin(a1, b2 mod c3".toList = parse "MMin(A1, B2 Mod c3".toList ∧
    plain.Respells fanciful ∧ plain.valueOf ⟨0, 0⟩ = .error (.circular "B1") ∧
    fanciful.valueOf ⟨0, 0⟩ = .error (.circular "B1") := by
  have hplain : plain.valueOf ⟨0, 0⟩ = .error (.circular "B1") :=
    valueOf_of_blamesCycle (by decide +kernel)
  obtain ⟨hparse, hvalue⟩ := parse_eq_and_valueOf_eq_of_respells
  refine ⟨hparse _ _ (by decide), plain_respells_fanciful, hplain, ?_⟩
  rw [hvalue plain fanciful plain_respells_fanciful, hplain]

end Sheet
end FormulaGrid
