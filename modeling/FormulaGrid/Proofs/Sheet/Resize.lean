/-
# What growing and shrinking does to values

A sheet that gets a row or a column has the sheet before it as a part (`PartOf`): all cells of the
part are there with their texts, but some names that stood for no cell stand for one now.

References are followed in both sheets in the same way up to the first such name. In the part that
name is an error, and the first error is the answer, through whatever operators, calls and other
cells it was asked for. So the two answers are the same, or the one in the part is this error
(`PartOf.descend_cases`); what the larger sheet answers then is decided by the cell that the name
stands for there.

`value_resized` states it of the values that are stored. A new cell is empty, so that where a value
changes by growing one error takes the place of another; and to grow and to shrink again is to
change nothing.
-/

import FormulaGrid.Proofs.Formula.Stop
import FormulaGrid.Proofs.Sheet.Extent

namespace FormulaGrid
namespace Sheet

open Formula (Expr Keeps)

/-- **One sheet is part of another:** the other has its cells, with their texts. -/
def PartOf (s t : Sheet) : Prop := ∀ a, s.inBounds a = true → t.text? a = s.text? a

/-- **Two answers part:** that in the part of a sheet is an error, which names a cell of the whole
sheet only. The name is in a formula that the cell `a` leads to. An error of the named cell is the
answer in the whole sheet then. -/
inductive Parts (s t : Sheet) (a : Address) (found found' : Except Halt Float) : Prop
  | mk (n : String) (b c : Address) (chain : List Address) (k : Nat) :
      s.Reaches a c → n ∈ s.names c → s.cell? n = none → t.cell? n = some b →
      (∀ d ∈ chain, s.inBounds d = true) → found = .error ⟨.outOfRange n, chain⟩ →
      (∀ halt, t.descend chain k b = .error halt → found' = .error halt) →
      Parts s t a found found'

/-- **What a sheet keeps when it grows** by some cells: every value but errors that name one of
them, and these become errors that say that the cell holds no number. -/
def KeepsGrowing (s t : Sheet) (new : Address → Prop) : Prop :=
  ∀ a, s.inBounds a = true → t.value a = s.value a ∨
    ∃ n b, Address.ofName? n = some b ∧ new b ∧
      s.value a = .error (.outOfRange n) ∧ t.value a = .error (.notANumber b.name)

/-- **What a sheet keeps when it shrinks** by some cells: every value but those that become errors
which name one of them, in the spelling of a formula that the cell leads to. -/
def KeepsShrinking (s t : Sheet) (gone : Address → Prop) : Prop :=
  ∀ a, t.inBounds a = true → t.value a = s.value a ∨
    ∃ n b c, Address.ofName? n = some b ∧ gone b ∧ t.Reaches a c ∧ n ∈ t.names c ∧
      t.value a = .error (.outOfRange n)

variable {s t : Sheet} {a b : Address} {rows cols : Nat}

/-! ## Parts -/

/-- The text of a cell that exists. -/
theorem text?_of_inBounds (h : s.inBounds a = true) : s.text? a = some (s.text a) := by
  obtain ⟨x, hx⟩ := Option.isSome_iff_exists.1 ((s.isSome_text? a).trans h)
  rw [Sheet.text, hx]
  rfl

/-- The cells of the part are cells of the whole. -/
theorem PartOf.inBounds (h : s.PartOf t) (ha : s.inBounds a = true) : t.inBounds a = true := by
  rw [← isSome_text?, h a ha, isSome_text?, ha]

/-- A name of a cell of the part stands for it in the whole. -/
theorem PartOf.cell?_eq {n : String} (h : s.PartOf t) (hb : s.cell? n = some b) :
    t.cell? n = some b := by
  obtain ⟨hname, hin⟩ := cell?_eq_some_iff.1 hb
  exact cell?_eq_some_iff.2 ⟨hname, h.inBounds hin⟩

/-- A name of a cell of the whole only is that of a cell outside the part. -/
theorem inBounds_of_cell? {n : String} (hs : s.cell? n = none) (ht : t.cell? n = some b) :
    Address.ofName? n = some b ∧ t.inBounds b = true ∧ s.inBounds b = false := by
  obtain ⟨hname, hin⟩ := cell?_eq_some_iff.1 ht
  refine ⟨hname, hin, ?_⟩
  cases hb : s.inBounds b with
  | false => rfl
  | true => rw [cell?_eq_some_iff.2 ⟨hname, hb⟩] at hs; cases hs

/-- A sheet that was not made smaller has what it was as a part. -/
theorem Resized.partOf (h : s.Resized t rows cols) (hrows : s.rows ≤ rows) (hcols : s.cols ≤ cols) :
    s.PartOf t := by
  intro a ha
  have hin : t.inBounds a = true := by
    obtain ⟨hrow, hcol⟩ := inBounds_iff.1 ha
    exact inBounds_iff.2 ⟨h.rows ▸ Nat.lt_of_lt_of_le hrow hrows,
      h.cols ▸ Nat.lt_of_lt_of_le hcol hcols⟩
  rw [text?_of_inBounds hin, text?_of_inBounds ha, h.text a hin]

/-- A sheet that was not made larger is a part of what it was. -/
theorem Resized.partOf_symm (h : s.Resized t rows cols) (hrows : rows ≤ s.rows)
    (hcols : cols ≤ s.cols) : t.PartOf s := by
  intro a ha
  have hin : s.inBounds a = true := by
    obtain ⟨hrow, hcol⟩ := inBounds_iff.1 ha
    rw [h.rows] at hrow
    rw [h.cols] at hcol
    exact inBounds_iff.2 ⟨Nat.lt_of_lt_of_le hrow hrows, Nat.lt_of_lt_of_le hcol hcols⟩
  rw [text?_of_inBounds hin, text?_of_inBounds ha, h.text a ha]

/-- A cell that a sheet did not have before is empty. -/
theorem Resized.content?_new (h : s.Resized t rows cols) (hb : t.inBounds b = true)
    (hnew : s.inBounds b = false) : t.content? b = some .word := by
  have hempty : t.text b = "" := by rw [h.text b hb, Sheet.text, text?_eq_none hnew]; rfl
  have hword : Cell.content "" = .word := Cell.content_eq_word_iff.2 ⟨by decide, by decide⟩
  rw [content?, text?_of_inBounds hb, hempty, Option.map_some, hword]

/-! ## Where answers part -/

/-- What parts below a cell that is referred to parts below the cell that refers to it. -/
theorem Parts.of_refers {found found' : Except Halt Float} (hab : s.Refers a b)
    (h : s.Parts t b found found') : s.Parts t a found found' := by
  obtain ⟨n, d, c, chain, k, hreach, hn, hs, ht, hchain, herr, hnext⟩ := h
  exact ⟨n, d, c, chain, k, .head hab hreach, hn, hs, ht, hchain, herr, hnext⟩

/-- Answers part at an error. -/
theorem Parts.ne_ok {found found' : Except Halt Float} (h : s.Parts t a found found') (v : Float) :
    found ≠ .ok v := by
  obtain ⟨n, b, c, chain, k, -, -, -, -, -, herr, -⟩ := h
  rw [herr]
  exact nofun

/-- A name in a formula of the part stands for the same, or the answers part, if they do so for the
cells of the part. -/
theorem PartOf.lookFrom_cases {chain : List Address} {k : Nat} {e : Expr} {n : String}
    (h : s.PartOf t) (hc : s.content? a = some (.formula e)) (hn : n ∈ e.references)
    (hchain : ∀ d ∈ chain, s.inBounds d = true)
    (hcells : ∀ b, s.inBounds b = true → t.descend chain k b = s.descend chain k b ∨
      s.Parts t b (s.descend chain k b) (t.descend chain k b)) :
    t.lookFrom chain k n = s.lookFrom chain k n ∨
      s.Parts t a (s.lookFrom chain k n) (t.lookFrom chain k n) := by
  cases hb : s.cell? n with
  | some b =>
    have hab : s.Refers a b := ⟨e, hc, n, hn, hb⟩
    rw [lookFrom_of_cell? hb, lookFrom_of_cell? (h.cell?_eq hb)]
    exact (hcells b hab.inBounds).imp_right (Parts.of_refers hab)
  | none =>
    cases hb' : t.cell? n with
    | none =>
      left
      rw [lookFrom, lookFrom, hb, hb']
    | some b =>
      right
      refine ⟨n, b, a, chain, k, .refl, names_of_formula hc ▸ hn, hb, hb', hchain, ?_,
        fun halt hhalt => ?_⟩
      · rw [lookFrom, hb]
      · rw [lookFrom_of_cell? hb', hhalt]

/-- **A reference is followed in the same way in a part and in the whole,** or the answers part. The
cells that wait are those of the part. -/
theorem PartOf.descend_cases {chain : List Address} {k : Nat} {a : Address} (h : s.PartOf t)
    (ha : s.inBounds a = true) (hchain : ∀ d ∈ chain, s.inBounds d = true) :
    t.descend chain k a = s.descend chain k a ∨
      s.Parts t a (s.descend chain k a) (t.descend chain k a) := by
  have hcontent : t.content? a = s.content? a := by rw [content?, content?, h a ha]
  by_cases hformula : a ∉ chain ∧ ∃ e, s.content? a = some (.formula e) ∧
      k + (e.depth + 1) ≤ maxDepth
  · obtain ⟨hmem, e, hc, hk⟩ := hformula
    rw [descend_formula (hcontent.trans hc) hmem hk, descend_formula hc hmem hk]
    have hchain' : ∀ d ∈ a :: chain, s.inBounds d = true := List.forall_mem_cons.2 ⟨ha, hchain⟩
    have hlook := fun n (hn : n ∈ e.references) =>
      h.lookFrom_cases (k := k + (e.depth + 1)) hc hn hchain' fun b hb => h.descend_cases hb hchain'
    -- where a name has a number in the part, the answers have not parted
    have hkeeps : Keeps e.references (s.lookFrom (a :: chain) (k + (e.depth + 1)))
        (t.lookFrom (a :: chain) (k + (e.depth + 1))) := by
      intro n hn v hv
      rcases hlook n hn with heq | hparts
      · rw [heq, hv]
      · exact absurd hv (hparts.ne_ok v)
    refine (Expr.answer_eq_or_parts e hkeeps).imp_right ?_
    rintro ⟨n, hn, hne, hs, ht⟩
    obtain ⟨m, b, c, chain', k', hreach, hm, hnone, hsome, hin, herr, hnext⟩ :=
      (hlook n hn).resolve_left hne
    exact ⟨m, b, c, chain', k', hreach, hm, hnone, hsome, hin, hs.trans herr,
      fun halt hhalt => ht _ (hnext halt hhalt)⟩
  · left
    rw [descend, descend, hcontent]
    cases hc : s.content? a with
    | none => rfl
    | some content =>
      by_cases hmem : a ∈ chain
      · simp only [hmem, if_true]
      cases content with
      | formula e =>
        have hk : ¬ k + (e.depth + 1) ≤ maxDepth := fun hk => hformula ⟨hmem, e, hc, hk⟩
        simp only [hk, dite_false]
      | _ => rfl
termination_by maxDepth - k
decreasing_by omega

/-- **The value of a cell of a part** is that in the whole, or an error whose name stands for a cell
of the whole only. -/
theorem PartOf.valueOf_cases (h : s.PartOf t) (ha : s.inBounds a = true) :
    t.valueOf a = s.valueOf a ∨ ∃ n b c, s.cell? n = none ∧ t.cell? n = some b ∧
      s.Reaches a c ∧ n ∈ s.names c ∧ s.valueOf a = .error (.outOfRange n) ∧
      (t.content? b = some .word → t.valueOf a = .error (.notANumber b.name)) := by
  have hformula : t.isFormula a = s.isFormula a := by rw [isFormula, isFormula, h a ha]
  cases hf : s.isFormula a with
  | false => exact .inl (valueOf_eq_of_not_isFormula (h a ha) hf)
  | true =>
    rw [valueOf_of_isFormula (hformula.trans hf), valueOf_of_isFormula hf]
    rcases h.descend_cases (k := 0) ha (List.forall_mem_nil (s.inBounds · = true)) with
      heq | ⟨n, b, c, chain, k, hreach, hn, hnone, hsome, hin, herr, hnext⟩
    · exact .inl (by rw [heq])
    · refine .inr ⟨n, b, c, hnone, hsome, hreach, hn, by rw [herr], fun hword => ?_⟩
      have hb : b ∉ chain := by
        intro hb
        have hout := (inBounds_of_cell? hnone hsome).2.2
        rw [hin b hb] at hout
        cases hout
      have hhalt : t.descend chain k b = .error ⟨.notANumber b.name, chain⟩ := by
        rw [descend, hword]
        simp only [hb, if_false]
      rw [hnext _ hhalt]

/-! ## Growing and shrinking -/

/-- What a settled sheet keeps when it grows. -/
theorem Resized.keepsGrowing {new : Address → Prop} (h : s.Resized t rows cols) (hs : s.Settled)
    (ht : t.Settled) (hrows : s.rows ≤ rows) (hcols : s.cols ≤ cols)
    (hnew : ∀ b, t.inBounds b = true → s.inBounds b = false → new b) : s.KeepsGrowing t new := by
  intro a ha
  rw [hs a, ht a]
  refine ((h.partOf hrows hcols).valueOf_cases ha).imp_right ?_
  rintro ⟨n, b, c, hnone, hsome, -, -, herr, hword⟩
  obtain ⟨hname, hin, hout⟩ := inBounds_of_cell? hnone hsome
  exact ⟨n, b, hname, hnew b hin hout, herr, hword (h.content?_new hin hout)⟩

/-- What a settled sheet keeps when it shrinks. -/
theorem Resized.keepsShrinking {gone : Address → Prop} (h : s.Resized t rows cols)
    (hs : s.Settled) (ht : t.Settled) (hrows : rows ≤ s.rows) (hcols : cols ≤ s.cols)
    (hgone : ∀ b, s.inBounds b = true → t.inBounds b = false → gone b) :
    s.KeepsShrinking t gone := by
  intro a ha
  rw [hs a, ht a]
  refine ((h.partOf_symm hrows hcols).valueOf_cases ha).imp Eq.symm ?_
  rintro ⟨n, b, c, hnone, hsome, hreach, hn, herr, -⟩
  obtain ⟨hname, hin, hout⟩ := inBounds_of_cell? hnone hsome
  exact ⟨n, b, c, hname, hgone b hin hout, hreach, hn, herr⟩

/-- A row can be deleted if there is another. -/
theorem exists_deleteRow?_iff : (∃ t, s.deleteRow? = some t) ↔ 1 < s.rows := by
  rw [← Option.isSome_iff_exists, ← Option.ne_none_iff_isSome, ne_eq, deleteRow?_eq_none_iff,
    not_not]

/-- A column can be deleted if there is another. -/
theorem exists_deleteColumn?_iff : (∃ t, s.deleteColumn? = some t) ↔ 1 < s.cols := by
  rw [← Option.isSome_iff_exists, ← Option.ne_none_iff_isSome, ne_eq, deleteColumn?_eq_none_iff,
    not_not]

/-- A sheet that has lost a row is settled. -/
theorem settled_of_deleteRow? (h : s.deleteRow? = some t) : t.Settled := by
  obtain ⟨g, -, rfl⟩ := Option.map_eq_some_iff.1 h
  exact settled_recalculate _

/-- A sheet that has lost a column is settled. -/
theorem settled_of_deleteColumn? (h : s.deleteColumn? = some t) : t.Settled := by
  obtain ⟨g, -, rfl⟩ := Option.map_eq_some_iff.1 h
  exact settled_recalculate _

/-- A settled sheet that was grown and shrunk again is the same. -/
theorem Settled.eq_of_resized {u : Sheet} {rows' cols' : Nat} (hs : s.Settled) (hu : u.Settled)
    (h : s.Resized t rows cols) (h' : t.Resized u rows' cols') (hrows : u.rows = s.rows)
    (hcols : u.cols = s.cols) (hin : ∀ a, u.inBounds a = true → t.inBounds a = true) : u = s := by
  have hbounds := inBounds_congr hrows hcols
  refine hs.ext hu (fun a => ?_) (h'.view.trans h.view)
  cases ha : u.inBounds a with
  | true =>
    rw [text?_of_inBounds ha, text?_of_inBounds (hbounds a ▸ ha), h'.text a ha, h.text a (hin a ha)]
  | false => rw [text?_eq_none ha, text?_eq_none (hbounds a ▸ ha)]

/-- **A change of the extent changes no more values than it must.** After a row or a column was
added every cell has the value that it had, unless this was an error that names one of the new
cells. After one was deleted every cell that is left has the value that it had, or an error that
names one of the cells that are gone, as a formula spells it. And to add a row or a column and to
delete it again gives back the sheet. -/
theorem value_resized (s : Sheet) (h : s.Settled) :
    s.KeepsGrowing s.addRow (fun b => b.row = s.rows ∧ b.col < s.cols) ∧
    s.KeepsGrowing s.addColumn (fun b => b.row < s.rows ∧ b.col = s.cols) ∧
    (∀ t, s.deleteRow? = some t →
      s.KeepsShrinking t fun b => b.row = t.rows ∧ b.col < s.cols) ∧
    (∀ t, s.deleteColumn? = some t →
      s.KeepsShrinking t fun b => b.row < s.rows ∧ b.col = t.cols) ∧
    s.addRow.deleteRow? = some s ∧ s.addColumn.deleteColumn? = some s := by
  have hrow := s.resized_addRow
  have hcolumn := s.resized_addColumn
  refine ⟨?_, ?_, fun t ht => ?_, fun t ht => ?_, ?_, ?_⟩
  · refine hrow.keepsGrowing h (settled_recalculate _) (Nat.le_succ _) le_rfl fun b hin hout => ?_
    rw [inBounds_iff, hrow.rows, hrow.cols] at hin
    rw [← Bool.not_eq_true, inBounds_iff] at hout
    omega
  · refine hcolumn.keepsGrowing h (settled_recalculate _) le_rfl (Nat.le_succ _)
      fun b hin hout => ?_
    rw [inBounds_iff, hcolumn.rows, hcolumn.cols] at hin
    rw [← Bool.not_eq_true, inBounds_iff] at hout
    omega
  · obtain ⟨-, hresized⟩ := resized_of_deleteRow? ht
    refine hresized.keepsShrinking h (settled_of_deleteRow? ht) (Nat.sub_le _ _) le_rfl
      fun b hin hout => ?_
    rw [inBounds_iff] at hin
    rw [← Bool.not_eq_true, inBounds_iff, hresized.rows, hresized.cols] at hout
    rw [hresized.rows]
    omega
  · obtain ⟨-, hresized⟩ := resized_of_deleteColumn? ht
    refine hresized.keepsShrinking h (settled_of_deleteColumn? ht) le_rfl (Nat.sub_le _ _)
      fun b hin hout => ?_
    rw [inBounds_iff] at hin
    rw [← Bool.not_eq_true, inBounds_iff, hresized.rows, hresized.cols] at hout
    rw [hresized.cols]
    omega
  · have hrows : 1 < s.addRow.rows := by
      rw [hrow.rows]
      exact Nat.succ_lt_succ s.cells.rows_pos
    obtain ⟨u, hu⟩ := exists_deleteRow?_iff.2 hrows
    obtain ⟨-, hresized⟩ := resized_of_deleteRow? hu
    rw [hu, h.eq_of_resized (settled_of_deleteRow? hu) hrow hresized]
    · rw [hresized.rows, hrow.rows, Nat.add_sub_cancel]
    · rw [hresized.cols, hrow.cols]
    · exact fun a ha => (hresized.partOf_symm (Nat.sub_le _ _) le_rfl).inBounds ha
  · have hcols : 1 < s.addColumn.cols := by
      rw [hcolumn.cols]
      exact Nat.succ_lt_succ s.cells.cols_pos
    obtain ⟨u, hu⟩ := exists_deleteColumn?_iff.2 hcols
    obtain ⟨-, hresized⟩ := resized_of_deleteColumn? hu
    rw [hu, h.eq_of_resized (settled_of_deleteColumn? hu) hcolumn hresized]
    · rw [hresized.rows, hcolumn.rows]
    · rw [hresized.cols, hcolumn.cols, Nat.add_sub_cancel]
    · exact fun a ha => (hresized.partOf_symm le_rfl (Nat.sub_le _ _)).inBounds ha

/-- Formulas that name cells of the last row and column, and cells of a third row and column, which
the sheet does not have. -/
def frayed : Sheet := ((ofTexts? [["=A3", "=b2+C1"], ["=B1", "7"]]).getD usual).recalculate

/-- The hypotheses of `value_resized` hold of a sheet in which every change of the extent changes
values. -/
theorem value_resized_frayed : frayed.Settled ∧
    frayed.KeepsGrowing frayed.addRow (fun b => b.row = frayed.rows ∧ b.col < frayed.cols) ∧
    frayed.KeepsGrowing frayed.addColumn (fun b => b.row < frayed.rows ∧ b.col = frayed.cols) ∧
    (∃ t, frayed.deleteRow? = some t ∧
      frayed.KeepsShrinking t fun b => b.row = t.rows ∧ b.col < frayed.cols) ∧
    (∃ t, frayed.deleteColumn? = some t ∧
      frayed.KeepsShrinking t fun b => b.row < frayed.rows ∧ b.col = t.cols) ∧
    frayed.addRow.deleteRow? = some frayed ∧ frayed.addColumn.deleteColumn? = some frayed := by
  have hsettled : frayed.Settled := settled_recalculate _
  obtain ⟨hrow, hcolumn, hrowless, hcolumnless, hback⟩ := value_resized frayed hsettled
  obtain ⟨t, ht⟩ : ∃ t, frayed.deleteRow? = some t := exists_deleteRow?_iff.2 (by decide +kernel)
  obtain ⟨u, hu⟩ : ∃ u, frayed.deleteColumn? = some u :=
    exists_deleteColumn?_iff.2 (by decide +kernel)
  exact ⟨hsettled, hrow, hcolumn, ⟨t, ht, hrowless t ht⟩, ⟨u, hu, hcolumnless u hu⟩, hback⟩

end Sheet
end FormulaGrid
