/-
# What the numbers of cells mean

The meaning of a cell is found by substitution, without entering anything: a numeral means
its number, and a formula what its tree comes to if every name in it stands for the number
that the named cell means (`Means`, the least relation of this kind). Cells that several
formulas refer to are nothing special to it, and a cell on a cycle means nothing.

`valueOf_eq_number_iff` says that a formula's value is a number exactly if the formula means
that number and every path of references from it is cheap enough. The chain of a context is
there to end the following of cycles, and it ends nothing else.
-/

import FormulaGrid.Proofs.Sheet.Descent

namespace FormulaGrid

open Formula (Expr Evaluation)

/-- The number of a tree whose names all stand for numbers: it is evaluated with a resolver
that knows them and has no state. -/
def Formula.Expr.substitute (known : String → Float) (e : Expr) : Except Formula.Error Float :=
  ((e.evaluate fun n => pure (known n) : Evaluation Unit Float).run.run ()).1

/-- A tree whose names stand for numbers has the answer that evaluation finds. -/
theorem Formula.Expr.substitute_eq (known : String → Float) (e : Expr) :
    e.substitute known = e.answer (fun n => .ok (known n)) id := by
  have hrun : (e.evaluate fun n => pure (known n) : Evaluation Unit Float).run.run () =
      Evaluation.ending (fun err => (err, ())) () (e.answer (fun n => .ok (known n)) id) :=
    evaluate_run id (fun err => (err, ())) (fun _ => rfl) e fun _ _ => rfl
  rw [substitute, hrun]
  cases e.answer (fun n => .ok (known n)) id <;> rfl

namespace Sheet

/-- **The number that a cell means**, every name standing for the number that the cell it
names means. -/
inductive Means (s : Sheet) : Address → Float → Prop
  | numeral {a : Address} {x : Float} : s.content? a = some (.numeral x) → Means s a x
  | formula {a : Address} {e : Expr} {x : Float} (known : String → Float) :
      s.content? a = some (.formula e) →
      (∀ n ∈ e.references, (s.cell? n).isSome) →
      (∀ n ∈ e.references, ∀ b, s.cell? n = some b → Means s b (known n)) →
      e.substitute known = .ok x → Means s a x

/-- The number that a tree means in a sheet, be it the tree of a formula or a part of it. -/
def TreeMeans (s : Sheet) (e : Expr) (x : Float) : Prop :=
  ∃ known : String → Float, (∀ n ∈ e.references, ∃ b, s.cell? n = some b ∧ s.Means b (known n)) ∧
    e.substitute known = .ok x

/-- **Every path of references from a cell is cheap enough:** the formulas on it cost no more
than the depth that references may have. -/
def PathsFit (s : Sheet) (a : Address) : Prop :=
  ∀ path, List.IsChain s.Refers (a :: path) → ((a :: path).map s.cost).sum ≤ maxDepth

/-- A cell that may be needed for a number: a numeral, or a formula that can be parsed and
names only cells of the sheet. -/
def Usable (s : Sheet) (a : Address) : Prop :=
  (∃ x, s.content? a = some (.numeral x)) ∨
    ∃ e, s.content? a = some (.formula e) ∧ ∀ n ∈ e.references, (s.cell? n).isSome

variable {s : Sheet} {a b : Address} {v : Float}

/-- A formula means what its tree means. -/
theorem Means.of_tree {e : Expr} (hc : s.content? a = some (.formula e)) (h : s.TreeMeans e v) :
    s.Means a v := by
  obtain ⟨known, hnames, hv⟩ := h
  refine .formula known hc (fun n hn => ?_) (fun n hn b hb => ?_) hv
  · obtain ⟨b, hb, _⟩ := hnames n hn
    simp [hb]
  · obtain ⟨b', hb', hmeans⟩ := hnames n hn
    obtain rfl : b' = b := by simpa [hb'] using hb
    exact hmeans

/-- A cell that means a number is usable. -/
theorem Means.usable (h : s.Means a v) : s.Usable a := by
  cases h with
  | numeral hc => exact .inl ⟨_, hc⟩
  | formula known hc hcell hmeans hv => exact .inr ⟨_, hc, hcell⟩

/-- **What a meaningful cell refers to is meaningful.** -/
theorem Means.of_refers (h : s.Means a v) (hab : s.Refers a b) : ∃ x, s.Means b x := by
  obtain ⟨e, he, n, hn, hb⟩ := hab
  cases h with
  | numeral hc => simp [hc] at he
  | @formula _ e' x known hc hcell hmeans hv =>
    obtain rfl : e' = e := by simpa [hc] using he
    exact ⟨known n, hmeans n hn b hb⟩

/-- What a meaningful cell leads to is meaningful. -/
theorem Means.of_reaches (h : s.Means a v) (hab : s.Reaches a b) : ∃ x, s.Means b x := by
  induction hab with
  | refl => exact ⟨v, h⟩
  | tail _ hbc ih =>
    obtain ⟨x, hx⟩ := ih
    exact hx.of_refers hbc

/-- **A meaningful cell is on no cycle.** A cycle would pass through a cell referred to, which
is meaningful by a smaller derivation. -/
theorem Means.not_cyclic (h : s.Means a v) : ¬ Relation.TransGen s.Refers a a := by
  induction h with
  | numeral hc =>
    intro hcycle
    obtain ⟨b, ⟨e, he, _⟩, _⟩ := Relation.TransGen.head'_iff.1 hcycle
    simp [hc] at he
  | @formula a e x known hc hcell hmeans hv ih =>
    intro hcycle
    obtain ⟨b, hab, hba⟩ := Relation.TransGen.head'_iff.1 hcycle
    obtain ⟨e', he', n, hn, hb⟩ := id hab
    obtain rfl : e = e' := by simpa [hc] using he'
    exact ih n hn b hb (Relation.TransGen.trans_right hba (.single hab))

/-! ## Numbers are meant -/

/-- A cell without a formula leads no path further. -/
theorem eq_nil_of_isChain_numeral {x : Float} {path : List Address}
    (hc : s.content? a = some (.numeral x)) (h : List.IsChain s.Refers (a :: path)) :
    path = [] := by
  cases path with
  | nil => rfl
  | cons b path =>
    obtain ⟨⟨e, he, _⟩, _⟩ := List.isChain_cons_cons.1 h
    simp [hc] at he

/-- A tree whose number is found means it, if the cells it names mean theirs: a tree has a
number only if every name in it has, so every name is that of a cell. -/
theorem treeMeans_of_answer {ε : Type} {look : String → Except ε Float}
    {raise : Formula.Error → ε} {e : Expr}
    (hnames : ∀ n ∈ e.references, ∀ x, look n = .ok x → ∃ b, s.cell? n = some b ∧ s.Means b x)
    (h : e.answer look raise = .ok v) : s.TreeMeans e v := by
  let known (n : String) : Float := (look n).toOption.getD 0
  have hknown : ∀ n x, look n = .ok x → known n = x := by
    intro n x hx
    simp [known, hx, Except.toOption]
  refine ⟨known, fun n hn => ?_, ?_⟩
  · obtain ⟨x, hx⟩ := Expr.exists_of_answer_ok e h n hn
    rw [hknown n x hx]
    exact hnames n hn x hx
  · rw [Expr.substitute_eq]
    exact Expr.answer_ok_mono e (fun n _ x hx => by rw [hknown n x hx]) h

/-- **A number that is found is meant.** -/
theorem means_of_descend {chain : List Address} {k : Nat} {a : Address} {v : Float}
    (h : s.descend chain k a = .ok v) : s.Means a v := by
  obtain ⟨_, hc | ⟨e, hc, hk, hv⟩⟩ := descend_ok_cases h
  · exact .numeral hc
  refine .of_tree hc (treeMeans_of_answer (fun n _ x hx => ?_) hv)
  obtain ⟨b, hb, hx⟩ := lookFrom_eq_ok_iff.1 hx
  exact ⟨b, hb, means_of_descend hx⟩
termination_by maxDepth - k
decreasing_by omega

/-- The number found for a part of a formula is meant by it. -/
theorem treeMeans_of_lookFrom {chain : List Address} {k : Nat} {e : Expr}
    {raise : Formula.Error → Halt} (h : e.answer (s.lookFrom chain k) raise = .ok v) :
    s.TreeMeans e v := by
  refine treeMeans_of_answer (fun n _ x hx => ?_) h
  obtain ⟨b, hb, hx⟩ := lookFrom_eq_ok_iff.1 hx
  exact ⟨b, hb, means_of_descend hx⟩

/-- **A number is found within the depth** of every path from its cell. -/
theorem sum_le_of_descend {chain path : List Address} {k : Nat} {a : Address} {v : Float}
    (hk : k ≤ maxDepth) (h : s.descend chain k a = .ok v)
    (hpath : List.IsChain s.Refers (a :: path)) :
    k + ((a :: path).map s.cost).sum ≤ maxDepth := by
  obtain ⟨_, hc | ⟨e, hc, hke, hv⟩⟩ := descend_ok_cases h
  · obtain rfl := eq_nil_of_isChain_numeral hc hpath
    simpa [cost, hc, Cell.Content.cost] using hk
  cases path with
  | nil => simpa [cost_of_formula hc] using hke
  | cons b path =>
    obtain ⟨⟨e', he', n, hn, hb⟩, hrest⟩ := List.isChain_cons_cons.1 hpath
    obtain rfl : e = e' := by simpa [hc] using he'
    obtain ⟨x, hx⟩ := Expr.exists_of_answer_ok e hv n hn
    rw [lookFrom_of_cell? hb] at hx
    have hsum := sum_le_of_descend hke hx hrest
    rw [List.map_cons, List.sum_cons, cost_of_formula hc]
    omega
termination_by maxDepth - k
decreasing_by omega

/-! ## What is meant is found -/

/-- **A number that is meant is found** where the cells that wait all lead to its cell and the
depth suffices for every path from it. None of them is met again, as that would be a cycle. -/
theorem descend_of_means {chain : List Address} {k : Nat} (h : s.Means a v)
    (hchain : ∀ b ∈ chain, Relation.TransGen s.Refers b a)
    (hfit : ∀ path, List.IsChain s.Refers (a :: path) →
      k + ((a :: path).map s.cost).sum ≤ maxDepth) :
    s.descend chain k a = .ok v := by
  have ha : a ∉ chain := fun ha => h.not_cyclic (hchain a ha)
  induction h generalizing chain k with
  | numeral hc => exact descend_numeral hc ha
  | @formula a e x known hc hcell hmeans hv ih =>
    have hk : k + (e.depth + 1) ≤ maxDepth := by
      simpa [cost_of_formula hc] using hfit [] (.singleton a)
    rw [descend_formula hc ha hk]
    rw [Expr.substitute_eq] at hv
    refine Expr.answer_ok_mono e (fun n hn x hx => ?_) hv
    obtain rfl : known n = x := by simpa using hx
    obtain ⟨b, hb⟩ := Option.isSome_iff_exists.1 (hcell n hn)
    have hab : s.Refers a b := ⟨e, hc, n, hn, hb⟩
    have hchain' : ∀ d ∈ a :: chain, Relation.TransGen s.Refers d b := by
      intro d hd
      rcases List.mem_cons.1 hd with rfl | hd
      · exact .single hab
      · exact (hchain d hd).tail hab
    rw [lookFrom_of_cell? hb]
    refine ih n hn b hb hchain' (fun path hpath => ?_) fun hb' =>
      (hmeans n hn b hb).not_cyclic (hchain' b hb')
    have hsum := hfit (b :: path) (.cons_cons hab hpath)
    rw [List.map_cons, List.sum_cons, cost_of_formula hc] at hsum
    omega

/-! ## Numbers as values -/

/-- **A formula's value is a number exactly if the formula means it** and every path of
references from the cell fits the depth. Then everything the cell leads to is usable and on no
cycle; whether a cell is referred to once or often does not matter. -/
theorem valueOf_eq_number_iff (s : Sheet) (a : Address) (h : s.isFormula a = true) :
    (∀ v, s.valueOf a = .number v ↔ s.Means a v ∧ s.PathsFit a) ∧
      ∀ v, s.valueOf a = .number v → ∀ b, s.Reaches a b →
        s.Usable b ∧ ¬ Relation.TransGen s.Refers b b := by
  have hiff : ∀ v, s.valueOf a = .number v ↔ s.Means a v ∧ s.PathsFit a := by
    intro v
    have hvalue : s.valueOf a = .number v ↔ s.descend [] 0 a = .ok v := by
      rw [valueOf_of_isFormula h]
      cases s.descend [] 0 a <;> simp
    rw [hvalue]
    constructor
    · intro hv
      refine ⟨means_of_descend hv, fun path hpath => ?_⟩
      have hsum := sum_le_of_descend (Nat.zero_le _) hv hpath
      omega
    · rintro ⟨hmeans, hfit⟩
      refine descend_of_means hmeans (by simp) fun path hpath => ?_
      have hsum := hfit path hpath
      omega
  refine ⟨hiff, fun v hv b hab => ?_⟩
  obtain ⟨x, hx⟩ := ((hiff v).1 hv).1.of_reaches hab
  exact ⟨hx.usable, hx.not_cyclic⟩

/-- A cell that is needed twice by the last one, by its own formula and by one it refers to. -/
def diamond : Sheet := (ofTexts? [["2", "=A1*3"], ["=A1+B1", "=A2+B1"]]).getD usual

/-- The hypothesis of `valueOf_eq_number_iff` holds of the last cell of a diamond, and its value
is a number. -/
theorem valueOf_diamond_eq_number_iff : diamond.isFormula ⟨1, 1⟩ = true ∧
    (∃ v, diamond.valueOf ⟨1, 1⟩ = .number v ∧ diamond.Means ⟨1, 1⟩ v ∧
      diamond.PathsFit ⟨1, 1⟩) ∧
    (∀ v, diamond.valueOf ⟨1, 1⟩ = .number v ↔ diamond.Means ⟨1, 1⟩ v ∧ diamond.PathsFit ⟨1, 1⟩) ∧
      ∀ v, diamond.valueOf ⟨1, 1⟩ = .number v → ∀ b, diamond.Reaches ⟨1, 1⟩ b →
        diamond.Usable b ∧ ¬ Relation.TransGen diamond.Refers b b := by
  have h : diamond.isFormula ⟨1, 1⟩ = true := by decide +kernel
  obtain ⟨hiff, hreached⟩ := valueOf_eq_number_iff diamond ⟨1, 1⟩ h
  obtain ⟨v, hv⟩ : ∃ v, diamond.valueOf ⟨1, 1⟩ = .number v := by
    have hok : (diamond.descend [] 0 ⟨1, 1⟩).isOk = true := by decide +kernel
    rw [valueOf_of_isFormula h]
    cases hx : diamond.descend [] 0 ⟨1, 1⟩ with
    | ok x => exact ⟨x, rfl⟩
    | error halt =>
      rw [hx] at hok
      cases hok
  exact ⟨h, ⟨v, hv, (hiff v).1 hv⟩, hiff, hreached⟩

end Sheet
end FormulaGrid
