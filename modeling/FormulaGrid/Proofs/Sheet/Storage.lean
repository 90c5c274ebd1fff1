/-
# Sheets that are saved and loaded

A document is loaded exactly if it spells a rectangle of texts, and the sheet then has these texts
(`load_iff_rectangle`). What is saved is such a document, so it can always be loaded, and it is the
same for two sheets exactly if their texts are (`load_ofSheet`).

What a sheet holds besides its texts is not in a document. The view stays that of the sheet that
loads, and the values are computed anew: a loaded sheet is settled. A file is loaded if it can be
read and its content is (`exists_loadFrom_iff`).
-/

import FormulaGrid.Proofs.Document.Reading
import FormulaGrid.Proofs.Sheet.History

namespace FormulaGrid

/-- **A file spells a rectangle of texts.** -/
def Disk.Spells (d : Disk) (path : String) (rows : List (List String)) : Prop :=
  ∃ doc, d.read path = .ok doc ∧ Document.Spells doc rows ∧ ∃ n m, Grid.IsRectangle n m rows

namespace Sheet

open Text (Bytes)

variable {s t : Sheet} {doc doc' : Bytes} {rows : List (List String)}

/-! ## Texts of sheets -/

/-- The texts of a sheet are a rectangle. -/
theorem isRectangle_texts (s : Sheet) : Grid.IsRectangle s.rows s.cols s.texts := by
  have hrect := (s.cells.map Cell.text).isRectangle_toLists
  rwa [Grid.rows_map] at hrect

/-- A sheet that was made of texts has them. -/
theorem texts_of_ofTexts? (h : ofTexts? rows = some s) : s.texts = rows := by
  obtain ⟨g, hg, rfl⟩ := Option.map_eq_some_iff.1 h
  have hmap : (g.map Cell.ofText).map Cell.text = g := by
    refine Grid.ext_get? fun a => ?_
    rw [Grid.get?_map, Grid.get?_map, Option.map_map]
    exact Option.map_id' ..
  rw [texts, hmap]
  exact Grid.toLists_of_ofLists? hg

/-- A sheet can be made of texts that are a rectangle. -/
theorem exists_ofTexts?_iff :
    (∃ s, ofTexts? rows = some s) ↔ ∃ n m, Grid.IsRectangle n m rows := by
  rw [← Grid.exists_ofLists?_iff]
  constructor
  · rintro ⟨s, h⟩
    obtain ⟨g, hg, -⟩ := Option.map_eq_some_iff.1 h
    exact ⟨g, hg⟩
  · rintro ⟨g, hg⟩
    exact ⟨_, Option.map_eq_some_iff.2 ⟨g, hg, rfl⟩⟩

/-- The texts taken over are those of the other sheet. -/
theorem texts_replaceCells (s other : Sheet) : (s.replaceCells other).texts = other.texts :=
  texts_congr (text?_recalculate _)

/-! ## Loading -/

/-- **A document is loaded** as the sheet with the texts that it spells, settled, in the old
view. -/
theorem load_eq_ok_iff : s.load doc = .ok t ↔
    Document.Spells doc t.texts ∧ t.formulaView = s.formulaView ∧ t.Settled := by
  have hload : ∀ {u}, s.load doc = .ok u ↔
      ∃ other, Document.sheet doc = .ok other ∧ s.replaceCells other = u := by
    intro u
    rw [load]
    cases Document.sheet doc <;> simp
  constructor
  · intro h
    obtain ⟨other, hsheet, rfl⟩ := hload.1 h
    obtain ⟨rows, hspells, hrows⟩ := Document.sheet_eq_ok_iff.1 hsheet
    rw [texts_replaceCells, texts_of_ofTexts? hrows]
    exact ⟨hspells, formulaView_recalculate _, settled_recalculate _⟩
  · rintro ⟨hspells, hview, hsettled⟩
    obtain ⟨other, hrows⟩ := exists_ofTexts?_iff.2 ⟨_, _, t.isRectangle_texts⟩
    have hsheet := Document.sheet_eq_ok_iff.2 ⟨_, hspells, hrows⟩
    refine hload.2 ⟨other, hsheet, hsettled.ext (settled_recalculate _) ?_ ?_⟩
    · exact text?_congr ((texts_replaceCells s other).trans (texts_of_ofTexts? hrows))
    · exact (formulaView_recalculate _).trans hview.symm

/-- A document can be loaded if it spells a rectangle. -/
theorem exists_load_iff : (∃ t, s.load doc = .ok t) ↔
    ∃ rows n m, Document.Spells doc rows ∧ Grid.IsRectangle n m rows := by
  constructor
  · rintro ⟨t, h⟩
    exact ⟨t.texts, t.rows, t.cols, (load_eq_ok_iff.1 h).1, t.isRectangle_texts⟩
  · rintro ⟨rows, n, m, hspells, hrect⟩
    obtain ⟨other, hrows⟩ := exists_ofTexts?_iff.2 ⟨n, m, hrect⟩
    have hsheet := Document.sheet_eq_ok_iff.2 ⟨_, hspells, hrows⟩
    exact ⟨s.replaceCells other, by rw [load, hsheet]⟩

/-- **Loading accepts exactly the rectangles of strings.** It answers a sheet if and only if the
document spells a rectangle; the sheet has the extent and the texts of the rectangle, the view of
the sheet that loads, and nothing to recalculate. Otherwise the document is refused as corrupt and
the sheet stays as it was. Two documents are loaded as one sheet exactly if they spell one
rectangle. -/
theorem load_iff_rectangle (s : Sheet) (doc : Bytes) :
    (∀ t, s.load doc = .ok t ↔ ∃ rows, Document.Spells doc rows ∧
      Grid.IsRectangle t.rows t.cols rows ∧ t.texts = rows ∧ t.formulaView = s.formulaView ∧
      ∀ a, t.value a = t.valueOf a) ∧
    ((∃ t, s.load doc = .ok t) ↔
      ∃ rows n m, Document.Spells doc rows ∧ Grid.IsRectangle n m rows) ∧
    ((∃ reason, s.load doc = .error (.corrupt reason) ∧ Edit.apply s (.load doc) = s) ↔
      ¬ ∃ rows n m, Document.Spells doc rows ∧ Grid.IsRectangle n m rows) ∧
    ∀ doc', (∃ t, s.load doc = .ok t ∧ s.load doc' = .ok t) ↔
      ∃ rows n m, Document.Spells doc rows ∧ Document.Spells doc' rows ∧
        Grid.IsRectangle n m rows := by
  refine ⟨fun t => ?_, exists_load_iff, ?_, fun doc' => ?_⟩
  · rw [load_eq_ok_iff]
    constructor
    · rintro ⟨hspells, hview, hsettled⟩
      exact ⟨_, hspells, t.isRectangle_texts, rfl, hview, hsettled⟩
    · rintro ⟨_, hspells, -, rfl, hview, hsettled⟩
      exact ⟨hspells, hview, hsettled⟩
  · rw [← exists_load_iff (s := s), Edit.apply]
    cases hload : s.load doc with
    | ok t => simp
    | error e =>
      have hcorrupt : ∃ reason, e = .corrupt reason := by
        rw [load] at hload
        split at hload
        · cases hload
        · cases hload
          exact ⟨_, rfl⟩
      obtain ⟨reason, rfl⟩ := hcorrupt
      simp
  · constructor
    · rintro ⟨t, h, h'⟩
      exact ⟨t.texts, t.rows, t.cols, (load_eq_ok_iff.1 h).1, (load_eq_ok_iff.1 h').1,
        t.isRectangle_texts⟩
    · rintro ⟨rows, n, m, hspells, hspells', hrect⟩
      obtain ⟨t, h⟩ := (exists_load_iff (s := s)).2 ⟨rows, n, m, hspells, hrect⟩
      obtain ⟨htexts, hview, hsettled⟩ := load_eq_ok_iff.1 h
      have hrows : t.texts = rows := htexts.unique hspells
      exact ⟨t, h, load_eq_ok_iff.2 ⟨hrows ▸ hspells', hview, hsettled⟩⟩

/-! ## Files -/

variable {d : Disk} {path : String}

/-- A file is loaded by loading its document. -/
theorem loadFrom_eq_ok_iff_load :
    s.loadFrom d path = .ok t ↔ ∃ doc, d.read path = .ok doc ∧ s.load doc = .ok t := by
  rw [loadFrom]
  cases d.read path <;> simp

/-- **A file is loaded** as the sheet with the texts that it spells, in the old view. -/
theorem spells_of_loadFrom (h : s.loadFrom d path = .ok t) :
    d.Spells path t.texts ∧ t.formulaView = s.formulaView := by
  obtain ⟨doc, hread, hload⟩ := loadFrom_eq_ok_iff_load.1 h
  obtain ⟨hspells, hview, -⟩ := load_eq_ok_iff.1 hload
  exact ⟨⟨doc, hread, hspells, _, _, t.isRectangle_texts⟩, hview⟩

/-- A file can be loaded if it spells a rectangle. -/
theorem exists_loadFrom_iff :
    (∃ t, s.loadFrom d path = .ok t) ↔ ∃ rows, d.Spells path rows := by
  constructor
  · rintro ⟨t, h⟩
    exact ⟨_, (spells_of_loadFrom h).1⟩
  · rintro ⟨rows, doc, hread, hspells, n, m, hrect⟩
    obtain ⟨t, hload⟩ := (exists_load_iff (s := s)).2 ⟨rows, n, m, hspells, hrect⟩
    exact ⟨t, loadFrom_eq_ok_iff_load.2 ⟨doc, hread, hload⟩⟩

/-- A file spells one rectangle. -/
theorem spells_unique {rows' : List (List String)} (h : d.Spells path rows)
    (h' : d.Spells path rows') : rows = rows' := by
  obtain ⟨doc, hread, hspells, -⟩ := h
  obtain ⟨doc', hread', hspells', -⟩ := h'
  rw [hread] at hread'
  cases hread'
  exact hspells.unique hspells'

/-! ## Saving -/

/-- **A sheet that is saved is loaded with the same texts and with its values.** It is saved
wherever there is room for its document. Every sheet can load the document; it then has the extent
and the texts of the saved sheet, each cell holds the value that it has in the saved sheet, and the
view is that of the sheet that loads. The stored values are those of the saved sheet exactly if
that was settled. The document depends on the texts alone, and on all of them. -/
theorem load_ofSheet (s g : Sheet) :
    (∀ room doc, s.saveWithin room = .ok doc ↔
      doc = Document.ofSheet s ∧ (Document.ofSheet s).length ≤ room) ∧
    (∃ t, g.load (Document.ofSheet s) = .ok t ∧ t.rows = s.rows ∧ t.cols = s.cols ∧
      (∀ a, t.text? a = s.text? a) ∧ t.formulaView = g.formulaView ∧
      (∀ a, t.value a = s.valueOf a) ∧
      ((∀ a, t.value a = s.value a) ↔ ∀ a, s.value a = s.valueOf a)) ∧
    ∀ s', Document.ofSheet s' = Document.ofSheet s ↔ s'.texts = s.texts := by
  have hspells := Document.spells_ofSheet s
  refine ⟨fun room doc => ?_, ?_, fun s' => ⟨fun h => ?_, fun h => ?_⟩⟩
  · rw [saveWithin]
    split
    · next hroom => simp [hroom, eq_comm]
    · next hroom => simp [hroom]
  · obtain ⟨t, h⟩ := (exists_load_iff (s := g)).2 ⟨_, _, _, hspells, s.isRectangle_texts⟩
    obtain ⟨hspells', hview, hsettled⟩ := load_eq_ok_iff.1 h
    have htexts : t.texts = s.texts := hspells'.unique hspells
    have htext : ∀ a, t.text? a = s.text? a := text?_congr htexts
    have hvalue : ∀ a, t.value a = s.valueOf a := fun a =>
      (hsettled a).trans (valueOf_congr htext a)
    obtain ⟨hrows, hcols⟩ := Grid.extent_eq (g := t.cells) (k := s.cells) fun a => by
      have := congrArg Option.isSome (htext a)
      rwa [text?, text?, Option.isSome_map, Option.isSome_map] at this
    refine ⟨t, h, hrows, hcols, htext, hview, hvalue, ?_⟩
    exact forall_congr' fun a => by rw [hvalue, eq_comm]
  · exact (h ▸ Document.spells_ofSheet s').unique hspells
  · rw [Document.ofSheet, Document.ofSheet, Document.written, Document.written, h]

end Sheet
end FormulaGrid
