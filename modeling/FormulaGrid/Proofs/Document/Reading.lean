/-
# Documents are read as they are spelled

A reader of a kind of values *reads* their spellings (`Reader.Reads`): it answers a value exactly
if the bytes begin with blanks and a spelling of it, and leaves what comes after. The reader of
strings does so, and the reader of lists does if the reader of their items does, provided that no
item begins like a blank or the end of a list. So the texts of a document are read if and only if
the document spells them (`texts_reads`), and a sheet is made of them if they are a rectangle
(`sheet_eq_ok_iff`).
-/

import FormulaGrid.Document.Read
import FormulaGrid.Proofs.Document.Literal

namespace FormulaGrid
namespace Document

open Text (Bytes)

variable {bs r : Bytes} {b : UInt8} {ws : List Char}

/-! ## Blanks -/

/-- The blank bytes are those of the blank characters. -/
theorem exists_of_isBlank (h : isBlank b = true) :
    ∃ c ∈ [' ', '\t', '\n', '\r'], String.utf8EncodeChar c = [b] := by
  simp only [isBlank, Bool.or_eq_true, beq_iff_eq] at h
  rcases h with ((rfl | rfl) | rfl) | rfl
  · exact ⟨' ', by simp, rfl⟩
  · exact ⟨'\t', by simp, rfl⟩
  · exact ⟨'\n', by simp, rfl⟩
  · exact ⟨'\r', by simp, rfl⟩

/-- The blank characters are blank bytes. -/
theorem isBlank_of_mem {c : Char} (h : c ∈ [' ', '\t', '\n', '\r']) :
    ∃ b, String.utf8EncodeChar c = [b] ∧ isBlank b = true := by
  simp only [List.mem_cons, List.not_mem_nil, or_false] at h
  rcases h with rfl | rfl | rfl | rfl <;> exact ⟨_, rfl, rfl⟩

/-- A document begins with the blanks that are skipped. -/
theorem exists_blanks (bs : Bytes) : ∃ ws, Blanks ws ∧ bs = Text.utf8 ws ++ skipBlanks bs := by
  induction bs with
  | nil => exact ⟨[], blanks_nil, rfl⟩
  | cons b bs ih =>
    rw [skipBlanks, List.dropWhile_cons]
    split
    · next hb =>
      obtain ⟨c, hc, hcb⟩ := exists_of_isBlank hb
      obtain ⟨ws, hws, hbs⟩ := ih
      refine ⟨c :: ws, List.forall_mem_cons.2 ⟨hc, hws⟩, ?_⟩
      rw [Text.utf8_cons, hcb, List.append_assoc, ← skipBlanks, ← hbs]
      rfl
    · exact ⟨[], blanks_nil, rfl⟩

/-- Blanks are skipped. -/
theorem skipBlanks_utf8_append (h : Blanks ws) (bs : Bytes) :
    skipBlanks (Text.utf8 ws ++ bs) = skipBlanks bs := by
  induction ws with
  | nil => rfl
  | cons c ws ih =>
    obtain ⟨hc, hws⟩ := List.forall_mem_cons.1 h
    obtain ⟨b, hcb, hb⟩ := isBlank_of_mem hc
    rw [Text.utf8_cons, hcb, List.append_assoc, skipBlanks, List.singleton_append,
      List.dropWhile_cons_of_pos hb]
    exact ih hws

/-- Blanks before a spelling are skipped. -/
theorem skipBlanks_spelling (h : Blanks ws) (w : List Char) (bs : Bytes) :
    skipBlanks (Text.utf8 (ws ++ w) ++ bs) = skipBlanks (Text.utf8 w ++ bs) := by
  rw [Text.utf8_append, List.append_assoc, skipBlanks_utf8_append h]

/-- Nothing is skipped at another byte. -/
theorem skipBlanks_cons (h : isBlank b = false) : skipBlanks (b :: r) = b :: r := by
  rw [skipBlanks, List.dropWhile_cons_of_neg (by simp [h])]

/-- The byte after the blanks that are skipped is none. -/
theorem isBlank_of_skipBlanks (h : skipBlanks bs = b :: r) : isBlank b = false := by
  have hhead := List.head?_dropWhile_not isBlank bs
  rwa [← skipBlanks, h] at hhead

/-- Blanks one after the other are blanks. -/
theorem Blanks.append {ws ws' : List Char} (h : Blanks ws) (h' : Blanks ws') :
    Blanks (ws ++ ws') := fun c hc => (List.mem_append.1 hc).elim (h c) (h' c)

/-- Blanks before an item may be more. -/
theorem Separates.append {first : Bool} {sep : List Char} (h : Separates first sep)
    (hws : Blanks ws) : Separates first (sep ++ ws) := by
  cases h with
  | first hsep => exact .first (hsep.append hws)
  | comma before after =>
    rw [List.append_assoc, List.cons_append]
    exact .comma before (after.append hws)

/-! ## Strings -/

/-- **A reader reads spellings:** blanks and a spelling, and whatever follows. -/
def Reader.Reads {α : Type} (p : Reader α) (Item : α → List Char → Prop) : Prop :=
  ∀ bs a r, p.read bs = .ok (a, r) ↔
    ∃ ws w, Blanks ws ∧ Item a w ∧ bs = Text.utf8 (ws ++ w) ++ r

/-- The bytes of a string. -/
theorem utf8_quoted (inner : List Char) (r : Bytes) :
    Text.utf8 ('"' :: (inner ++ ['"'])) ++ r = 34 :: (Text.utf8 inner ++ 34 :: r) := by
  rw [Text.utf8_cons, Text.utf8_append, List.append_assoc, List.append_assoc]
  rfl

/-- **Strings are read.** -/
theorem cell_reads : cell.Reads SpellsString := by
  intro bs s r
  constructor
  · intro h
    obtain ⟨ws, hws, hbs⟩ := exists_blanks bs
    simp only [cell] at h
    split at h
    · cases h
    · next b r' heq =>
      split_ifs at h with hb
      split at h
      · next cs r'' hstring =>
        obtain ⟨rfl, rfl⟩ := Prod.mk.inj (Except.ok.inj h)
        obtain ⟨inner, hinner, rfl⟩ := string_eq_ok_iff.1 hstring
        refine ⟨ws, _, hws, ⟨inner, by rwa [String.toList_ofList], rfl⟩, ?_⟩
        rw [hbs, heq, hb, Text.utf8_append, List.append_assoc, utf8_quoted]
      · cases h
  · rintro ⟨ws, _, hws, ⟨inner, hinner, rfl⟩, rfl⟩
    have hstring := string_eq_ok_iff.2 ⟨inner, hinner, (rfl : _ ++ 34 :: r = _)⟩
    have hskip : skipBlanks (Text.utf8 (ws ++ '"' :: (inner ++ ['"'])) ++ r) =
        34 :: (Text.utf8 inner ++ 34 :: r) := by
      rw [skipBlanks_spelling hws, utf8_quoted, skipBlanks_cons rfl]
    simp only [cell, hskip, if_pos, hstring, String.ofList_toList]

/-! ## Lists -/

/-- **Where an item may begin:** neither at a blank nor at the end of a list. -/
def Begins (bs : Bytes) : Prop := ∃ b r, bs = b :: r ∧ isBlank b = false ∧ b ≠ 93

/-- A list ends at its closing bracket. -/
theorem next_eq_finished_iff {first : Bool} : next first bs = .ok (.finished r) ↔
    ∃ ws, Blanks ws ∧ bs = Text.utf8 (ws ++ [']']) ++ r := by
  constructor
  · intro h
    obtain ⟨ws, hws, hbs⟩ := exists_blanks bs
    unfold next at h
    split at h
    · cases h
    · next b r' heq =>
      split_ifs at h with hb hfirst hcomma
      · cases h
        refine ⟨ws, hws, ?_⟩
        rw [hbs, heq, hb, Text.utf8_append, List.append_assoc]
        rfl
      · cases h
      · split at h
        · cases h
        · split_ifs at h
          cases h
  · rintro ⟨ws, hws, rfl⟩
    have hskip : skipBlanks (Text.utf8 (ws ++ [']']) ++ r) = 93 :: r := by
      rw [skipBlanks_spelling hws]
      exact skipBlanks_cons rfl
    simp [next, hskip]

/-- An item comes next after what may stand before it. -/
theorem next_eq_item_iff {first : Bool} : next first bs = .ok (.item r) ↔
    ∃ sep, Separates first sep ∧ Begins r ∧ bs = Text.utf8 sep ++ r := by
  constructor
  · intro h
    obtain ⟨ws, hws, hbs⟩ := exists_blanks bs
    unfold next at h
    split at h
    · cases h
    · next b r' heq =>
      have hb := isBlank_of_skipBlanks heq
      split_ifs at h with hclose hfirst hcomma
      · cases h
      · cases h
        exact ⟨ws, hfirst ▸ .first hws, ⟨b, r', rfl, hb, hclose⟩, by rw [hbs, heq]⟩
      · obtain ⟨ws', hws', hr'⟩ := exists_blanks r'
        split at h
        · cases h
        · next b' r'' heq' =>
          split_ifs at h with hclose'
          cases h
          obtain rfl : first = false := Bool.eq_false_iff.2 hfirst
          refine ⟨_, .comma hws hws', ⟨b', r'', rfl, isBlank_of_skipBlanks heq', hclose'⟩, ?_⟩
          rw [hbs, heq, hcomma, hr', heq', Text.utf8_append, List.append_assoc]
          rfl
  · rintro ⟨sep, hsep, ⟨b, r, rfl, hb, hclose⟩, rfl⟩
    cases hsep with
    | first hws =>
      have hskip := (skipBlanks_utf8_append hws (b :: r)).trans (skipBlanks_cons hb)
      simp [next, hskip, hclose]
    | @comma ws ws' hws hws' =>
      have hskip : skipBlanks (Text.utf8 (ws ++ ',' :: ws') ++ b :: r) =
          44 :: (Text.utf8 ws' ++ b :: r) := by
        rw [skipBlanks_spelling hws]
        exact skipBlanks_cons rfl
      have hskip' := (skipBlanks_utf8_append hws' (b :: r)).trans (skipBlanks_cons hb)
      simp [next, hskip, hskip', hclose]

section
variable {α : Type} {item : Reader α} {Item : α → List Char → Prop} {wanted : Wanted}

/-- There are no more items where the list ends. -/
theorem items_of_next_finished {first : Bool} {soFar : List α}
    (h : next first bs = .ok (.finished r)) :
    items item first soFar bs = .ok (soFar.reverse, r) := by
  rw [items]
  split
  · next heq =>
    rw [h] at heq
    cases heq
  · next heq =>
    rw [h] at heq
    cases heq
    rfl
  · next heq =>
    rw [h] at heq
    cases heq

/-- An item is taken up where one comes next. -/
theorem items_of_next_item {first : Bool} {soFar : List α} {a : α} {r' : Bytes}
    (h : next first bs = .ok (.item r)) (h' : item.read r = .ok (a, r')) :
    items item first soFar bs = items item false (a :: soFar) r' := by
  rw [items]
  split
  · next heq =>
    rw [h] at heq
    cases heq
  · next heq =>
    rw [h] at heq
    cases heq
  · next heq =>
    rw [h] at heq
    cases heq
    split
    · next heq' =>
      rw [h'] at heq'
      cases heq'
    · next heq' =>
      rw [h'] at heq'
      cases heq'
      rfl

/-- **The items of a list are read** up to its end. -/
theorem items_eq_ok_iff (hitem : item.Reads Item)
    (hbegins : ∀ a w r, Item a w → Begins (Text.utf8 w ++ r)) {first : Bool} {soFar as : List α} :
    items item first soFar bs = .ok (as, r) ↔
      ∃ as' w, SpellsItems Item first as' w ∧ as = soFar.reverse ++ as' ∧
        bs = Text.utf8 w ++ r := by
  constructor
  · intro h
    fun_induction items item first soFar bs with
    | case1 => cases h
    | case2 first soFar bs r' hnext =>
      obtain ⟨rfl, rfl⟩ := Prod.mk.inj (Except.ok.inj h)
      obtain ⟨ws, hws, rfl⟩ := next_eq_finished_iff.1 hnext
      exact ⟨[], _, .close hws, by simp, rfl⟩
    | case3 => cases h
    | case4 first soFar bs r' hnext a r'' hread ih =>
      obtain ⟨as', w, hw, rfl, rfl⟩ := ih h
      obtain ⟨sep, hsep, -, rfl⟩ := next_eq_item_iff.1 hnext
      obtain ⟨ws, w', hws, ha, rfl⟩ := (hitem _ _ _).1 hread
      refine ⟨a :: as', _, .item (hsep.append hws) ha hw, by simp, ?_⟩
      simp only [Text.utf8_append, List.append_assoc]
  · rintro ⟨as', w, hw, rfl, rfl⟩
    induction hw generalizing soFar with
    | @close first ws hws =>
      have hnext : next first (Text.utf8 (ws ++ [']']) ++ r) = .ok (.finished r) :=
        next_eq_finished_iff.2 ⟨ws, hws, rfl⟩
      rw [items_of_next_finished hnext, List.append_nil]
    | @item first a as sep w r' hsep ha hw ih =>
      have hnext := next_eq_item_iff.2
        ⟨sep, hsep, hbegins a w (Text.utf8 r' ++ r) ha, rfl⟩
      have hread := (hitem (Text.utf8 w ++ (Text.utf8 r' ++ r)) a (Text.utf8 r' ++ r)).2
        ⟨[], w, blanks_nil, ha, rfl⟩
      rw [Text.utf8_append, Text.utf8_append, List.append_assoc, List.append_assoc,
        items_of_next_item hnext hread, ih]
      simp

/-- **Lists are read** if their items are. -/
theorem listOf_reads (hitem : item.Reads Item)
    (hbegins : ∀ a w r, Item a w → Begins (Text.utf8 w ++ r)) :
    (listOf wanted item).Reads (SpellsList Item) := by
  intro bs as r
  constructor
  · intro h
    obtain ⟨ws, hws, hbs⟩ := exists_blanks bs
    simp only [listOf] at h
    split at h
    · cases h
    · next b r' heq =>
      split_ifs at h with hb
      obtain ⟨as', w, hw, rfl, rfl⟩ := (items_eq_ok_iff hitem hbegins).1 h
      refine ⟨ws, _, hws, ⟨w, hw, rfl⟩, ?_⟩
      rw [hbs, heq, hb, Text.utf8_append, List.append_assoc]
      rfl
  · rintro ⟨ws, _, hws, ⟨w, hw, rfl⟩, rfl⟩
    have hitems : items item true [] (Text.utf8 w ++ r) = .ok (as, r) :=
      (items_eq_ok_iff hitem hbegins).2 ⟨as, w, hw, rfl, rfl⟩
    have hskip : skipBlanks (Text.utf8 (ws ++ '[' :: w) ++ r) = 91 :: (Text.utf8 w ++ r) := by
      rw [skipBlanks_spelling hws]
      exact skipBlanks_cons rfl
    simp only [listOf, hskip, if_pos, hitems]

end

/-! ## Documents -/

/-- A string begins at a quote. -/
theorem begins_of_spellsString {s : String} {w : List Char} (h : SpellsString s w) (r : Bytes) :
    Begins (Text.utf8 w ++ r) := by
  obtain ⟨inner, -, rfl⟩ := h
  exact ⟨34, Text.utf8 (inner ++ ['"']) ++ r, rfl, rfl, by decide⟩

/-- A list begins at a bracket. -/
theorem begins_of_spellsList {α : Type} {Item : α → List Char → Prop} {as : List α}
    {w : List Char} (h : SpellsList Item as w) (r : Bytes) : Begins (Text.utf8 w ++ r) := by
  obtain ⟨inner, -, rfl⟩ := h
  exact ⟨91, Text.utf8 inner ++ r, rfl, rfl, by decide⟩

/-- **The texts of a document are read.** -/
theorem texts_reads : texts.Reads (SpellsList (SpellsList SpellsString)) :=
  listOf_reads (listOf_reads cell_reads fun _ _ r h => begins_of_spellsString h r)
    fun _ _ r h => begins_of_spellsList h r

/-- Nothing is left after blanks exactly if there is nothing but blanks. -/
theorem skipBlanks_eq_nil_iff : skipBlanks bs = [] ↔ ∃ ws, Blanks ws ∧ bs = Text.utf8 ws := by
  constructor
  · intro h
    obtain ⟨ws, hws, hbs⟩ := exists_blanks bs
    rw [h, List.append_nil] at hbs
    exact ⟨ws, hws, hbs⟩
  · rintro ⟨ws, hws, rfl⟩
    have hskip := skipBlanks_utf8_append hws []
    rwa [List.append_nil] at hskip

/-- A document spells texts if they are read and nothing but blanks is left. -/
theorem spells_iff_read {doc : Bytes} {rows : List (List String)} :
    Spells doc rows ↔ ∃ r, texts.read doc = .ok (rows, r) ∧ skipBlanks r = [] := by
  simp only [texts_reads doc rows, skipBlanks_eq_nil_iff, Spells]
  constructor
  · rintro ⟨ws, w, ws', hws, hw, hws', rfl⟩
    exact ⟨_, ⟨ws, w, hws, hw, Text.utf8_append _ _⟩, ws', hws', rfl⟩
  · rintro ⟨_, ⟨ws, w, hws, hw, rfl⟩, ws', hws', rfl⟩
    exact ⟨ws, w, ws', hws, hw, hws', (Text.utf8_append _ _).symm⟩

/-- **A document spells one value at most.** -/
theorem Spells.unique {doc : Bytes} {rows rows' : List (List String)} (h : Spells doc rows)
    (h' : Spells doc rows') : rows = rows' := by
  obtain ⟨r, hread, -⟩ := spells_iff_read.1 h
  obtain ⟨r', hread', -⟩ := spells_iff_read.1 h'
  rw [hread] at hread'
  exact (Prod.mk.inj (Except.ok.inj hread')).1

/-- **A sheet is made of the texts that a document spells**, if it can be. -/
theorem sheet_eq_ok_iff {doc : Bytes} {s : Sheet} :
    sheet doc = .ok s ↔ ∃ rows, Spells doc rows ∧ Sheet.ofTexts? rows = some s := by
  have hstop : sheet doc = .ok s ↔ sheetOrStop doc = .ok s := by
    rw [sheet]
    cases sheetOrStop doc <;> simp [Except.mapError]
  rw [hstop]
  constructor
  · intro h
    unfold sheetOrStop at h
    split at h
    · cases h
    · next rows r hread =>
      split at h
      · cases h
      · next hrows =>
        split at h
        · next hblank =>
          cases h
          exact ⟨rows, spells_iff_read.2 ⟨r, hread, hblank⟩, hrows⟩
        · cases h
  · rintro ⟨rows, hspells, hrows⟩
    obtain ⟨r, hread, hblank⟩ := spells_iff_read.1 hspells
    simp [sheetOrStop, hread, hrows, hblank]

end Document
end FormulaGrid
