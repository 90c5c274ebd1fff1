/-
# Editing a cell from the first key to the last

A cell is edited in normal mode and without control by one of three keys, and each leaves the cursor
at the end of what there is:

| key | text before the cursor |
| --- | --- |
| enter, F2 | the text of the selected cell |
| `=` | `=` |

From then on the text is two halves that every key but enter and escape changes as it changes halves
(`Typing.apply`), whatever becomes of the window, and so does a list of keys (`Typing.foldl`). Enter
leaves the text that the halves make up in the cell and goes one row down
(`editBytes?_eq_and_retexted_typed`).
-/

import FormulaGrid.Proofs.Session.Command
import FormulaGrid.Proofs.Session.Line

namespace FormulaGrid
namespace Session

/-- **What a key starts to edit,** if it starts to edit at all. -/
def opened? (old : List Char) : Key → Option Halves
  | .enter | .function 2 => some ⟨old, []⟩
  | .char '=' => some ⟨['='], []⟩
  | _ => none

/-- The key of an event. -/
def Event.key? : Event → Option Key
  | press k _ => some k.key
  | resize _ _ => none

/-- An event that ends no editing. -/
def Event.Types (e : Event) : Prop := e.key? ≠ some .enter ∧ e.key? ≠ some .escape

/-- **A cell is edited:** the session holds the line that two halves make up, and the sheet and the
selection of the time when the editing started. -/
structure Typing (sheet : Sheet) (selected : Address) (h : Halves) (s : Session) : Prop where
  mode : s.mode = .editing
  sheet : s.sheet = sheet
  selected : s.selected = selected
  line : (⟨s.input.toList, s.cursor⟩ : Line) = h.line

variable {s : Session} {d : Disk} {k : KeyPress} {sheet : Sheet} {selected : Address} {h : Halves}

/-- **A key that starts to edit.** -/
theorem typing_press (hmode : s.mode = .normal) (hcontrol : k.modifiers.control = false)
    (hkey : opened? (s.sheet.text s.selected).toList k.key = some h) :
    Typing s.sheet s.selected h (s.press d k).1 := by
  rw [press_of_plain hmode hcontrol]
  generalize k.key = key at hkey
  revert hkey
  fun_cases opened? (s.sheet.text s.selected).toList key with
  | case1 | case2 =>
    rintro ⟨⟩
    refine ⟨rfl, rfl, rfl, ?_⟩
    simp [Halves.line, pressPlain, startEditing, String.length_toList]
  | case3 =>
    rintro ⟨⟩
    refine ⟨rfl, rfl, rfl, ?_⟩
    simp [Halves.line, pressPlain, startFormula, Cell.formulaMark]
  | case4 =>
    intro h
    cases h

/-- A key that ends no editing edits the line. -/
theorem pressEditing_of_types {key : Key} (henter : key ≠ .enter) (hescape : key ≠ .escape) :
    s.pressEditing key =
      { s with
        input := String.ofList (Line.edit ⟨s.input.toList, s.cursor⟩ key).text
        cursor := (Line.edit ⟨s.input.toList, s.cursor⟩ key).cursor } := by
  fun_cases pressEditing s key with
  | case1 => exact absurd rfl henter
  | case2 => exact absurd rfl hescape
  | case3 => rfl

/-- **An event while a cell is edited** changes the halves as its key does, and leaves them if it
has none. -/
theorem Typing.apply (ht : Typing sheet selected h s) {e : Event} (he : e.Types) :
    Typing sheet selected (e.key?.elim h h.press) (e.apply s) := by
  cases e with
  | press k disk =>
    have henter : k.key ≠ .enter := fun hkey => he.1 (congrArg some hkey)
    have hescape : k.key ≠ .escape := fun hkey => he.2 (congrArg some hkey)
    rw [Event.apply, press_of_editing ht.mode, pressEditing_of_types henter hescape, ht.line,
      Line.edit_eq, Line.halves_line]
    refine ⟨ht.mode, ht.sheet, ht.selected, ?_⟩
    simp only [String.toList_ofList]
    rfl
  | resize rows cols => exact ⟨ht.mode, ht.sheet, ht.selected, ht.line⟩

/-- **Any events while a cell is edited** change the halves as their keys do, one by one. -/
theorem Typing.foldl (ht : Typing sheet selected h s) {events : List Event}
    (he : ∀ e ∈ events, e.Types) :
    Typing sheet selected ((events.filterMap Event.key?).foldl Halves.press h)
      (events.foldl Event.apply s) := by
  induction events generalizing s h with
  | nil => exact ht
  | cons e events ih =>
    obtain ⟨hfirst, hrest⟩ := List.forall_mem_cons.1 he
    have hstep := ih (ht.apply hfirst) hrest
    cases hkey : e.key? with
    | none =>
      rw [hkey] at hstep
      rw [List.filterMap_cons_none hkey]
      exact hstep
    | some key =>
      rw [hkey] at hstep
      rw [List.filterMap_cons_some hkey]
      exact hstep

/-- The cell that is selected when an edited one is left. -/
def below (sheet : Sheet) (a : Address) : Address :=
  if a.row + 1 < sheet.rows then ⟨a.row + 1, a.col⟩ else a

/-- When editing is finished the cell below is selected, if there is one. -/
theorem selected_finishEditing (s : Session) :
    s.finishEditing.selected = below s.sheet s.selected := by
  have hrows : ((s.sheet.update? s.selected s.input).getD s.sheet).rows = s.sheet.rows :=
    (s.sheet.extent_update s.selected s.input).1
  rw [finishEditing]
  dsimp only
  split
  · next hbelow => exact (if_pos (hrows ▸ hbelow)).symm
  · next hend => exact (if_neg (hrows ▸ hend)).symm

/-- **Enter leaves the edited text in the cell** and selects the one below. -/
theorem Typing.finish (ht : Typing sheet selected h s) (hin : sheet.inBounds selected = true)
    (hkey : k.key = .enter) :
    sheet.Retexted (s.press d k).1.sheet selected (String.ofList h.line.text) ∧
      (s.press d k).1.selected = below sheet selected ∧ (s.press d k).1.mode = .normal := by
  obtain ⟨hmode, rfl, rfl, hline⟩ := ht
  have hinput : s.input = String.ofList h.line.text := by
    rw [← hline, String.ofList_toList]
  have hpress : (s.press d k).1 = s.finishEditing := by
    rw [press_of_editing hmode, hkey]
    rfl
  rw [hpress, sheet_finishEditing, ← hinput]
  exact ⟨Sheet.retexted_update hin s.input, s.selected_finishEditing, rfl⟩

/-- **A cell is edited as two halves of a text are.** To edit a line kept in bytes is to edit its
halves; no key cuts a character in two or takes the cursor out of the line. So if a session, used in
any way, is in normal mode and a key starts to edit, if keys other than enter and escape are pressed
then, and if enter is pressed in the end, then the text that the halves make up is that of the
selected cell, no other text has changed, and the cell below is selected, if there is one. -/
theorem editBytes?_eq_and_retexted_typed :
    (∀ (l : Line) (k : Key),
      Line.editBytes? (Text.utf8 l.text) l.cursor k =
          some (Text.utf8 (l.edit k).text, (l.edit k).cursor) ∧
        l.edit k = (l.halves.press k).line ∧ (l.edit k).cursor ≤ (l.edit k).text.length) ∧
    ∀ (sheet : Sheet) (events typed : List Event) (first last : KeyPress) (d d' : Disk)
      (h : Halves),
      let s := used sheet events
      let t := used sheet (events ++ .press first d :: typed ++ [.press last d'])
      let edited := (typed.filterMap Event.key?).foldl Halves.press h
      s.mode = .normal → first.modifiers.control = false →
      opened? (s.sheet.text s.selected).toList first.key = some h →
      (∀ e ∈ typed, e.Types) → last.key = .enter →
      s.sheet.Retexted t.sheet s.selected (String.ofList edited.line.text) ∧
        t.selected = below s.sheet s.selected ∧ t.mode = .normal := by
  refine ⟨fun l k => ⟨l.editBytes?_eq k, l.edit_eq k, l.cursor_edit_le k⟩, ?_⟩
  intro sheet events typed first last d d' h s t edited hmode hcontrol hopened htyped hlast
  have hshown : s.SelectionShown := selectionShown_used sheet events
  have hin : s.sheet.inBounds s.selected = true :=
    Sheet.inBounds_iff.2 ⟨hshown.row.lt_count, hshown.col.lt_count⟩
  have hopen : Typing s.sheet s.selected h (s.press d first).1 :=
    typing_press hmode hcontrol hopened
  have ht : t = ((typed.foldl Event.apply (s.press d first).1).press d' last).1 := by
    simp only [t, used_append]
    rfl
  rw [ht]
  exact (hopen.foldl htyped).finish hin hlast

/-- `editBytes?_eq_and_retexted_typed` of a small sheet: F2 opens the formula of the first cell, its
last character gives way to one of two bytes, and there is no cell below. -/
theorem retexted_typed_narrow :
    let press (k : Key) : Event := .press k.alone ⟨[], []⟩
    let t := used .narrow [press (.function 2), press .backspace, .resize 1 1, press (.char 'é'),
      press .enter]
    Sheet.narrow.Retexted t.sheet ⟨0, 0⟩ "=B1+Cé" ∧ t.selected = ⟨0, 0⟩ ∧ t.mode = .normal := by
  intro press t
  obtain ⟨-, h⟩ := editBytes?_eq_and_retexted_typed
  have hopened : opened? (Sheet.narrow.text ⟨0, 0⟩).toList (.function 2) =
      some ⟨['=', 'B', '1', '+', 'C', '1'], []⟩ := by
    have htext : (Sheet.narrow.text ⟨0, 0⟩).toList = ['=', 'B', '1', '+', 'C', '1'] := by
      decide +kernel
    rw [htext]
    rfl
  have htyped : ∀ e ∈ [press .backspace, .resize 1 1, press (.char 'é')], e.Types := by
    simp [press, Event.Types, Event.key?, Key.alone]
  obtain ⟨htext, hselected, hmode⟩ := h .narrow []
    [press .backspace, .resize 1 1, press (.char 'é')] (Key.function 2).alone Key.enter.alone
    ⟨[], []⟩ ⟨[], []⟩ _ rfl rfl hopened htyped rfl
  have hlast : below .narrow ⟨0, 0⟩ = ⟨0, 0⟩ := by decide +kernel
  exact ⟨htext, hselected.trans hlast, hmode⟩

end Session
end FormulaGrid
