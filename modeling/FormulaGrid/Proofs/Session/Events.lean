/-
# Sessions that are used

A session is used by one event after the other (`used_concat`).

A key has little to do outside normal mode. What it can change there is said here once for each
mode, and the rest of the session is as it was: `pressHelp_eq` for the help, `pressEditing_eq` and
`pressName_eq` for the keys that edit a line, and `loadNamed_cases` for a file name that was
accepted. Editing keeps the cursor in its line (`Line.cursor_edit_le`).
-/

import Mathlib.Data.List.Induction
import FormulaGrid.Session.Press

namespace FormulaGrid
namespace Session

/-- Later events happen to the session as the earlier ones have left it. -/
theorem used_append (sheet : Sheet) (events later : List Event) :
    used sheet (events ++ later) = later.foldl Event.apply (used sheet events) :=
  List.foldl_append

/-- The last event happens to the session as the others have left it. -/
theorem used_concat (sheet : Sheet) (events : List Event) (e : Event) :
    used sheet (events ++ [e]) = e.apply (used sheet events) :=
  used_append sheet events [e]

/-! ## Lines -/

/-- **A key leaves the cursor in the line.** -/
theorem Line.cursor_edit_le (l : Line) (k : Key) : (l.edit k).cursor ≤ (l.edit k).text.length := by
  have hclamped : l.clamped.cursor ≤ l.clamped.text.length := Nat.min_le_right _ _
  rw [Line.edit]
  generalize l.clamped = m at hclamped
  fun_cases Line.editClamped m k with
  | case1 hpos => simp only [List.length_eraseIdx]; split <;> omega
  | case2 => exact hclamped
  | case3 => simp only [List.length_eraseIdx]; split <;> omega
  | case4 => exact Nat.le_trans (Nat.sub_le _ _) hclamped
  | case5 => exact Nat.min_le_right _ _
  | case6 => exact Nat.zero_le _
  | case7 => exact Nat.le_refl _
  | case8 c => simp only [List.length_insertIdx, if_pos hclamped]; omega
  | case9 => exact hclamped

variable {s : Session} {d : Disk} {k : Key}

/-! ## Keys by mode -/

section
variable {press : KeyPress}

/-- A key in normal mode with control. -/
theorem press_of_control (hmode : s.mode = .normal) (hcontrol : press.modifiers.control = true) :
    (s.press d press).1 = s.pressControl press.key := by
  have hnormal : (s.press d press).1 = s.pressNormal press := by rw [Session.press, hmode]
  rw [hnormal, pressNormal, if_pos hcontrol]

/-- A key in normal mode without control. -/
theorem press_of_plain (hmode : s.mode = .normal) (hcontrol : press.modifiers.control = false) :
    (s.press d press).1 = ({ s with status := none } : Session).pressPlain press.key := by
  have hnormal : (s.press d press).1 = s.pressNormal press := by rw [Session.press, hmode]
  rw [hnormal, pressNormal, if_neg (by simp [hcontrol])]

/-- A key while a cell is edited. -/
theorem press_of_editing (hmode : s.mode = .editing) :
    (s.press d press).1 = s.pressEditing press.key := by
  rw [Session.press, hmode]

/-- A key while the help is shown. -/
theorem press_of_help (hmode : s.mode = .help) : (s.press d press).1 = s.pressHelp press.key := by
  rw [Session.press, hmode]

/-- The key that accepts a file name to save to. -/
theorem press_of_saveAs_enter (hmode : s.mode = .saveAs) (hkey : press.key = .enter) :
    (s.press d press).1 = (s.saveNamed d).1 := by
  rw [Session.press, hmode]
  exact congrArg Prod.fst (if_pos hkey)

/-- Another key while a file name to save to is asked for. -/
theorem press_of_saveAs (hmode : s.mode = .saveAs) (hkey : press.key ≠ .enter) :
    (s.press d press).1 = s.pressName press.key := by
  rw [Session.press, hmode]
  exact congrArg Prod.fst (if_neg hkey)

/-- The key that accepts a file name to load from. -/
theorem press_of_loadFile_enter (hmode : s.mode = .loadFile) (hkey : press.key = .enter) :
    (s.press d press).1 = s.loadNamed d := by
  rw [Session.press, hmode]
  exact if_pos hkey

/-- Another key while a file name to load from is asked for. -/
theorem press_of_loadFile (hmode : s.mode = .loadFile) (hkey : press.key ≠ .enter) :
    (s.press d press).1 = s.pressName press.key := by
  rw [Session.press, hmode]
  exact if_neg hkey

/-- A key while it is asked whether to end the session. -/
theorem press_of_confirmExit (hmode : s.mode = .confirmExit) :
    (s.press d press).1 = s.pressConfirm press.key := by
  rw [Session.press, hmode]

end

/-! ## Keys outside normal mode -/

/-- A key in the help scrolls it or closes it. -/
theorem pressHelp_eq (s : Session) (k : Key) : ∃ mode lines, (mode = s.mode ∨ mode = .normal) ∧
    s.pressHelp k = { s with mode, helpScroll := lines } := by
  fun_cases pressHelp s k with
  | case1 | case2 | case3 | case4 => exact ⟨.normal, s.helpScroll, .inr rfl, rfl⟩
  | case5 | case6 | case7 | case8 | case9 | case10 | case11 => exact ⟨s.mode, _, .inl rfl, rfl⟩
  | case12 => exact ⟨s.mode, s.helpScroll, .inl rfl, rfl⟩

/-- A key other than enter edits the text or gives it up. -/
theorem pressEditing_eq (hk : k ≠ .enter) : ∃ mode input cursor,
    (mode = s.mode ∧ cursor ≤ input.length ∨ mode = .normal ∧ input = "" ∧ cursor = 0) ∧
    s.pressEditing k = { s with mode, input, cursor } := by
  fun_cases pressEditing s k with
  | case1 => exact absurd rfl hk
  | case2 => exact ⟨_, _, _, .inr ⟨rfl, rfl, rfl⟩, rfl⟩
  | case3 _ _ _ l =>
    have hcursor : l.cursor ≤ (String.ofList l.text).length := by
      rw [String.length_ofList]
      exact Line.cursor_edit_le _ _
    exact ⟨s.mode, _, _, .inl ⟨rfl, hcursor⟩, rfl⟩

/-- A key other than enter edits the file name or gives it up. -/
theorem pressName_eq (s : Session) (k : Key) : ∃ mode nameInput cursor,
    (mode = s.mode ∧ cursor ≤ nameInput.length ∨ mode = .normal ∧ nameInput = "" ∧ cursor = 0) ∧
    s.pressName k = { s with mode, nameInput, cursor } := by
  fun_cases pressName s k with
  | case1 => exact ⟨_, _, _, .inr ⟨rfl, rfl, rfl⟩, rfl⟩
  | case2 _ _ l =>
    have hcursor : l.cursor ≤ (String.ofList l.text).length := by
      rw [String.length_ofList]
      exact Line.cursor_edit_le _ _
    exact ⟨s.mode, _, _, .inl ⟨rfl, hcursor⟩, rfl⟩

/-- A sheet is saved where it can be; if it cannot, that is said and nothing else has become of
the session. -/
theorem saveNamed_cases (s : Session) (d : Disk) :
    (∃ d', s.sheet.saveTo d s.typedFileName = .ok d' ∧
      s.saveNamed d = (s.saved s.typedFileName none, d')) ∨
    ∃ e, s.sheet.saveTo d s.typedFileName = .error e ∧
      s.saveNamed d = ((s.say ("Save failed: " ++ e.text)).closePrompt, d) := by
  delta saveNamed
  dsimp only
  generalize s.sheet.saveTo d s.typedFileName = answer
  cases answer with
  | ok d' => exact .inl ⟨d', rfl, rfl⟩
  | error e => exact .inr ⟨e, rfl, rfl⟩

/-- A sheet is loaded if it can be; if it cannot, that is said and nothing else has become of the
session. -/
theorem loadNamed_cases (s : Session) (d : Disk) :
    (∃ sheet, s.sheet.loadFrom d s.typedFileName = .ok sheet ∧
      s.loadNamed d = ({ s with sheet } : Session).loaded s.typedFileName none) ∨
    ∃ e, s.sheet.loadFrom d s.typedFileName = .error e ∧
      s.loadNamed d = (s.say ("Load failed: " ++ e.text)).closePrompt := by
  delta loadNamed
  dsimp only
  generalize s.sheet.loadFrom d s.typedFileName = answer
  cases answer with
  | ok sheet => exact .inl ⟨sheet, rfl, rfl⟩
  | error e => exact .inr ⟨e, rfl, rfl⟩

end Session
end FormulaGrid
