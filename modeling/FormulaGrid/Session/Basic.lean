/-
# Sessions

A session is a sheet with one of its cells selected, seen through a window whose first cell
is `scroll`. What keys do depends on its mode:

| mode | meaning |
| --- | --- |
| `normal` | keys move the selection and start everything else |
| `editing` | the text of the selected cell is edited |
| `help` | the help is shown |
| `saveAs`, `loadFile` | a file name is asked for |
| `confirmExit` | it is asked whether to end the session |

The window follows the selection: whenever the selection moves or the window changes size,
the window scrolls just far enough to show the selected cell.
-/

import FormulaGrid.Storage

namespace FormulaGrid

namespace Session

/-- What keys are taken for. -/
inductive Mode where
  | normal
  | editing
  | help
  | saveAs
  | loadFile
  | confirmExit
deriving DecidableEq, Repr

/-- The file name offered if no other is known. -/
def usualFileName : String := "mysheet.json"

/-- The number of rows of the window before its size is known. -/
def usualViewRows : Nat := 20

/-- The number of columns of the window before its size is known. -/
def usualViewCols : Nat := 8

end Session

/-- A sheet being worked on. -/
structure Session where
  sheet : Sheet
  /-- The selected cell. -/
  selected : Address
  /-- The first cell of the window. -/
  scroll : Address
  /-- The number of rows that the window shows. -/
  viewRows : Nat
  /-- The number of columns that the window shows. -/
  viewCols : Nat
  mode : Session.Mode
  /-- The text being edited. -/
  input : String
  /-- The file name being edited. -/
  nameInput : String
  /-- The place, counted in characters, in the text or file name being edited. -/
  cursor : Nat
  /-- The file last saved to or loaded from. -/
  fileName : Option String
  /-- How far the help has been scrolled down, in lines. -/
  helpScroll : Nat
  /-- What there is to say about the last key. -/
  status : Option String
  /-- Whether the session is over. -/
  finished : Bool

namespace Session

/-- A new session on a sheet. -/
def start (sheet : Sheet) : Session where
  sheet := sheet
  selected := ⟨0, 0⟩
  scroll := ⟨0, 0⟩
  viewRows := usualViewRows
  viewCols := usualViewCols
  mode := .normal
  input := ""
  nameInput := ""
  cursor := 0
  fileName := none
  helpScroll := 0
  status := none
  finished := false

/-! ## The window -/

/-- The first of `size` places in a row of them that show the selected one, moved from
`first` no further than needed. -/
def follow (selected first size : Nat) : Nat :=
  if selected < first then selected
  else if first + size ≤ selected then selected + 1 - size
  else first

/-- The window shows the selected place. -/
theorem follow_bounds {selected first size : Nat} (h : 0 < size) :
    follow selected first size ≤ selected ∧ selected < follow selected first size + size := by
  unfold follow
  split
  · omega
  · split <;> omega

/-- Scrolls to the selected cell. -/
def showSelected (s : Session) : Session :=
  { s with
    scroll :=
      ⟨follow s.selected.row s.scroll.row s.viewRows, follow s.selected.col s.scroll.col s.viewCols⟩ }

/-- The window gets another size; it always shows a cell. -/
def resize (s : Session) (rows cols : Nat) : Session :=
  ({ s with viewRows := max rows 1, viewCols := max cols 1 }).showSelected

/-- A row or column number moved by a distance, held between zero and the last one. -/
def moved (n : Nat) (distance : Int) (count : Nat) : Nat :=
  min ((n : Int) + distance).toNat (count - 1)

/-- Moves the selection, no further than the last row and column. -/
def move (s : Session) (rows cols : Int) : Session :=
  ({ s with
    selected :=
      ⟨moved s.selected.row rows s.sheet.rows, moved s.selected.col cols s.sheet.cols⟩ }).showSelected

/-- Holds selection and window inside a sheet that has become smaller. -/
def clampSelection (s : Session) : Session :=
  let t := s.move 0 0
  { t with
    scroll := ⟨min t.scroll.row t.selected.row, min t.scroll.col t.selected.col⟩ }

/-! ## Changing the sheet -/

/-- Says something about the last key. -/
def say (s : Session) (message : String) : Session := { s with status := some message }

/-- Sets the text of the selected cell. -/
def setSelected (s : Session) (text : String) : Session :=
  { s with sheet := (s.sheet.update? s.selected text).getD s.sheet }

/-- Adds a row. -/
def addRow (s : Session) : Session :=
  let sheet := s.sheet.addRow
  ({ s with sheet }).say ("Added row " ++ Nat.repr sheet.rows)

/-- Deletes the last row. -/
def deleteRow (s : Session) : Session :=
  match s.sheet.deleteRow? with
  | some sheet =>
    (({ s with sheet }).say ("Deleted row " ++ Nat.repr (sheet.rows + 1))).clampSelection
  | none => s.say "Cannot delete the only row"

/-- Adds a column. -/
def addColumn (s : Session) : Session :=
  let sheet := s.sheet.addColumn
  ({ s with sheet }).say ("Added column " ++ Column.name sheet.cols)

/-- Deletes the last column. -/
def deleteColumn (s : Session) : Session :=
  match s.sheet.deleteColumn? with
  | some sheet =>
    (({ s with sheet }).say ("Deleted column " ++ Column.name (sheet.cols + 1))).clampSelection
  | none => s.say "Cannot delete the only column"

/-- Computes all values anew. -/
def recalculate (s : Session) : Session :=
  ({ s with sheet := s.sheet.recalculate }).say "Recalculated"

/-- Changes between values and texts. -/
def toggleView (s : Session) : Session :=
  let sheet := s.sheet.toggleView
  ({ s with sheet }).say (if sheet.formulaView then "Showing expressions" else "Showing values")

/-! ## Editing a cell -/

/-- Starts to edit the text of the selected cell, at its end. -/
def startEditing (s : Session) : Session :=
  let input := s.sheet.text s.selected
  { s with mode := .editing, input, cursor := input.length }

/-- Starts to edit a new formula. -/
def startFormula (s : Session) : Session :=
  { s.startEditing with input := String.singleton Cell.formulaMark, cursor := 1 }

/-- Sets the text of the selected cell to the one edited and selects the cell below, if
there is one. -/
def finishEditing (s : Session) : Session :=
  let t := ({ s with input := "" }).setSelected s.input
  let t :=
    if t.selected.row + 1 < t.sheet.rows then
      ({ t with selected := ⟨t.selected.row + 1, t.selected.col⟩ }).showSelected
    else t
  { t with mode := .normal, cursor := 0 }

/-- Gives up editing. -/
def cancelEditing (s : Session) : Session := { s with mode := .normal, input := "", cursor := 0 }

/-! ## Asking for a file name -/

/-- Asks for a file name, offering the known one. -/
def askFileName (s : Session) (mode : Mode) : Session :=
  let nameInput := s.fileName.getD usualFileName
  { s with mode, nameInput, cursor := nameInput.length, status := none }

/-- Asks where to save the sheet. -/
def askSave (s : Session) : Session := s.askFileName .saveAs

/-- Asks where to load a sheet from. -/
def askLoad (s : Session) : Session := s.askFileName .loadFile

/-- Ends the asking for a file name. -/
def closePrompt (s : Session) : Session := { s with mode := .normal, nameInput := "", cursor := 0 }

/-- The file name typed, without the blanks around it, or else the usual one. -/
def typedFileName (s : Session) : String :=
  let name := Text.trimmed s.nameInput
  if name.isEmpty then usualFileName else name

/-- What becomes of a session when its sheet was saved, or was not. -/
def saved (s : Session) (path : String) (failure : Option StorageError) : Session :=
  (match failure with
    | none => { s with status := some ("Saved to " ++ path), fileName := some path }
    | some e => s.say ("Save failed: " ++ e.text)).closePrompt

/-- What becomes of a session when a sheet was loaded, or was not. A loaded sheet is shown
from its first cell on. -/
def loaded (s : Session) (path : String) (failure : Option StorageError) : Session :=
  (match failure with
    | none =>
      { s with
        selected := ⟨0, 0⟩
        scroll := ⟨0, 0⟩
        status := some ("Loaded from " ++ path)
        fileName := some path }
    | some e => s.say ("Load failed: " ++ e.text)).closePrompt

/-! ## Ending -/

/-- Asks whether to end the session. -/
def askExit (s : Session) : Session := { s with mode := .confirmExit }

/-- Ends the session, or goes on with it. -/
def answerExit (s : Session) (yes : Bool) : Session :=
  if yes then { s with finished := true } else { s with mode := .normal }

end Session
end FormulaGrid
