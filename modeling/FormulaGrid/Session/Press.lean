/-
# What keys do

| mode | key | what it does |
| --- | --- | --- |
| normal, with control | `s`, `o` | asks where to save, what to load |
| | `r`, `d` | adds, deletes the last row |
| | `n`, `x` | adds, deletes the last column |
| | `f` | changes between values and texts |
| normal | arrows, `h j k l` | move the selection |
| | enter, F2, `=` | edit the cell, the last with a new formula |
| | backspace, delete | empty the cell |
| | F5, F1 or `?`, `q` | compute anew, help, ask whether to end |
| help | arrows, `j k`, page keys, home | scroll |
| | escape, F1, `?`, `q` | close the help |
| editing, file name | enter, escape | finish, give up; all other keys edit the line |
| confirm exit | `y`, `Y` | ends the session; all other keys go on with it |

In normal mode without control every key clears what was said about the key before it.
Letters count as they are: control with a capital letter does nothing.

A session is used by pressing keys and by giving its window another size (`Event`). A key meets
the disk as it is when the key is pressed: nothing is said about who else writes files. The program
around a session can act on it in other ways as well (`Action`).
-/

import FormulaGrid.Session.Basic
import FormulaGrid.Session.Line

namespace FormulaGrid
namespace Session

/-- The number of lines that a page key scrolls the help. -/
def helpPage : Nat := 5

/-- A key with control in normal mode. -/
def pressControl (s : Session) : Key → Session
  | .char 's' => s.askSave
  | .char 'o' => s.askLoad
  | .char 'r' => s.addRow
  | .char 'd' => s.deleteRow
  | .char 'n' => s.addColumn
  | .char 'x' => s.deleteColumn
  | .char 'f' => s.toggleView
  | _ => s

/-- A key without control in normal mode, when nothing is said any more. -/
def pressPlain (s : Session) : Key → Session
  | .up | .char 'k' => s.move (-1) 0
  | .down | .char 'j' => s.move 1 0
  | .left | .char 'h' => s.move 0 (-1)
  | .right | .char 'l' => s.move 0 1
  | .enter | .function 2 => s.startEditing
  | .char '=' => s.startFormula
  | .backspace | .delete => s.setSelected ""
  | .function 5 => s.recalculate
  | .function 1 | .char '?' => { s with mode := .help, helpScroll := 0 }
  | .char 'q' => s.askExit
  | _ => s

/-- A key in normal mode. -/
def pressNormal (s : Session) (k : KeyPress) : Session :=
  if k.modifiers.control then s.pressControl k.key
  else ({ s with status := none }).pressPlain k.key

/-- A key while a cell is edited. -/
def pressEditing (s : Session) : Key → Session
  | .enter => s.finishEditing
  | .escape => s.cancelEditing
  | k =>
    let l := Line.edit ⟨s.input.toList, s.cursor⟩ k
    { s with input := String.ofList l.text, cursor := l.cursor }

/-- A key while the help is shown. -/
def pressHelp (s : Session) : Key → Session
  | .escape | .function 1 | .char '?' | .char 'q' => { s with mode := .normal }
  | .up | .char 'k' => { s with helpScroll := s.helpScroll - 1 }
  | .down | .char 'j' => { s with helpScroll := s.helpScroll + 1 }
  | .pageUp => { s with helpScroll := s.helpScroll - helpPage }
  | .pageDown => { s with helpScroll := s.helpScroll + helpPage }
  | .home => { s with helpScroll := 0 }
  | _ => s

/-- Saves the sheet to the file named. -/
def saveNamed (s : Session) (d : Disk) : Session × Disk :=
  let path := s.typedFileName
  match s.sheet.saveTo d path with
  | .ok d' => (s.saved path none, d')
  | .error e => (s.saved path (some e), d)

/-- Loads the sheet from the file named. -/
def loadNamed (s : Session) (d : Disk) : Session :=
  let path := s.typedFileName
  match s.sheet.loadFrom d path with
  | .ok sheet => ({ s with sheet }).loaded path none
  | .error e => s.loaded path (some e)

/-- A key, other than enter, while a file name is asked for. -/
def pressName (s : Session) : Key → Session
  | .escape => s.closePrompt
  | k =>
    let l := Line.edit ⟨s.nameInput.toList, s.cursor⟩ k
    { s with nameInput := String.ofList l.text, cursor := l.cursor }

/-- A key while it is asked whether to end the session. -/
def pressConfirm (s : Session) (k : Key) : Session :=
  s.answerExit (k = .char 'y' || k = .char 'Y')

/-- **A session, and the disk it runs on, after a key.** -/
def press (s : Session) (d : Disk) (k : KeyPress) : Session × Disk :=
  match s.mode with
  | .normal => (s.pressNormal k, d)
  | .editing => (s.pressEditing k.key, d)
  | .help => (s.pressHelp k.key, d)
  | .saveAs => if k.key = .enter then s.saveNamed d else (s.pressName k.key, d)
  | .loadFile => (if k.key = .enter then s.loadNamed d else s.pressName k.key, d)
  | .confirmExit => (s.pressConfirm k.key, d)

/-! ## Histories -/

/-- **What happens to a session.** -/
inductive Event where
  | press (k : KeyPress) (disk : Disk)
  | resize (rows cols : Nat)

/-- The session after an event. -/
def Event.apply (s : Session) : Event → Session
  | press k disk => (s.press disk k).1
  | resize rows cols => s.resize rows cols

/-- **A session that was used:** the events that happened to a new one, the first one first. -/
def used (sheet : Sheet) (events : List Event) : Session := events.foldl Event.apply (start sheet)

/-- **What can be done to a session,** by its user or by the program around it. -/
inductive Action where
  | event (e : Event)
  | move (rows cols : Int)
  | showSelected
  | addRow
  | deleteRow
  | addColumn
  | deleteColumn
  | recalculate
  | toggleView
  | startEditing
  | finishEditing
  | cancelEditing
  | askSave
  | askLoad
  | closePrompt
  | saved (path : String) (failure : Option StorageError)
  | loaded (path : String) (failure : Option StorageError)
  | askExit
  | answerExit (yes : Bool)

/-- The session after an action. -/
def Action.apply (s : Session) : Action → Session
  | event e => e.apply s
  | move rows cols => s.move rows cols
  | showSelected => s.showSelected
  | addRow => s.addRow
  | deleteRow => s.deleteRow
  | addColumn => s.addColumn
  | deleteColumn => s.deleteColumn
  | recalculate => s.recalculate
  | toggleView => s.toggleView
  | startEditing => s.startEditing
  | finishEditing => s.finishEditing
  | cancelEditing => s.cancelEditing
  | askSave => s.askSave
  | askLoad => s.askLoad
  | closePrompt => s.closePrompt
  | saved path failure => s.saved path failure
  | loaded path failure => s.loaded path failure
  | askExit => s.askExit
  | answerExit yes => s.answerExit yes

/-- **A session that was acted on:** the actions on a new one, the first one first. -/
def acted (sheet : Sheet) (actions : List Action) : Session :=
  actions.foldl Action.apply (start sheet)

end Session
end FormulaGrid
