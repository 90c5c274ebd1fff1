/-
# The screen of a session

From top to bottom the screen shows one line on the selected cell, a box with the window on
the sheet, and a box with the status:

    gridcalc | B2 | =A1
    ┌20x20─────────────────────────┐
    │      A          B            │
    │1     5          10           │
    └──────────────────────────────┘
    ┌Status────────────────────────┐
    │File: unsaved | Enter: edit | │
    └──────────────────────────────┘

In the window, the row numbers take 5 places and every column 10, after one place of space.
A screen of width `w` and height `h` has room for `h - 7` rows and `(w - 7) / 11` columns
of the sheet. The selected cell stands out in white on blue, errors in red.
-/

import FormulaGrid.Screen.Help
import FormulaGrid.Session.Basic

namespace FormulaGrid
namespace Screen

/-- The width of a column. -/
def columnWidth : Nat := 10

/-- The width of the row numbers. -/
def labelWidth : Nat := 5

/-- The lines that are not in the box of the window. -/
def outerLines : Nat := 4

/-- **The rows and columns of the sheet that a screen has room for**, at least one each. -/
def windowSize (width height : Nat) : Nat × Nat :=
  (max (height - (outerLines + 3)) 1, max ((width - (2 + labelWidth)) / (columnWidth + 1)) 1)

/-- The name of the program, which starts the first line. -/
def programName : String := "gridcalc"

/-- The first line: the name and the text of the selected cell. -/
def headerLine (s : Session) (width : Nat) : List Glyph :=
  field ⟨.cyan, .usual⟩ width
    (programName ++ " | " ++ s.selected.name ++ " | " ++ s.sheet.text s.selected)

/-- The numbers from the first one that a window shows to the last one there is. -/
def shownRange (first size count : Nat) : List Nat :=
  List.range' first (min (first + size) count - first)

/-- The rows of the sheet that the window shows. -/
def shownRows (s : Session) : List Nat := shownRange s.scroll.row s.viewRows s.sheet.rows

/-- The columns of the sheet that the window shows. -/
def shownCols (s : Session) : List Nat := shownRange s.scroll.col s.viewCols s.sheet.cols

/-- The colors of a row number or of column letters. -/
def labelPaint (selected : Bool) : Paint :=
  if selected then ⟨.black, .lightBlue⟩ else ⟨.yellow, .usual⟩

/-- How the text of a cell that shows an error starts. -/
def errorMark : String := "#ERROR"

/-- The colors of a cell. -/
def cellPaint (selected : Bool) (text : String) : Paint :=
  if selected then ⟨.white, .blue⟩
  else if errorMark.toList.isPrefixOf text.toList then ⟨.red, .usual⟩
  else usual

/-- A place of space and a text as wide as a column. -/
def columnField (p : Paint) (text : String) : List Glyph :=
  space usual 1 ++ field p columnWidth text

/-- The line of the column letters. -/
def lettersLine (s : Session) : List Glyph :=
  space usual labelWidth ++ (shownCols s).flatMap fun col =>
    columnField (labelPaint (col = s.selected.col)) (Column.name (col + 1))

/-- The cell at an address. -/
def cellField (s : Session) (a : Address) : List Glyph :=
  let text := s.sheet.shown a
  columnField (cellPaint (a = s.selected) text) text

/-- The line of a row of the sheet. -/
def rowLine (s : Session) (row : Nat) : List Glyph :=
  field (labelPaint (row = s.selected.row)) labelWidth (Nat.repr (row + 1)) ++
    (shownCols s).flatMap fun col => cellField s ⟨row, col⟩

/-- The title of the window: the size of the sheet, and whether texts are shown. -/
def windowTitle (s : Session) : String :=
  Nat.repr s.sheet.rows ++ "x" ++ Nat.repr s.sheet.cols ++
    if s.sheet.formulaView then " [expressions]" else ""

/-- The window on the sheet, in a box of a given size. -/
def window (s : Session) (width height : Nat) : Picture :=
  box usual (windowTitle s) width height (lettersLine s :: (shownRows s).map (rowLine s)) usual

/-- What the status says. -/
def statusText (s : Session) : String :=
  match s.mode with
  | .normal =>
    s.status.getD
      ("File: " ++ s.fileName.getD "unsaved" ++
        " | Enter: edit | Ctrl+S: save | Ctrl+O: load | F1/?: help | q: quit")
  | .editing => s.selected.name ++ ": " ++ s.input ++ " (Enter to save, Esc to cancel)"
  | .help => "↑↓/jk: scroll | PgUp/PgDn: fast scroll | Home: top | Esc/q: close help"
  | .saveAs => "Save as: " ++ s.nameInput ++ " (Enter to save, Esc to cancel)"
  | .loadFile => "Load file: " ++ s.nameInput ++ " (Enter to load, Esc to cancel)"
  | .confirmExit => "Really quit? (y/n)"

/-- The color of the status. -/
def statusColor : Session.Mode → Color
  | .normal => .usual
  | .editing => .green
  | .help => .cyan
  | .saveAs => .yellow
  | .loadFile => .yellow
  | .confirmExit => .red

/-- The status, in a box of three lines. -/
def statusBox (s : Session) (width : Nat) : Picture :=
  let p : Paint := ⟨statusColor s.mode, .usual⟩
  box p "Status" width 3 [ink p (firstLine (statusText s).toList)] p

/-- The screen without the help. -/
def base (s : Session) (width height : Nat) : Picture :=
  headerLine s width :: (window s width (height - outerLines) ++ statusBox s width)

/-- **The screen of a session.** The help leaves a tenth of the screen free at its left and
above, and takes four fifths of its width and height, computed in 16 bits (`helpSize`). -/
def draw (s : Session) (width height : Nat) : Picture :=
  if s.mode = .help then
    cover (width / 10) (height / 10) (base s width height)
      (helpBox s.helpScroll (helpSize width) (helpSize height))
  else base s width height

end Screen
end FormulaGrid
