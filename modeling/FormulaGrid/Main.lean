/-
# The program

The command line on the files of the system. A session shows its first screen.
-/

import FormulaGrid.CommandLine
import FormulaGrid.Screen.Draw

namespace FormulaGrid
namespace CommandLine

/-- What the system says about a file. -/
def systemError : IO.Error → FileError
  | .noFileOrDirectory .. => .notFound
  | .inappropriateType _ 20 _ => .notFolder
  | .inappropriateType .. => .isFolder
  | e => .other (toString e)

/-- An action on a file, and what the system says if it fails. -/
def attempt {α : Type} (action : IO α) : IO (Except FileError α) := do
  try
    pure (.ok (← action))
  catch e => pure (.error (systemError e))

/-- The files of the system. -/
def Files.ofSystem : Files IO where
  read path := attempt do pure (← IO.FS.readBinFile path).toList
  make path := attempt (IO.FS.writeBinFile path ByteArray.empty)
  has path := do pure (← attempt (IO.FS.Handle.mk path .read)).isOk

/-- The lines of a picture without its colors. -/
def pictureText (p : Screen.Picture) : String :=
  String.join (p.map fun line => String.ofList (line.map Screen.Glyph.char) ++ "\n")

/-- The width of the screen that is shown. -/
def screenWidth : Nat := 80

/-- The height of the screen that is shown. -/
def screenHeight : Nat := 24

/-- The first screen of a session. -/
def firstScreen (s : Session) : String :=
  let (rows, cols) := Screen.windowSize screenWidth screenHeight
  pictureText (Screen.draw (s.resize rows cols) screenWidth screenHeight)

end CommandLine
end FormulaGrid

open FormulaGrid.CommandLine in
/-- Runs the command line. -/
def main (args : List String) : IO UInt32 := do
  match ← run Files.ofSystem args with
  | .report r =>
    (← IO.getStdout).putStr r.out
    (← IO.getStderr).putStr r.err
    pure (UInt32.ofNat r.code)
  | .session s =>
    (← IO.getStdout).putStr (firstScreen s)
    pure 0
