/-
# The help

The help is a text of 41 lines, of which a popup shows as many as fit, from the line that
the help has been scrolled to. It never scrolls past the point where its last line is the
last one shown.

The popup takes four fifths of the screen, as long as four times its width and its height have no
more than 16 bits; these are the screens below 16384 places and lines. On a larger one the popup
is smaller.
-/

import FormulaGrid.Screen.Glyph

namespace FormulaGrid
namespace Screen

/-- The lines of the help. -/
def helpText : List String :=
  [
    "GRIDCALC",
    "",
    "=== CELLS ===",
    "• Text starting with = is a formula; anything else is shown as typed",
    "• Cells are named by column letters and row number: A1, B12, AA3",
    "• Names are case insensitive",
    "• A formula that refers to a text or empty cell shows #ERROR",
    "",
    "=== OPERATORS (highest precedence first) ===",
    "( )             Grouping",
    "-x  +x          Negation / identity",
    "++x  x++        Add one (also: inc x, x inc)",
    "--x  x--        Subtract one (also: dec x, x dec)",
    "^               Power, right-associative     =2^3^2 → 512",
    "*  /            Multiply, divide              =A1*2",
    "mod  %          Remainder                     =7 mod 3 → 1",
    "div             Integer division              =7 div 2 → 3",
    "+  -            Add, subtract",
    "",
    "Note: write 5 - -3, not 5--3 (-- is decrement)",
    "",
    "=== FUNCTIONS ===",
    "mmin(a, b, ...) Smallest argument             =mmin(A1, B1, 7)",
    "mmax(a, b, ...) Largest argument              =mmax(A1, 0)",
    "",
    "=== ERRORS ===",
    "Division by zero, circular references, references outside the",
    "grid and syntax errors show as #ERROR: <reason> in the cell.",
    "",
    "=== KEYS ===",
    "Arrows / hjkl   Move selection",
    "Enter / F2      Edit selected cell",
    "=               Start a new formula in the selected cell",
    "Delete          Clear selected cell",
    "F5              Recalculate everything",
    "Ctrl+F          Toggle between values and expressions",
    "Ctrl+R / Ctrl+D Add / delete last row",
    "Ctrl+N / Ctrl+X Add / delete last column",
    "Ctrl+S / Ctrl+O Save / load (JSON)",
    "F1 or ?         This help",
    "q               Quit (asks for confirmation)"]

/-- The first line of the help that is shown, counted from zero, if it has been scrolled down
by `scroll` lines and `visible` lines fit. -/
def helpStart (scroll visible : Nat) : Nat := min scroll (helpText.length - visible)

/-- The title of the help. -/
def helpTitle (first : Nat) : String :=
  "Help (line " ++ Nat.repr (first + 1) ++ "/" ++ Nat.repr helpText.length ++ ")"

/-- **Four fifths of a width or height of the screen**, which the help takes. Sizes have 16 bits,
and of four times a size no more than these are kept. -/
def helpSize (size : Nat) : Nat := size * 4 % 0x10000 / 5

/-- **The help**, in a box of a given size. -/
def helpBox (scroll width height : Nat) : Picture :=
  let visible := height - 2
  let first := helpStart scroll visible
  let shown := (helpText.drop first).take visible
  box ⟨.cyan, .usual⟩ (helpTitle first) width height
    (shown.map fun l => ink ⟨.white, .usual⟩ l.toList) ⟨.white, .usual⟩

end Screen
end FormulaGrid
