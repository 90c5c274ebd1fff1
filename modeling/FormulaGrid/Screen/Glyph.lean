/-
# Pictures of characters

A screen shows characters in colors, one in each place. A picture is a list of lines, each
a list of glyphs. Texts are cut at the edge of what they are drawn in and never wrap. They are
texts of printable characters that are one place wide.

Boxes are drawn with a line around them, and their title stands over the upper line, from
its second place on:

    ┌title─┐
    │      │
    └──────┘
-/

namespace FormulaGrid
namespace Screen

/-- The colors of a screen; `usual` is the one that nothing is said about. -/
inductive Color where
  | usual
  | black
  | red
  | green
  | yellow
  | blue
  | cyan
  | white
  | lightBlue
deriving DecidableEq, Repr

/-- The color of a character and the one behind it. -/
structure Paint where
  fore : Color
  back : Color
deriving DecidableEq, Repr

/-- The colors that nothing is said about. -/
def usual : Paint := ⟨.usual, .usual⟩

/-- A character in its colors. -/
structure Glyph where
  char : Char
  paint : Paint
deriving DecidableEq, Repr

/-- The lines of a part of the screen. -/
abbrev Picture := List (List Glyph)

/-- A text in some colors. -/
def ink (p : Paint) (cs : List Char) : List Glyph := cs.map (⟨·, p⟩)

/-- A number of spaces in some colors. -/
def space (p : Paint) (n : Nat) : List Glyph := List.replicate n ⟨' ', p⟩

/-- Glyphs cut to a width, or filled up to it with spaces in some colors. -/
def fit (p : Paint) (width : Nat) (gs : List Glyph) : List Glyph :=
  gs.take width ++ space p (width - gs.length)

/-- Fitted glyphs have the width they are fitted to. -/
theorem length_fit (p : Paint) (width : Nat) (gs : List Glyph) :
    (fit p width gs).length = width := by
  simp only [fit, space, List.length_append, List.length_take, List.length_replicate]
  omega

/-- The first line of a text. -/
def firstLine (cs : List Char) : List Char := cs.takeWhile (· != '\n')

/-- A text in some colors, cut to a width or filled up to it. -/
def field (p : Paint) (width : Nat) (text : String) : List Glyph :=
  fit p width (ink p (firstLine text.toList))

/-- A line of a box: its content between two lines. -/
def boxLine (border inside : Paint) (width : Nat) (content : List Glyph) : List Glyph :=
  ⟨'│', border⟩ :: (fit inside (width - 2) content ++ [⟨'│', border⟩])

/-- The upper line of a box, with its title. -/
def boxTop (border : Paint) (title : String) (width : Nat) : List Glyph :=
  let title := (ink border title.toList).take (width - 2)
  ⟨'┌', border⟩ :: (title ++ List.replicate (width - 2 - title.length) ⟨'─', border⟩ ++
    [⟨'┐', border⟩])

/-- The lower line of a box. -/
def boxBottom (border : Paint) (width : Nat) : List Glyph :=
  ⟨'└', border⟩ :: (List.replicate (width - 2) ⟨'─', border⟩ ++ [⟨'┘', border⟩])

/-- **A box of a given size**, at least two wide and two high, around some lines. -/
def box (border : Paint) (title : String) (width height : Nat) (content : Picture)
    (inside : Paint) : Picture :=
  let lines := content.take (height - 2)
  let missing := List.replicate (height - 2 - lines.length) []
  boxTop border title width :: ((lines ++ missing).map (boxLine border inside width) ++
    [boxBottom border width])

/-- A line with glyphs laid over it from a place on. -/
def coverLine (x : Nat) (line cover : List Glyph) : List Glyph :=
  line.take x ++ cover ++ line.drop (x + cover.length)

/-- **A picture laid over another**, its upper left corner at a place. -/
def cover (x y : Nat) (under top : Picture) : Picture :=
  under.take y ++ List.zipWith (coverLine x) (under.drop y) top ++ under.drop (y + top.length)

end Screen
end FormulaGrid
