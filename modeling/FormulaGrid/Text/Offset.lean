/-
# Changing a text in its bytes

A text that is kept as its UTF-8 bytes is changed at byte offsets, while places in it are counted in
characters. The offset of a character is found among those of the bytes that begin one.

| change | where it can be made |
| --- | --- |
| `removeAt?` takes out the character at an offset | where a character begins |
| `insertAt?` puts in a character at an offset | where a character begins, and at the end |

Elsewhere they would cut a character in two, and have no answer.
-/

import FormulaGrid.Text.Utf8

namespace FormulaGrid
namespace Text

/-- The offsets of the bytes that begin a character, of bytes that come after `n` others. -/
def startsFrom (n : Nat) : Bytes → List Nat
  | [] => []
  | b :: r => if Continues b then startsFrom (n + 1) r else n :: startsFrom (n + 1) r

/-- **The offsets at which characters begin.** -/
def starts (bs : Bytes) : List Nat := startsFrom 0 bs

/-- **The offset of a character,** or the number of all bytes if there are not so many
characters. -/
def offset (bs : Bytes) (i : Nat) : Nat := (starts bs)[i]?.getD bs.length

/-- Takes out the character at an offset. -/
def removeAt? (bs : Bytes) (n : Nat) : Option Bytes :=
  (firstChar? (bs.drop n)).map fun c => bs.take n ++ bs.drop (n + c.utf8Size)

/-- An offset that cuts no character in two. -/
def IsBoundary (bs : Bytes) (n : Nat) : Prop := n = bs.length ∨ n ∈ starts bs

instance (bs : Bytes) (n : Nat) : Decidable (IsBoundary bs n) :=
  inferInstanceAs (Decidable (_ ∨ _))

/-- Puts in a character at an offset. -/
def insertAt? (bs : Bytes) (n : Nat) (c : Char) : Option Bytes :=
  if IsBoundary bs n then some (bs.take n ++ String.utf8EncodeChar c ++ bs.drop n) else none

end Text
end FormulaGrid
