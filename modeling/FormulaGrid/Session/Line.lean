/-
# Editing a line

A line of text is edited at a cursor, which stands before one of its characters or at its
end and is counted in characters. A cursor beyond the end counts as one at the end.

| key | what it does |
| --- | --- |
| a character | is inserted before the cursor |
| backspace, delete | take away the character before, after the cursor |
| left, right | move the cursor over one character |
| home, end | move the cursor to either end |

Every other key leaves the line as it is, and so does a key that would go beyond an end.

A line may be kept in its UTF-8 bytes. Then each key has to find the offset of the cursor in them
(`editBytes?`).
-/

import FormulaGrid.Session.Key
import FormulaGrid.Text.Offset

namespace FormulaGrid
namespace Session

/-- A line of text and a cursor in it. -/
structure Line where
  text : List Char
  cursor : Nat
deriving DecidableEq, Repr

namespace Line

/-- The line with its cursor no further than its end. -/
def clamped (l : Line) : Line := { l with cursor := min l.cursor l.text.length }

/-- A line, its cursor inside, after a key. -/
def editClamped (l : Line) : Key → Line
  | .backspace =>
    if 0 < l.cursor then ⟨l.text.eraseIdx (l.cursor - 1), l.cursor - 1⟩ else l
  | .delete => { l with text := l.text.eraseIdx l.cursor }
  | .left => { l with cursor := l.cursor - 1 }
  | .right => { l with cursor := min (l.cursor + 1) l.text.length }
  | .home => { l with cursor := 0 }
  | .lineEnd => { l with cursor := l.text.length }
  | .char c => ⟨l.text.insertIdx l.cursor c, l.cursor + 1⟩
  | _ => l

/-- **A line after a key.** -/
def edit (l : Line) (k : Key) : Line := l.clamped.editClamped k

/-- **A line in bytes after a key,** unless the key would cut a character in two. -/
def editBytes? (bs : Text.Bytes) (cursor : Nat) (k : Key) : Option (Text.Bytes × Nat) :=
  let count := (Text.starts bs).length
  let cursor := min cursor count
  match k with
  | .backspace =>
    if 0 < cursor then
      (Text.removeAt? bs (Text.offset bs (cursor - 1))).map fun bs => (bs, cursor - 1)
    else some (bs, cursor)
  | .delete =>
    if cursor < count then (Text.removeAt? bs (Text.offset bs cursor)).map fun bs => (bs, cursor)
    else some (bs, cursor)
  | .left => some (bs, cursor - 1)
  | .right => some (bs, min (cursor + 1) count)
  | .home => some (bs, 0)
  | .lineEnd => some (bs, count)
  | .char c => (Text.insertAt? bs (Text.offset bs cursor) c).map fun bs => (bs, cursor + 1)
  | _ => some (bs, cursor)

end Line
end Session
end FormulaGrid
