/-
# The two halves of a line

A line with a cursor in it is the text before the cursor and the text after it (`Halves`). A key
takes characters from the facing ends of the two, puts one there, or moves some from one half to the
other, always whole ones (`Halves.press`). **A line is edited as its halves are** (`edit_eq`), also
if its cursor was beyond its end.

A line that is kept in bytes has to find the offset of its cursor for that. It finds one for every
key, and the bytes afterwards are those of the edited line (`editBytes?_eq`).
-/

import Mathlib.Data.List.Induction
import FormulaGrid.Session.Line
import FormulaGrid.Proofs.Text.Offset

namespace FormulaGrid
namespace Session

/-- **The text before and after a cursor.** -/
structure Halves where
  before : List Char
  after : List Char

namespace Halves

/-- The halves of a line after a key. -/
def press (h : Halves) : Key → Halves
  | .backspace => { h with before := h.before.dropLast }
  | .delete => { h with after := h.after.tail }
  | .left => ⟨h.before.dropLast, h.before.getLast?.toList ++ h.after⟩
  | .right => ⟨h.before ++ h.after.head?.toList, h.after.tail⟩
  | .home => ⟨[], h.before ++ h.after⟩
  | .lineEnd => ⟨h.before ++ h.after, []⟩
  | .char c => { h with before := h.before ++ [c] }
  | _ => h

/-- The line that two halves are put together to. -/
def line (h : Halves) : Line := ⟨h.before ++ h.after, h.before.length⟩

end Halves

namespace Line

/-- The halves of a line. A cursor beyond its end leaves nothing after it. -/
def halves (l : Line) : Halves := ⟨l.text.take l.cursor, l.text.drop l.cursor⟩

variable {l : Line} {k : Key}

/-- The halves of a line make up the line, its cursor no further than its end. -/
theorem line_halves (l : Line) : l.halves.line = l.clamped := by
  rw [Halves.line, halves, List.take_append_drop, List.length_take, clamped]

/-- Halves are those of the line that they make up. -/
theorem halves_line (h : Halves) : h.line.halves = h := by
  rw [halves, Halves.line, List.take_left, List.drop_left]

/-- The character after a cursor is taken away. -/
theorem eraseIdx_length (before after : List Char) :
    (before ++ after).eraseIdx before.length = before ++ after.tail := by
  rw [List.eraseIdx_append_of_length_le (Nat.le_refl _), Nat.sub_self, List.eraseIdx_zero]

/-- **Two halves are edited as the line that they make up.** -/
theorem editClamped_line (h : Halves) (k : Key) : h.line.editClamped k = (h.press k).line := by
  obtain ⟨before, after⟩ := h
  have hle : before.length ≤ (before ++ after).length := by simp
  cases k with
  | backspace =>
    -- a character before the cursor is the last one of its half
    cases before using List.reverseRecOn with
    | nil => rfl
    | append_singleton front c =>
      simp [Halves.line, Halves.press, editClamped, eraseIdx_length]
  | delete => simp [Halves.line, Halves.press, editClamped, eraseIdx_length]
  | left =>
    cases before using List.reverseRecOn with
    | nil => rfl
    | append_singleton front c => simp [Halves.line, Halves.press, editClamped]
  | right =>
    cases after with
    | nil => simp [Halves.line, Halves.press, editClamped]
    | cons c rest => simp [Halves.line, Halves.press, editClamped]
  | lineEnd => simp [Halves.line, Halves.press, editClamped]
  | char c => simp [Halves.line, Halves.press, editClamped, Text.insertIdx_eq c hle]
  | _ => rfl

/-- **A line is edited as its halves are.** -/
theorem edit_eq (l : Line) (k : Key) : l.edit k = (l.halves.press k).line := by
  rw [edit, ← line_halves, editClamped_line]

/-- **A line in bytes is edited as the line is,** and its characters stay whole. -/
theorem editBytes?_eq (l : Line) (k : Key) :
    editBytes? (Text.utf8 l.text) l.cursor k =
      some (Text.utf8 (l.edit k).text, (l.edit k).cursor) := by
  obtain ⟨text, cursor⟩ := l
  have hcursor : min cursor text.length ≤ text.length := Nat.min_le_right _ _
  rw [edit, clamped]
  cases k <;> simp only [editBytes?, Text.length_starts] <;>
    generalize min cursor text.length = place at hcursor ⊢
  case backspace =>
    rw [editClamped]
    split
    · next hpos =>
      have hlt : place - 1 < text.length := by omega
      rw [Text.removeAt?_offset hlt, Option.map_some]
    · rfl
  case delete =>
    rw [editClamped]
    split
    · next hlt => rw [Text.removeAt?_offset hlt, Option.map_some]
    · next hend => rw [List.eraseIdx_of_length_le (Nat.le_of_not_lt hend)]
  case char c => rw [editClamped, Text.insertAt?_offset c hcursor, Option.map_some]
  all_goals rfl

end Line
end Session
end FormulaGrid
