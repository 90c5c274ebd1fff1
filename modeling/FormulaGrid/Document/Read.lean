/-
# Reading documents

A document is a list of lists of strings, with blanks (space, tab, line feed, carriage
return) before, between and after its parts:

    document = list of row, nothing after it
    row      = list of string
    list     = "[" [ item { "," item } ] "]"

The first thing wrong is what a document is refused for. Whether the rows are a rectangle is
known when the outer list is closed, and is asked before what follows it is looked at.

A reader takes some bytes off the front of a document, never none (`Reader.shorter`), so a
list of items comes to an end.
-/

import FormulaGrid.Document.Literal
import FormulaGrid.Document.Numeral
import FormulaGrid.Sheet.Basic

namespace FormulaGrid
namespace Document

open Text (Bytes)

/-- Reads a value off the front of a document, and leaves less of it. -/
structure Reader (α : Type) where
  read : Bytes → Except Stop (α × Bytes)
  shorter : ∀ {bs r : Bytes} {a : α}, read bs = .ok (a, r) → r.length < bs.length

/-- The blanks between the parts of a document. -/
def isBlank (b : UInt8) : Bool := b == 32 || b == 9 || b == 10 || b == 13

/-- A document without the blanks it starts with. -/
def skipBlanks (bs : Bytes) : Bytes := bs.dropWhile isBlank

/-- Skipping blanks lengthens nothing. -/
theorem skipBlanks_length_le (bs : Bytes) : (skipBlanks bs).length ≤ bs.length :=
  (bs.dropWhile_sublist isBlank).length_le

/-- The rest of a word, letter by letter, and what follows it. -/
def word : Bytes → Bytes → Except Stop Bytes
  | [], bs => .ok bs
  | _ :: _, [] => .error ⟨.endInValue, 0⟩
  | a :: letters, b :: r => if a = b then word letters r else .error ⟨.expectedWord, r.length⟩

/-- The letters after the first one of `null`. -/
def nullWord : Bytes := [117, 108, 108]

/-- The letters after the first one of `true`. -/
def trueWord : Bytes := [114, 117, 101]

/-- The letters after the first one of `false`. -/
def falseWord : Bytes := [97, 108, 115, 101]

/-- The stop at a word that is not what is wanted. -/
def wrongWord (wanted : Wanted) (kind : Kind) (letters r : Bytes) : Stop :=
  match word letters r with
  | .ok r => ⟨.wrongKind kind wanted, r.length⟩
  | .error stop => stop

/-- The stop at a number, which is never what is wanted. -/
def wrongNumber (wanted : Wanted) (negative : Bool) (bs : Bytes) : Stop :=
  match number negative bs with
  | .ok (kind, r) => ⟨.wrongKind kind wanted, peeked r⟩
  | .error stop => stop

/-- The stop at a string that is not what is wanted, after its opening quote. -/
def wrongString (wanted : Wanted) (r : Bytes) : Stop :=
  match string r with
  | .ok (cs, r) => ⟨.wrongKind (.string cs) wanted, r.length⟩
  | .error stop => stop

/-- **The stop at a value that is not what is wanted**, of which `b` is the first byte. Of
lists and maps only the bracket is looked at. -/
def wrongValue (wanted : Wanted) (b : UInt8) (r : Bytes) : Stop :=
  if b = 110 then wrongWord wanted .null nullWord r
  else if b = 116 then wrongWord wanted (.boolean true) trueWord r
  else if b = 102 then wrongWord wanted (.boolean false) falseWord r
  else if b = 45 then wrongNumber wanted true r
  else if isDigit b then wrongNumber wanted false (b :: r)
  else if b = 34 then wrongString wanted r
  else if b = 91 then ⟨.wrongKind .list wanted, r.length⟩
  else if b = 123 then ⟨.wrongKind .map wanted, r.length⟩
  else ⟨.expectedValue, r.length⟩

/-- A string where a cell is wanted. -/
def cell : Reader String where
  read bs :=
    match skipBlanks bs with
    | [] => .error ⟨.endInValue, 0⟩
    | b :: r =>
      if b = 34 then
        match string r with
        | .ok (cs, r) => .ok (String.ofList cs, r)
        | .error stop => .error stop
      else .error (wrongValue .cell b r)
  shorter {bs r a} h := by
    have hb := skipBlanks_length_le bs
    split at h
    · cases h
    · next heq =>
      rw [heq, List.length_cons] at hb
      split at h
      · split at h
        · next hs =>
          have := string_shorter hs
          cases h
          omega
        · cases h
      · cases h

/-- What comes next in a list: its end, or an item, and what is left from there on. -/
inductive Next where
  | finished (rest : Bytes)
  | item (bs : Bytes)

/-- What comes next in a list, at the first item or after an item. -/
def next (first : Bool) (bs : Bytes) : Except Stop Next :=
  match skipBlanks bs with
  | [] => .error ⟨.endInList, 0⟩
  | b :: r =>
    if b = 93 then .ok (.finished r)
    else if first then .ok (.item (b :: r))
    else if b = 44 then
      match skipBlanks r with
      | [] => .error ⟨.endInValue, 0⟩
      | b :: r => if b = 93 then .error ⟨.trailingComma, r.length⟩ else .ok (.item (b :: r))
    else .error ⟨.expectedCommaOrEnd, r.length⟩

/-- The end of a list is shorter than the list. -/
theorem next_finished_shorter {first : Bool} {bs r : Bytes} (h : next first bs = .ok (.finished r)) :
    r.length < bs.length := by
  have hb := skipBlanks_length_le bs
  unfold next at h
  split at h
  · cases h
  · next heq =>
    rw [heq, List.length_cons] at hb
    split at h
    · cases h
      omega
    · split at h
      · cases h
      · split at h
        · split at h
          · cases h
          · split at h <;> cases h
        · cases h

/-- The next item starts no earlier than where it was looked for. -/
theorem next_item_length_le {first : Bool} {bs r : Bytes} (h : next first bs = .ok (.item r)) :
    r.length ≤ bs.length := by
  have hb := skipBlanks_length_le bs
  unfold next at h
  split at h
  · cases h
  · next b r' heq =>
    rw [heq, List.length_cons] at hb
    split at h
    · cases h
    · split at h
      · cases h
        exact hb
      · split at h
        · have hr := skipBlanks_length_le r'
          split at h
          · cases h
          · next heq' =>
            rw [heq', List.length_cons] at hr
            split at h
            · cases h
            · cases h
              simp only [List.length_cons]
              omega
        · cases h

/-- The items of a list from some place in it on, after those read so far, which are in
reverse; and what follows the list. -/
def items {α : Type} (item : Reader α) (first : Bool) (soFar : List α) (bs : Bytes) :
    Except Stop (List α × Bytes) :=
  match _h : next first bs with
  | .error stop => .error stop
  | .ok (.finished r) => .ok (soFar.reverse, r)
  | .ok (.item r) =>
    match _h' : item.read r with
    | .error stop => .error stop
    | .ok (a, r') => items item false (a :: soFar) r'
termination_by bs.length
decreasing_by
  have := next_item_length_le _h
  have := item.shorter _h'
  omega

/-- The items of a list and its closing bracket take some bytes. -/
theorem items_shorter {α : Type} {item : Reader α} {first : Bool} {soFar as : List α}
    {bs r : Bytes} (h : items item first soFar bs = .ok (as, r)) : r.length < bs.length := by
  fun_induction items item first soFar bs with
  | case1 => cases h
  | case2 _ _ _ _ hn =>
    cases h
    exact next_finished_shorter hn
  | case3 => cases h
  | case4 _ _ _ _ hn _ _ hi ih =>
    have := next_item_length_le hn
    have := item.shorter hi
    have := ih h
    omega

/-- **A list of items**, where one is wanted. -/
def listOf {α : Type} (wanted : Wanted) (item : Reader α) : Reader (List α) where
  read bs :=
    match skipBlanks bs with
    | [] => .error ⟨.endInValue, 0⟩
    | b :: r => if b = 91 then items item true [] r else .error (wrongValue wanted b r)
  shorter {bs r a} h := by
    have hb := skipBlanks_length_le bs
    split at h
    · cases h
    · next heq =>
      rw [heq, List.length_cons] at hb
      split at h
      · have := items_shorter h
        omega
      · cases h

/-- The texts of a document, row by row. -/
def texts : Reader (List (List String)) := listOf .grid (listOf .row cell)

/-- The sheet of a document, or where the reading of it stopped. -/
def sheetOrStop (doc : Bytes) : Except Stop Sheet :=
  match texts.read doc with
  | .error stop => .error stop
  | .ok (rows, r) =>
    match Sheet.ofTexts? rows with
    | none => .error ⟨.notRectangle, r.length⟩
    | some s =>
      match skipBlanks r with
      | [] => .ok s
      | _ :: r => .error ⟨.trailingCharacters, r.length⟩

/-- **The sheet of a document**, or why it is refused. -/
def sheet (doc : Bytes) : Except Refusal Sheet :=
  (sheetOrStop doc).mapError (Stop.refusal doc)

end Document
end FormulaGrid
