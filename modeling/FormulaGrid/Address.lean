/-
# Addresses and their names

A cell is addressed by a row and a column, both counted from zero. Its name is the
letters of its column followed by the decimal number of its row, both counted from one:

| address | name |
| --- | --- |
| `⟨0, 0⟩` | `A1` |
| `⟨11, 1⟩` | `B12` |
| `⟨0, 26⟩` | `AA1` |

Column letters are a positional system in base 26 whose digits are `A` = 1 … `Z` = 26, so
that there is no zero digit and no two spellings of one number. Names are read in either
letter case and with leading zeros in the row number; numbers of `2 ^ 64` and more name
nothing.
-/

namespace FormulaGrid

/-- Row and column numbers in a name are smaller than this, which is `2 ^ 64`. -/
def numberLimit : Nat := 0x10000000000000000

/-- The place of a cell: row and column, both counted from zero. -/
structure Address where
  row : Nat
  col : Nat
deriving DecidableEq, Repr, Inhabited

namespace Column

/-- The letter whose digit value is `d + 1`. -/
def letter (d : Nat) : Char := Char.ofNat ('A'.toNat + d)

/-- **The letters of a column number**, counted from one; no letters for zero. The last
letter is the remainder of `n - 1` by 26, the letters before it those of the quotient. -/
def letters (n : Nat) : List Char :=
  if n = 0 then [] else letters ((n - 1) / 26) ++ [letter ((n - 1) % 26)]
termination_by n
decreasing_by omega

/-- The letters of a column number as a string. -/
def name (n : Nat) : String := String.ofList (letters n)

/-- The digit value of a letter, 1 to 26, in either case. -/
def digit? (c : Char) : Option Nat :=
  if c.isUpper then some (c.toNat - 'A'.toNat + 1)
  else if c.isLower then some (c.toNat - 'a'.toNat + 1)
  else none

/-- One more letter after letters worth `n`. -/
def appendDigit? (n : Nat) (c : Char) : Option Nat := do
  let d ← digit? c
  let m := n * 26 + d
  if m < numberLimit then some m else none

/-- **The column number that letters stand for**, counted from one. No letters, another
character among them, or a number of `2 ^ 64` and more stand for nothing. -/
def number? (cs : List Char) : Option Nat :=
  if cs.isEmpty then none else cs.foldlM appendDigit? 0

end Column

namespace Address

/-- **The name of a cell:** its column's letters, then its row's number. -/
def name (a : Address) : String :=
  Column.name (a.col + 1) ++ Nat.repr (a.row + 1)

/-- The row, counted from zero, that the digits after the letters stand for. -/
def rowNumber? (digits : List Char) : Option Nat :=
  if digits.isEmpty || !digits.all Char.isDigit then none
  else
    let n := Nat.ofDigitChars 10 digits 0
    if 0 < n ∧ n < numberLimit then some (n - 1) else none

/-- **The cell a name stands for:** ASCII letters and then ASCII digits, nothing else. -/
def ofName? (s : String) : Option Address := do
  let cs := s.toList
  let col ← Column.number? (cs.takeWhile Char.isAlpha)
  let row ← rowNumber? (cs.dropWhile Char.isAlpha)
  some ⟨row, col - 1⟩

end Address
end FormulaGrid
