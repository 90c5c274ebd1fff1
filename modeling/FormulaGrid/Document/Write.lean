/-
# Writing documents

A sheet is written as the list of its rows, each a list of strings, its texts. Every bracket
and every string has a line of its own, indented by two spaces for each list around it:

    [
      [
        "5",
        "=A1*2"
      ]
    ]

There is no line feed at the end. Values and the view are not written.
-/

import FormulaGrid.Document.Literal
import FormulaGrid.Sheet.Basic

namespace FormulaGrid
namespace Document

open Text (Bytes)

/-- The start of a line inside `depth` lists. -/
def newLine (depth : Nat) : List Char := '\n' :: List.replicate (2 * depth) ' '

/-- Written items, the first one after `start`, each further one after a comma and `start`. -/
def separated (start : List Char) : List (List Char) → List Char
  | [] => []
  | [item] => start ++ item
  | item :: items => start ++ item ++ ',' :: separated start items

/-- A written list inside `depth` lists. -/
def writtenList (depth : Nat) (items : List (List Char)) : List Char :=
  '[' :: (separated (newLine (depth + 1)) items ++ newLine depth ++ [']'])

/-- A written row. -/
def writtenRow (row : List String) : List Char := writtenList 1 (row.map literal)

/-- Written rows. -/
def writtenTexts (rows : List (List String)) : List Char := writtenList 0 (rows.map writtenRow)

/-- **The document of a sheet** as a text. -/
def written (s : Sheet) : List Char := writtenTexts s.texts

/-- **The document of a sheet.** -/
def ofSheet (s : Sheet) : Bytes := Text.utf8 (written s)

end Document
end FormulaGrid
