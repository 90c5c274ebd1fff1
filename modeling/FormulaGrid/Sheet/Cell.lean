/-
# Cells

A cell holds the text that was typed and the value last computed from it. Blanks at either
end of the text never matter to what kind of cell it is:

| text, trimmed | cell | value |
| --- | --- | --- |
| nothing | blank | none |
| starts with `=` | formula | its number or error |
| anything else | literal | the text itself, as typed |

A formula may refer to a literal if the trimmed text is a numeral.
-/

import FormulaGrid.Formula.Error
import FormulaGrid.Number.Decimal
import FormulaGrid.Text.Blank

namespace FormulaGrid

/-- The value of a cell. -/
inductive Value where
  | empty
  | number (x : Float)
  | text (s : String)
  | error (e : Formula.Error)
deriving Inhabited

/-- A value as it is shown. -/
def Value.shown : Value → String
  | empty => ""
  | number x => Number.text x
  | text s => s
  | error e => "#ERROR: " ++ e.text

/-- Whether two values are the same: numbers as numbers, so that what is not a number
differs from itself, texts and errors by their wording. -/
def Value.same : Value → Value → Bool
  | empty, empty => true
  | number x, number y => x == y
  | text s, text t => s == t
  | error e, error f => e.text == f.text
  | _, _ => false

/-- A cell: its text and the value last computed. -/
structure Cell where
  text : String
  value : Value
deriving Inhabited

namespace Cell

/-- The character that marks a formula. -/
def formulaMark : Char := '='

/-- A cell with a text that has not been evaluated. -/
def ofText (s : String) : Cell := ⟨s, .empty⟩

/-- The empty cell. -/
def blank : Cell := ofText ""

/-- Whether a text is blank. -/
def isBlank (s : String) : Bool := (Text.trim s.toList).isEmpty

/-- Whether a text is a formula. -/
def isFormula (s : String) : Bool := (Text.trimStart s.toList).head? == some formulaMark

/-- The text of a formula without its mark and the blanks around it; nothing for a text
that is no formula. -/
def formula? (s : String) : Option (List Char) :=
  match Text.trim s.toList with
  | c :: r => if c = formulaMark then some r else none
  | [] => none

/-- **The number of a literal** that a formula refers to. Trimmed, it is a text for a number that is
made of the characters of numerals, so that a word is none. -/
def literal? (s : String) : Option Float :=
  let t := Text.trim s.toList
  if t.all Number.isNumeralChar then Number.ofText? t else none

end Cell
end FormulaGrid
