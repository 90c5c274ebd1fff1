/-
# Why a formula has no number

| error | shown as |
| --- | --- |
| `fault` | `Syntax error: … (position n)` |
| `divisionByZero` | `Division by zero` |
| `noArguments` | `Invalid argument: mmin() requires at least one argument` |
| `circular` | `Circular reference to A1` |
| `notANumber` | `Cell A1 is not a number` |
| `outOfRange` | `Reference Z999 is outside the grid` |
| `tooDeep` | `References through A1 are nested too deeply` |
-/

import FormulaGrid.Formula.Expr
import FormulaGrid.Formula.Fault

namespace FormulaGrid
namespace Formula

/-- Why a formula has no number. The names are those of the cells to blame. -/
inductive Error where
  /-- The text is no formula. -/
  | fault (f : Fault)
  /-- A divisor is zero. -/
  | divisionByZero
  /-- A function is called without arguments. -/
  | noArguments (function : Function)
  /-- A cell is needed for its own number. -/
  | circular (name : String)
  /-- A cell that is no formula does not hold a numeral. -/
  | notANumber (name : String)
  /-- A name denotes no cell of the grid. -/
  | outOfRange (name : String)
  /-- The formulas that lead to a cell are together too deep. -/
  | tooDeep (name : String)

/-- The wording of an error. -/
def Error.text : Error → String
  | fault f => f.text
  | divisionByZero => "Division by zero"
  | noArguments f => "Invalid argument: " ++ f.name ++ "() requires at least one argument"
  | circular name => "Circular reference to " ++ name
  | notANumber name => "Cell " ++ name ++ " is not a number"
  | outOfRange name => "Reference " ++ name ++ " is outside the grid"
  | tooDeep name => "References through " ++ name ++ " are nested too deeply"

end Formula
end FormulaGrid
