/-
# Tokens of a formula

| token | spelled |
| --- | --- |
| `number` | digits, then perhaps a dot and more digits |
| `cell` | letters, then digits |
| `increment`, `decrement` | `++` or `inc`, `--` or `dec` |
| `mod`, `div`, `mmin`, `mmax` | the word itself |
| the others | one character |

Words are read in either letter case and kept in upper case. A message shows a number in
the form numbers have in cells, a cell name as it is kept, and `++` and `--` for the two
tokens that have a second spelling.
-/

import FormulaGrid.Number.Layout

namespace FormulaGrid
namespace Formula

/-- A token of a formula. -/
inductive Token where
  | number (value : Float)
  | cell (name : String)
  | plus
  | minus
  | times
  | divide
  | power
  | percent
  | increment
  | decrement
  | mod
  | div
  | mmin
  | mmax
  | leftParen
  | rightParen
  | comma
deriving Inhabited

/-- A token as messages show it. -/
def Token.text : Token → String
  | number value => Number.text value
  | cell name => name
  | plus => "+"
  | minus => "-"
  | times => "*"
  | divide => "/"
  | power => "^"
  | percent => "%"
  | increment => "++"
  | decrement => "--"
  | mod => "mod"
  | div => "div"
  | mmin => "mmin"
  | mmax => "mmax"
  | leftParen => "("
  | rightParen => ")"
  | comma => ","

/-- What messages show at a place in a formula: a token, or that it ends there. -/
def Token.textOrEnd : Option Token → String
  | some t => t.text
  | none => "end of expression"

end Formula
end FormulaGrid
