/-
# Faults in the text of a formula

A fault is a complaint and the place it is about: the offset, in characters, of a token's
first character, or of the end of the text.
-/

import FormulaGrid.Formula.Token

namespace FormulaGrid
namespace Formula

/-- What can be wrong with the text of a formula. -/
inductive Complaint where
  /-- A character that begins no token. -/
  | unexpectedCharacter (c : Char)
  /-- The digits of a number, with a dot or without, that are no number. -/
  | invalidNumber (digits : String)
  /-- A word, in upper case, that is neither a keyword nor a cell name. -/
  | unknownWord (word : String)
  /-- The text ends where an operand should come. -/
  | unexpectedEnd
  /-- A token stands where it cannot. -/
  | unexpectedToken (found : Token)
  /-- One particular token should come here. -/
  | expected (wanted : Token) (found : Option Token)
  /-- Groups, calls and prefix operators lie inside one another too often. -/
  | nestedTooDeeply
  /-- There are too many operators and calls. -/
  | tooManyOperators

/-- The wording of a complaint. -/
def Complaint.text : Complaint → String
  | unexpectedCharacter c => "Unexpected character '" ++ String.singleton c ++ "'"
  | invalidNumber digits => "Invalid number '" ++ digits ++ "'"
  | unknownWord word => "Unknown identifier '" ++ word ++ "'"
  | unexpectedEnd => "Unexpected end of expression"
  | unexpectedToken found => "Unexpected token '" ++ found.text ++ "'"
  | expected wanted found =>
    "Expected '" ++ wanted.text ++ "', found '" ++ Token.textOrEnd found ++ "'"
  | nestedTooDeeply => "Expression nested too deeply"
  | tooManyOperators => "Expression has too many operators"

/-- A complaint about a place in the text, counted in characters. -/
structure Fault where
  complaint : Complaint
  position : Nat

/-- The wording of a fault. -/
def Fault.text (f : Fault) : String :=
  "Syntax error: " ++ f.complaint.text ++ " (position " ++ Nat.repr f.position ++ ")"

end Formula
end FormulaGrid
