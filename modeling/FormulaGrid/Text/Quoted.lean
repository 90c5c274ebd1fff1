/-
# Quoted texts

A message quotes a text between double quotes. Backslashes and double quotes in it get a
backslash, NUL, tab, line feed and carriage return a letter after one; every other
character that does not show on its own is written by its code point: `\u{feff}`.
-/

import FormulaGrid.Text.Visible

namespace FormulaGrid
namespace Text

/-- A code point in lower-case hexadecimal, in braces. -/
def codePoint (c : Char) : List Char :=
  ['\\', 'u', '\x7b'] ++ Nat.toDigits 16 c.toNat ++ ['\x7d']

/-- A character in a quoted text. -/
def quotedChar (c : Char) : List Char :=
  if c = '"' then ['\\', '"']
  else if c = '\\' then ['\\', '\\']
  else if c = '\x00' then ['\\', '0']
  else if c = '\t' then ['\\', 't']
  else if c = '\n' then ['\\', 'n']
  else if c = '\r' then ['\\', 'r']
  else if isVisible c then [c]
  else codePoint c

/-- **A text between double quotes.** -/
def quoted (s : List Char) : String :=
  String.ofList ('"' :: (s.flatMap quotedChar ++ ['"']))

end Text
end FormulaGrid
