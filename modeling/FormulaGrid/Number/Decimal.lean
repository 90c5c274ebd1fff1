/-
# Decimal numerals

A numeral is an optional sign, digits with at most one dot and at least one digit, and an
optional exponent:

    numeral  = [ "+" | "-" ] ( digits [ "." [ digits ] ] | "." digits ) [ exponent ]
    exponent = ( "e" | "E" ) [ "+" | "-" ] digits

All digits are ASCII. Its value is the double nearest to the decimal, a half going to the
even significand; a decimal too large for a double is an infinity, one too small a zero.

A text for a number is a numeral, or a word with a sign before it or without:

    text = numeral | [ "+" | "-" ] word
    word = "inf" | "infinity" | "nan"

The letters of a word may each be small or capital.
-/

import FormulaGrid.Number.Binary

namespace FormulaGrid
namespace Number

/-- The whole number that decimal digits stand for; no digits stand for zero. -/
def digitsValue (ds : List Char) : Nat := Nat.ofDigitChars 10 ds 0

/-- The double nearest to `m * 10 ^ e`. -/
def nearest (m : Nat) (e : Int) : Float :=
  if 0 ≤ e then Float.ofScientific m false e.toNat else Float.ofScientific m true (-e).toNat

/-- The double nearest to the decimal with these digits before and after its dot, scaled
by a power of ten. -/
def ofDigits (whole fraction : List Char) (scale : Int) : Float :=
  nearest (digitsValue (whole ++ fraction)) (scale - fraction.length)

/-- An optional sign (whether it is a minus) and what follows it. -/
def takeSign : List Char → Bool × List Char
  | '+' :: r => (false, r)
  | '-' :: r => (true, r)
  | r => (false, r)

/-- The power of ten that the end of a numeral stands for: nothing, or an exponent. -/
def exponent? : List Char → Option Int
  | [] => some 0
  | c :: r =>
    if c == 'e' || c == 'E' then
      let (negative, ds) := takeSign r
      if ds.isEmpty || !ds.all Char.isDigit then none
      else some (if negative then -(digitsValue ds : Int) else digitsValue ds)
    else none

/-- The digits after a dot, if there is a dot, and what follows them. -/
def takeFraction : List Char → List Char × List Char
  | '.' :: r => (r.takeWhile Char.isDigit, r.dropWhile Char.isDigit)
  | r => ([], r)

/-- **The value of a numeral**, nothing for any other text. -/
def read? (cs : List Char) : Option Float := do
  let (negative, r) := takeSign cs
  let whole := r.takeWhile Char.isDigit
  let (fraction, r) := takeFraction (r.dropWhile Char.isDigit)
  if whole.isEmpty && fraction.isEmpty then none
  else
    let scale ← exponent? r
    let x := ofDigits whole fraction scale
    some (if negative then -x else x)

/-- The value of a word, in small or capital letters. -/
def word? (cs : List Char) : Option Float :=
  let s := String.ofList (cs.map Char.toUpper)
  if s = "INF" then some infinity
  else if s = "INFINITY" then some infinity
  else if s = "NAN" then some nan
  else none

/-- **The value of a text for a number,** nothing for any other text. -/
def ofText? (cs : List Char) : Option Float :=
  match read? cs with
  | some x => some x
  | none => do
    let (negative, r) := takeSign cs
    let x ← word? r
    some (if negative then -x else x)

/-- Whether a character is one of those that numerals are made of. -/
def isNumeralChar (c : Char) : Bool := c.isDigit || c ∈ ['.', 'e', 'E', '+', '-']

end Number
end FormulaGrid
