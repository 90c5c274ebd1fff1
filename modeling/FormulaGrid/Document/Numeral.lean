/-
# Numbers in documents

A number never belongs in a document, but it is read to its end before it is refused, and
the refusal shows its value:

    number = [ "-" ] ( "0" | nonzero { digit } ) [ "." digit { digit } ] [ ( "e" | "E" ) [ "+" | "-" ] digit { digit } ]

A number without a fraction and an exponent is a whole number if it fits 64 bits, signed or
unsigned. All others are doubles, worked out from a significand of 64 bits: the digits that
would overflow it are dropped, those before the point raising the power of ten. The
significand is then multiplied or divided by a power of ten, each rounded to a double, so
the last place may differ from the nearest double.
-/

import FormulaGrid.Document.Refusal
import FormulaGrid.Number.Decimal

namespace FormulaGrid
namespace Document

open Text (Bytes)

/-- A place after bytes that were looked at: the byte after them has been looked at too. -/
def peeked (rest : Bytes) : Nat := rest.length - 1

/-- The value of a digit. -/
def digit? (b : UInt8) : Option Nat :=
  if 48 ≤ b.toNat ∧ b.toNat ≤ 57 then some (b.toNat - 48) else none

/-- Whether a byte is a digit. -/
def isDigit (b : UInt8) : Bool := (digit? b).isSome

/-- Significands and whole numbers are smaller than this, which is `2 ^ 64`. -/
def significandLimit : Nat := 0x10000000000000000

/-- Digits appended to a significand as long as it does not overflow: the significand, the
number of digits taken, and what follows them. -/
def appendDigits (m : Nat) : Bytes → Nat × Nat × Bytes
  | [] => (m, 0, [])
  | b :: r =>
    match digit? b with
    | none => (m, 0, b :: r)
    | some d =>
      if m * 10 + d < significandLimit then
        let (m', n, rest) := appendDigits (m * 10 + d) r
        (m', n + 1, rest)
      else (m, 0, b :: r)

/-- The double that is a power of ten. -/
def powerOfTen (k : Nat) : Float := Float.ofScientific 1 false k

/-- The largest power of ten that is a double. -/
def maxPower : Nat := 308

/-- A double times a power of ten, each product and quotient rounded; none if it is too
large. -/
def scaleByTen (x : Float) (e : Int) : Option Float :=
  if e.natAbs ≤ maxPower then
    if 0 ≤ e then
      let y := x * powerOfTen e.natAbs
      if y.isInf then none else some y
    else some (x / powerOfTen e.natAbs)
  else if x == 0.0 then some x
  else if 0 ≤ e then none
  else scaleByTen (x / powerOfTen maxPower) (e + maxPower)
termination_by e.natAbs
decreasing_by
  simp only [maxPower] at *
  omega

/-- A number read: what it is, and what follows it. -/
abbrev NumberRead := Except Stop (Kind × Bytes)

/-- A double from its sign, significand and power of ten. -/
def fractionOf (negative : Bool) (m : Nat) (e : Int) (rest : Bytes) : NumberRead :=
  match scaleByTen m.toUInt64.toFloat e with
  | some x => .ok (.fraction (if negative then -x else x), rest)
  | none => .error ⟨.numberOutOfRange, peeked rest⟩

/-- The largest exponent that is read, `2 ^ 31 - 1`; a larger one overflows. -/
def maxExponent : Nat := 0x7FFFFFFF

/-- The digits of an exponent: its value and what follows them, or what follows the digit
that made it overflow. -/
def exponentDigits (e : Nat) : Bytes → Except Bytes (Nat × Bytes)
  | [] => .ok (e, [])
  | b :: r =>
    match digit? b with
    | none => .ok (e, b :: r)
    | some d => if e * 10 + d ≤ maxExponent then exponentDigits (e * 10 + d) r else .error r

/-- The sign of an exponent (whether it is a minus) and what follows it. -/
def exponentSign : Bytes → Bool × Bytes
  | b :: r => if b = 45 then (true, r) else if b = 43 then (false, r) else (false, b :: r)
  | [] => (false, [])

/-- The exponent after its letter, and the double. -/
def exponentPart (negative : Bool) (m : Nat) (e : Int) (bs : Bytes) : NumberRead :=
  let (below, r) := exponentSign bs
  match r with
  | [] => .error ⟨.endInValue, 0⟩
  | b :: r =>
    match digit? b with
    | none => .error ⟨.invalidNumber, r.length⟩
    | some d =>
      match exponentDigits d r with
      | .ok (n, rest) => fractionOf negative m (if below then e - n else e + n) rest
      | .error rest =>
        if m ≠ 0 ∧ !below then .error ⟨.numberOutOfRange, rest.length⟩
        else .ok (.fraction (if negative then -0.0 else 0.0), rest.dropWhile isDigit)

/-- An exponent, if there is one, and the double. -/
def afterDigits (negative : Bool) (m : Nat) (e : Int) : Bytes → NumberRead
  | b :: r => if b = 101 ∨ b = 69 then exponentPart negative m e r else fractionOf negative m e (b :: r)
  | [] => fractionOf negative m e []

/-- The digits after the point, and the double. -/
def fractionPart (negative : Bool) (m : Nat) (e : Int) (bs : Bytes) : NumberRead :=
  let (m', n, r) := appendDigits m bs
  let rest := r.dropWhile isDigit
  if n = 0 ∧ rest.length = r.length then
    .error ⟨if r.isEmpty then .endInValue else .invalidNumber, peeked r⟩
  else afterDigits negative m' (e - n) rest

/-- The negative whole numbers go down to minus this, which is `2 ^ 63`. -/
def negativeLimit : Nat := 0x8000000000000000

/-- The whole number of a sign and a significand; a negative one is a double if it does not
fit 64 signed bits, and so is minus zero. -/
def wholeNumber (negative : Bool) (m : Nat) : Kind :=
  if negative then
    if 0 < m ∧ m ≤ negativeLimit then .integer (-(m : Int)) else .fraction (-m.toUInt64.toFloat)
  else .integer m

/-- What follows the digits before the point, `e` of which were dropped. -/
def afterWhole (negative : Bool) (m e : Nat) (r : Bytes) : NumberRead :=
  if r.head? = some 46 then fractionPart negative m e r.tail
  else if r.head? = some 101 ∨ r.head? = some 69 then exponentPart negative m e r.tail
  else if e = 0 then .ok (wholeNumber negative m, r)
  else fractionOf negative m e r

/-- **A number after its sign**, and what follows it. -/
def number (negative : Bool) (bs : Bytes) : NumberRead :=
  match bs with
  | [] => .error ⟨.endInValue, 0⟩
  | b :: r =>
    match digit? b with
    | none => .error ⟨.invalidNumber, r.length⟩
    | some 0 =>
      if r.head?.any isDigit then .error ⟨.invalidNumber, peeked r⟩ else afterWhole negative 0 0 r
    | some d =>
      let (m, _, r) := appendDigits d r
      let rest := r.dropWhile isDigit
      afterWhole negative m (r.length - rest.length) rest

end Document
end FormulaGrid
