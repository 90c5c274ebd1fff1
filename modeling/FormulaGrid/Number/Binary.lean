/-
# Doubles in whole units

A finite double is a whole multiple of the smallest positive one, `2 ^ -1074`: with a
significand below `2 ^ 53` and an exponent counted from that unit, its magnitude is
`significand * 2 ^ exponent` units. Remainders are then remainders of natural numbers,
and no rounding happens in them.

| exponent field | value |
| --- | --- |
| 0 | `fraction` units |
| 1 … 2046 | `(2 ^ 52 + fraction) * 2 ^ (field - 1)` units |
| 2047 | an infinity if the fraction is zero, else not a number |
-/

namespace FormulaGrid
namespace Number

/-- A double taken apart. A finite one is `significand * 2 ^ exponent` units of
`2 ^ -1074`. -/
inductive Binary where
  | notANumber
  | infinite (negative : Bool)
  | finite (negative : Bool) (significand exponent : Nat)
deriving DecidableEq, Repr

namespace Binary

/-- The bit above those of a fraction, `2 ^ 52`. -/
def unitBit : Nat := 0x10000000000000

/-- The bit of the sign, `2 ^ 63`. -/
def signBit : Nat := 0x8000000000000000

/-- The number of exponent fields, `2 ^ 11`. -/
def fields : Nat := 0x800

/-- The parts of a double, read from its bits: sign, exponent field, fraction. -/
def ofFloat (x : Float) : Binary :=
  let bits := x.toBits.toNat
  let negative := decide (signBit ≤ bits)
  let field := bits / unitBit % fields
  let fraction := bits % unitBit
  if field = fields - 1 then
    if fraction = 0 then .infinite negative else .notANumber
  else if field = 0 then .finite negative fraction 0
  else .finite negative (unitBit + fraction) (field - 1)

end Binary

/-- The double of a sign and a number of units that a double can hold: its leading 53
bits are the significand, and what is cut off below them is zero. -/
def ofUnits (negative : Bool) (units : Nat) : Float :=
  let shift := units.log2 - 52
  let significand := units >>> shift
  let magnitude :=
    if significand < Binary.unitBit then significand
    else shift * Binary.unitBit + significand
  Float.ofBits (UInt64.ofNat (magnitude + if negative then Binary.signBit else 0))

/-- Not a number. -/
def nan : Float := 0.0 / 0.0

/-- The positive infinity. -/
def infinity : Float := 1.0 / 0.0

/-- **The remainder of a division whose quotient is cut toward zero.** It has the sign of
`x` and is exact. There is none for an infinite `x` or a zero `y`; an infinite `y` leaves
`x` as it is. -/
def remainder (x y : Float) : Float :=
  match Binary.ofFloat x, Binary.ofFloat y with
  | .finite s m e, .finite _ n f =>
    if n = 0 then nan else ofUnits s ((m <<< e) % (n <<< f))
  | .finite .., .infinite _ => x
  | _, _ => nan

/-- **Division of whole numbers.** Both operands are cut toward zero and clamped to 32
bits, not a number counting as zero; the quotient is cut toward zero, and the least number
divided by minus one is itself. A divisor that comes to zero has no quotient. -/
def wholeQuotient? (x y : Float) : Option Float :=
  if y == 0.0 || y.toInt32 == 0 then none else some (x.toInt32 / y.toInt32).toFloat

/-- The smaller of two numbers; one that is not a number gives way to the other. -/
def least (x y : Float) : Float :=
  if x.isNaN then y else if y.isNaN then x else if y < x then y else x

/-- The larger of two numbers; one that is not a number gives way to the other. -/
def greatest (x y : Float) : Float :=
  if x.isNaN then y else if y.isNaN then x else if x < y then y else x

end Number
end FormulaGrid
