/-
# Writing numbers

A style decides how the shortest decimal of a double is written: which powers of ten are
written out in place, what marks a whole number, and how an exponent looks.

| style | `10` | `0.0000001` | `1e23` | zero below zero |
| --- | --- | --- | --- | --- |
| `plain` | `10` | `0.0000001` | `100000000000000000000000` | `-0` |
| `marked` | `10.0` | `1e-7` | `1e+23` | `-0.0` |

Infinities are `inf` and `-inf`, and what is not a number is `NaN` without a sign.
-/

import FormulaGrid.Number.Shortest

namespace FormulaGrid
namespace Number

/-- How numbers are written. -/
structure Style where
  /-- Where a decimal halfway between two shortest candidates goes. -/
  tie : Tie
  /-- What follows the digits of a whole number. -/
  wholeMark : String
  /-- The smallest and largest power of ten of a first digit that is written in place;
  others get an exponent. `none` writes every number in place. -/
  inPlace : Option (Int × Int)
deriving Repr

/-- Numbers in cells are always written in place, whole ones without a point. -/
def plain : Style := ⟨.up, "", none⟩

/-- Numbers quoted from a document keep a mark of being fractional numbers, and very small
and very large ones get an exponent. -/
def marked : Style := ⟨.even, ".0", some (-5, 15)⟩

/-- Digits with the point after the first `point` of them, zeros filling up. -/
def placeDigits (wholeMark : String) (ds : List Char) (point : Int) : String :=
  if point ≤ 0 then
    "0." ++ String.ofList (List.replicate (-point).toNat '0' ++ ds)
  else
    let k := point.toNat
    if ds.length ≤ k then
      String.ofList (ds ++ List.replicate (k - ds.length) '0') ++ wholeMark
    else
      String.ofList (ds.take k) ++ "." ++ String.ofList (ds.drop k)

/-- An exponent: a sign, also a plus, and its digits. -/
def exponentText (e : Int) : String := "e" ++ (if e < 0 then "-" else "+") ++ Nat.repr e.natAbs

/-- Digits with a point after the first of them, and an exponent. -/
def scientific (ds : List Char) (e : Int) : String :=
  String.ofList (ds.take 1) ++
    (if ds.length ≤ 1 then "" else "." ++ String.ofList (ds.drop 1)) ++ exponentText e

/-- A decimal in a style. -/
def Decimal.text (style : Style) (d : Decimal) : String :=
  let ds := Nat.toDigits 10 d.digits
  let point := ds.length + d.scale
  match style.inPlace with
  | none => placeDigits style.wholeMark ds point
  | some (least, greatest) =>
    if least ≤ point - 1 && point - 1 ≤ greatest then placeDigits style.wholeMark ds point
    else scientific ds (point - 1)

/-- **A number in a style.** -/
def Style.write (style : Style) (x : Float) : String :=
  match Binary.ofFloat x with
  | .notANumber => "NaN"
  | .infinite negative => if negative then "-inf" else "inf"
  | .finite negative m e =>
    (if negative then "-" else "") ++
      if m = 0 then "0" ++ style.wholeMark else (shortest style.tie m e).text style

/-- **The text of a number in a cell.** -/
def text (x : Float) : String := plain.write x

end Number
end FormulaGrid
