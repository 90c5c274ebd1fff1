/-
# The shortest decimal that reads back

The reals that round to a double form an interval around it, half a unit of its last place
to either side (a quarter below a power of two, where the doubles lie closer together).
The interval holds its ends exactly when the significand is even. Of the decimals in it,
the one with the fewest digits is chosen, and of those the nearest to the double.

For each number of digits the decimals of that length around a value form a grid, and if
any point of the grid lies in the interval then so does one of the value's two neighbours
on it. So the search tries the two neighbours for one digit, two digits, and so on;
seventeen digits always suffice.
-/

import FormulaGrid.Number.Binary

namespace FormulaGrid
namespace Number

/-- Where a decimal halfway between two candidates goes. -/
inductive Tie where
  | up
  | even
deriving DecidableEq, Repr

/-- A decimal `digits * 10 ^ scale`. -/
structure Decimal where
  digits : Nat
  scale : Int
deriving DecidableEq, Repr

/-- The reals that round to a double: everything from `low` to `high`, over the common
denominator `one`, the ends belonging to it if `closed`. -/
structure Interval where
  low : Nat
  value : Nat
  high : Nat
  one : Nat
  closed : Bool
deriving Repr

namespace Interval

/-- The interval of `m * 2 ^ e` units of `2 ^ -1074`, in quarters of the last place. -/
def around (m e : Nat) : Interval where
  low := (4 * m - if m = Binary.unitBit then 1 else 2) <<< e
  value := (4 * m) <<< e
  high := (4 * m + 2) <<< e
  one := 1 <<< 1076
  closed := m % 2 == 0

/-- Whether the fraction `n / one` lies in the interval. -/
def contains (i : Interval) (n : Nat) : Bool :=
  if i.closed then i.low ≤ n && n ≤ i.high else i.low < n && n < i.high

/-- The interval with every number multiplied by `10 ^ k`, negative `k` included. -/
def scaled (i : Interval) (k : Int) : Interval :=
  if 0 ≤ k then
    let p := Nat.pow 10 k.toNat
    { i with low := i.low * p, value := i.value * p, high := i.high * p }
  else { i with one := i.one * Nat.pow 10 (-k).toNat }

/-- The whole number in the interval that is nearest to its value, if it holds one of the
value's two neighbours. -/
def nearestWhole? (tie : Tie) (i : Interval) : Option Nat :=
  let floor := i.value / i.one
  let below := i.contains (floor * i.one)
  let above := i.contains ((floor + 1) * i.one)
  let twice := 2 * (i.value - floor * i.one)
  match below, above with
  | true, true =>
    if twice < i.one then some floor
    else if i.one < twice then some (floor + 1)
    else match tie with
      | .up => some (floor + 1)
      | .even => some (floor + floor % 2)
  | true, false => some floor
  | false, true => some (floor + 1)
  | false, false => none

end Interval

/-- The power of ten just above the fraction `n / d`, found upward from `k` in at most
`fuel` steps: the least `k` with `n / d < 10 ^ k`. -/
def pointAbove (n d : Nat) : (fuel : Nat) → (k : Int) → Int
  | 0, k => k
  | fuel + 1, k =>
    let small :=
      if 0 ≤ k then decide (n < d * Nat.pow 10 k.toNat)
      else decide (n * Nat.pow 10 (-k).toNat < d)
    if small then k else pointAbove n d fuel (k + 1)

/-- The number of digits before the decimal point of `n / d`: the least `k` with
`n / d < 10 ^ k`. The search starts below it, from the lengths of `n` and `d` in bits. -/
def pointOf (n d : Nat) : Int :=
  let bits : Int := (n.log2 : Int) - d.log2 - 1
  pointAbove n d 8 (bits * 30103 / 100000 - 2)

/-- A decimal without the zeros its digits end in; `fuel` bounds their number. -/
def Decimal.reduced : (fuel : Nat) → Decimal → Decimal
  | 0, d => d
  | fuel + 1, d =>
    if d.digits ≠ 0 ∧ d.digits % 10 = 0 then Decimal.reduced fuel ⟨d.digits / 10, d.scale + 1⟩
    else d

/-- The decimal of the fewest digits in the interval, the point standing after `point`
digits of its value, tried from `n` digits on for `fuel` lengths. -/
def shortestFrom (tie : Tie) (i : Interval) (point : Int) : (fuel n : Nat) → Decimal
  | 0, n => ⟨(i.scaled (n - point)).value / (i.scaled (n - point)).one, point - n⟩
  | fuel + 1, n =>
    match (i.scaled (n - point)).nearestWhole? tie with
    | some w => Decimal.reduced 20 ⟨w, point - n⟩
    | none => shortestFrom tie i point fuel (n + 1)

/-- **The shortest decimal that reads back as `m * 2 ^ e` units of `2 ^ -1074`.** -/
def shortest (tie : Tie) (m e : Nat) : Decimal :=
  let i := Interval.around m e
  shortestFrom tie i (pointOf i.value i.one) 17 1

end Number
end FormulaGrid
