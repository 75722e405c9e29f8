import Supergraph.Decimal.Binary64

/-!
# Shortest decimals

The decimal text of a binary number has the fewest digits that read back as the number and, of those
decimals, is the nearest to it. The search is exact: for each digit count, the two decimals around
the number are compared with the interval of reals that round to it.

## Main definitions

* `Decimal` — a coefficient and a power of ten
* `Binary64.reads` — whether a decimal lies in the interval that rounds to a number
* `Binary64.shortest` — the shortest decimal that reads back as the number
-/

namespace Supergraph

/-- The decimal `coefficient · 10 ^ exponent`. -/
structure Decimal where
  coefficient : Nat
  exponent : Int
  deriving DecidableEq, Repr

namespace Decimal

/-- The same decimal with a coefficient that does not end in zeros, as far as `fuel` of them go. -/
def stripZeros (fuel : Nat) (d : Decimal) : Decimal :=
  match fuel with
  | 0 => d
  | n + 1 =>
    if d.coefficient ≠ 0 ∧ d.coefficient % 10 = 0 then
      stripZeros n ⟨d.coefficient / 10, d.exponent + 1⟩
    else d

/-- The exponent of the decimal's first digit: `5` for 123456. -/
def leadingExponent (d : Decimal) : Int :=
  (Binary64.digitCount d.coefficient : Int) - 1 + d.exponent

end Decimal

namespace Binary64

/-- The interval of reals that round to `mantissa · 2 ^ exponent`, in quarters of the unit
`2 ^ exponent`: below a power of two the neighbours lie twice as close. -/
def interval (mantissa : Nat) (exponent : Int) : Nat × Nat :=
  let isClose := mantissa = leastFullMantissa ∧ minExponent < exponent
  (if isClose then 4 * mantissa - 1 else 4 * mantissa - 2, 4 * mantissa + 2)

/-- Compares `a · 10 ^ p` with `b · 2 ^ q` exactly. -/
def compareScaled (a : Nat) (p : Int) (b : Nat) (q : Int) : Ordering :=
  compare (a * tenPow p * twoPow (-q)) (b * twoPow q * tenPow (-p))

/-- Whether a decimal rounds to `mantissa · 2 ^ exponent`. The ends of the interval belong to it
when the mantissa is even. -/
def reads (mantissa : Nat) (exponent : Int) (d : Decimal) : Bool :=
  let (low, high) := interval mantissa exponent
  let closed := mantissa % 2 == 0
  let atLow := compareScaled d.coefficient d.exponent low (exponent - 2)
  let atHigh := compareScaled d.coefficient d.exponent high (exponent - 2)
  (atLow == .gt || (closed && atLow == .eq)) && (atHigh == .lt || (closed && atHigh == .eq))

/-- The coefficient of the greatest decimal with unit `10 ^ unit` that is at most
`mantissa · 2 ^ exponent`. -/
def floorAt (mantissa : Nat) (exponent unit : Int) : Nat :=
  mantissa * twoPow exponent * tenPow (-unit) / (twoPow (-exponent) * tenPow unit)

/-- The exponent of the first decimal digit of a positive `mantissa · 2 ^ exponent`. The factor
`10 ^ 400` makes every number of the format greater than one. -/
def firstDigitExponent (mantissa : Nat) (exponent : Int) : Int :=
  (digitCount (floorAt mantissa exponent (-400)) : Int) - 401

/-- Of the two decimals with `count` digits around the number, the nearest that reads back as it; of
two equally near ones the one with the even coefficient. -/
def candidate? (mantissa : Nat) (exponent : Int) (count : Nat) : Option Decimal :=
  let unit := firstDigitExponent mantissa exponent - count + 1
  let below := floorAt mantissa exponent unit
  let nearest := match compareScaled (2 * below + 1) unit (2 * mantissa) exponent with
    | .gt => below
    | .lt => below + 1
    | .eq => below + below % 2
  -- The nearest one may fail where the other, on the wider side of a power of two, reads back.
  [nearest, below, below + 1].findSome? fun c =>
    if reads mantissa exponent ⟨c, unit⟩ then some ⟨c, unit⟩ else none

/-- The first digit count with a decimal that reads back, tried from `count` on. -/
def searchFrom (mantissa : Nat) (exponent : Int) : Nat → Nat → Decimal
  | 0, count => ⟨floorAt mantissa exponent (firstDigitExponent mantissa exponent - count + 1),
      firstDigitExponent mantissa exponent - count + 1⟩
  | fuel + 1, count =>
    match candidate? mantissa exponent count with
    | some d => d.stripZeros (count + 1)
    | none => searchFrom mantissa exponent fuel (count + 1)

/-- The shortest decimal that reads back as the positive `mantissa · 2 ^ exponent`. Seventeen digits
are enough for every number of the format. -/
def shortest (mantissa : Nat) (exponent : Int) : Decimal :=
  searchFrom mantissa exponent 17 1

end Binary64

end Supergraph
