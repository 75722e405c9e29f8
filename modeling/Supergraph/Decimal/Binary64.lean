/-!
# Binary floating-point numbers of 64 bits

A number of the format is a sign, a mantissa of at most 53 bits and a binary exponent, kept exactly,
so that reading and writing decimals is integer arithmetic and nothing is left to a machine.

## Main definitions

* `Binary64` — the numbers of the format
* `Binary64.ofRatio`, `Binary64.ofDecimal` — the number of the format nearest to a ratio or to a
  decimal; of two equally near ones the one with the even mantissa
* `Binary64.truncate?` — the integer part of a finite number
-/

namespace Supergraph

/-- A number of the 64-bit binary format. A finite one is `± mantissa · 2 ^ exponent` with a
mantissa below `2 ^ 53`, an exponent from `-1074` to `971`, and a mantissa of 53 bits unless the
exponent is the least one. -/
inductive Binary64 where
  | nan
  | infinity (negative : Bool)
  | finite (negative : Bool) (mantissa : Nat) (exponent : Int)
  deriving DecidableEq, Repr, Inhabited

namespace Binary64

/-- The least exponent of the format. -/
def minExponent : Int := -1074

/-- The greatest exponent of the format. -/
def maxExponent : Int := 971

/-- The least mantissa of 53 bits. -/
def leastFullMantissa : Nat := Nat.pow 2 52

/-- The power of two with an exponent that is not negative. -/
def twoPow (exponent : Int) : Nat :=
  Nat.pow 2 exponent.toNat

/-- The power of ten with an exponent that is not negative. -/
def tenPow (exponent : Int) : Nat :=
  Nat.pow 10 exponent.toNat

/-- The greatest `e` with `2 ^ e ≤ num / den`, for positive `num` and `den`. -/
def floorLog2 (num den : Nat) : Int :=
  let e : Int := (num.log2 : Int) - (den.log2 : Int)
  if den * twoPow e ≤ num * twoPow (-e) then e else e - 1

/-- The integer nearest to `num / den`, the even one of two equally near ones. -/
def roundHalfEven (num den : Nat) : Nat :=
  let quotient := num / den
  let twice := 2 * (num % den)
  if twice < den then quotient
  else if den < twice then quotient + 1
  else quotient + quotient % 2

/-- The number of the format nearest to `num / den`, for a positive `den`. -/
def ofRatio (negative : Bool) (num den : Nat) : Binary64 :=
  if num = 0 then finite negative 0 minExponent
  else
    let exponent := max (floorLog2 num den - 52) minExponent
    let mantissa := roundHalfEven (num * twoPow (-exponent)) (den * twoPow exponent)
    -- Rounding up may give a mantissa of one bit more, which is a power of two.
    let carried := mantissa = 2 * leastFullMantissa
    let exponent := if carried then exponent + 1 else exponent
    let mantissa := if carried then leastFullMantissa else mantissa
    if maxExponent < exponent then infinity negative else finite negative mantissa exponent

/-- How many decimal digits a number has. -/
def digitCount (n : Nat) : Nat :=
  (Nat.toDigits 10 n).length

/-- The number of the format nearest to `digits · 10 ^ exponent`. Magnitudes far outside the format
are decided by their number of digits. -/
def ofDecimal (negative : Bool) (digits : Nat) (exponent : Int) : Binary64 :=
  let magnitude := (digitCount digits : Int) + exponent
  if digits = 0 then finite negative 0 minExponent
  else if 310 < magnitude then infinity negative
  else if magnitude < -330 then finite negative 0 minExponent
  else ofRatio negative (digits * tenPow exponent) (tenPow (-exponent))

/-- Whether the number is neither infinite nor undefined. -/
def isFinite : Binary64 → Bool
  | finite .. => true
  | _ => false

/-- The integer part of a finite number. -/
def truncate? : Binary64 → Option Int
  | finite negative mantissa exponent =>
    let n := mantissa * twoPow exponent / twoPow (-exponent)
    some (if negative then -(n : Int) else n)
  | _ => none

end Binary64

end Supergraph
