import Supergraph.Decimal.Shortest

/-!
# Layouts of decimal text

How the digits of a number are laid out: which exponents are written positionally, how an exponent
is written, and the texts of the numbers that have no digits. A positional text always has a point.

## Main definitions

* `Layout` — the decisions of one output
* `Layout.write` — a number in that layout
-/

namespace Supergraph

/-- The decisions of one output about decimal text. -/
structure Layout where
  /-- The least exponent of the first digit that is written positionally. -/
  least : Int
  /-- The least exponent above those that are written positionally. -/
  bound : Int
  /-- The least number of digits of an exponent. -/
  exponentWidth : Nat
  /-- Whether a single digit before an exponent is followed by a point and a zero. -/
  pointBeforeExponent : Bool
  /-- The text of the undefined number. -/
  undefined : String
  /-- The text of positive infinity. -/
  infinite : String
  deriving DecidableEq, Repr

namespace Layout

/-- Digits with zeros in front up to the width. -/
def padded (width : Nat) (n : Nat) : String :=
  let digits := toString n
  String.ofList (List.replicate (width - digits.length) '0') ++ digits

/-- Positional text of a decimal, with at least one digit on each side of the point. -/
def positional (d : Decimal) : String :=
  let digits := (toString d.coefficient).toList
  if 0 ≤ d.exponent then
    String.ofList (digits ++ List.replicate d.exponent.toNat '0' ++ ['.', '0'])
  else
    let places := (-d.exponent).toNat
    let digits := List.replicate (places + 1 - digits.length) '0' ++ digits
    String.ofList (digits.take (digits.length - places) ++ '.' :: digits.drop (digits.length - places))

/-- Text with one digit before the point, and an exponent. -/
def withExponent (l : Layout) (d : Decimal) : String :=
  let exponent := d.leadingExponent
  let sign := if exponent < 0 then "-" else "+"
  let mantissa := match (toString d.coefficient).toList with
    | [] => ""
    | [c] => if l.pointBeforeExponent then String.ofList [c, '.', '0'] else String.ofList [c]
    | c :: cs => String.ofList (c :: '.' :: cs)
  mantissa ++ "e" ++ sign ++ padded l.exponentWidth exponent.natAbs

/-- A number in the layout. -/
def write (l : Layout) : Binary64 → String
  | .nan => l.undefined
  | .infinity negative => (if negative then "-" else "") ++ l.infinite
  | .finite negative mantissa exponent =>
    let d : Decimal := if mantissa = 0 then ⟨0, 0⟩ else Binary64.shortest mantissa exponent
    let body := if l.least ≤ d.leadingExponent ∧ d.leadingExponent < l.bound then positional d
      else l.withExponent d
    (if negative then "-" else "") ++ body

end Layout

end Supergraph
