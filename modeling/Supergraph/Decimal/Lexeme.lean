import Supergraph.Decimal.Binary64
import Supergraph.Text.Integer
import Supergraph.Text.Pattern

/-!
# Decimals in text

A decimal is written with an optional sign, digits around an optional point, and an optional
exponent.

## Main definitions

* `Binary64.ofLexeme` — the number nearest to a written decimal
* `Binary64.read?` — the number that a text stands for, which may be infinite or undefined
* `Binary64.add`, `Binary64.mul` — sums and products, rounded to the format
-/

namespace Supergraph

/-- A leading sign, whether it is a minus, and what follows it. -/
def splitSign : List Char → Bool × List Char
  | '-' :: rest => (true, rest)
  | '+' :: rest => (false, rest)
  | rest => (false, rest)

namespace Binary64

/-- The exponent that a text names after its first character, which marks it. -/
def exponentOf : List Char → Int
  | [] => 0
  | _ :: text =>
    let (negative, digits) := splitSign text
    let n : Int := Text.numberOfDigits digits
    if negative then -n else n

/-- The number nearest to a written decimal. -/
def ofLexeme (text : List Char) : Binary64 :=
  let (negative, text) := splitSign text
  let whole := text.takeWhile Char.isDigit
  let (places, rest) := match text.dropWhile Char.isDigit with
    | '.' :: rest => (rest.takeWhile Char.isDigit, rest.dropWhile Char.isDigit)
    | rest => ([], rest)
  ofDecimal negative (Text.numberOfDigits (whole ++ places)) (exponentOf rest - places.length)

/-- The form of a written decimal: there is a digit before the point or after it. -/
def lexemePattern : Text.Pattern :=
  let digit : Text.Pattern := .one Char.isDigit
  let sign : Text.Pattern := .opt (.oneOf "+-")
  .all [sign,
    .alt (.all [.plus digit, .opt (.all [.oneOf ".", .star digit])]) (.all [.oneOf ".", .plus digit]),
    .opt (.all [.oneOf "eE", sign, .plus digit])]

/-- The number that a text between blanks stands for. -/
def read? (text : List Char) : Option Binary64 :=
  let isBlank := Text.isAsciiBlank
  let cs := ((text.map Text.asciiForm).dropWhile isBlank).reverse.dropWhile isBlank |>.reverse
  if lexemePattern.accepts cs then some (ofLexeme cs)
  else
    let (negative, word) := splitSign cs
    match String.ofList (word.map Char.toLower) with
    | "inf" | "infinity" => some (infinity negative)
    | "nan" => some nan
    | _ => none

/-! ### Sums and products -/

/-- A finite number as a fraction. -/
def fraction? : Binary64 → Option (Int × Nat)
  | finite negative mantissa exponent =>
    let n : Int := mantissa * twoPow exponent
    some (if negative then -n else n, twoPow (-exponent))
  | _ => none

/-- Whether the number has a minus sign. -/
def isNegative : Binary64 → Bool
  | nan => false
  | infinity negative => negative
  | finite negative .. => negative

/-- Whether the number is zero. -/
def isZero : Binary64 → Bool
  | finite _ mantissa _ => mantissa = 0
  | _ => false

/-- The number nearest to a natural number, if that is in the range of the format. -/
def ofNat? (n : Nat) : Option Binary64 :=
  let x := ofRatio false n 1
  if x.isFinite then some x else none

/-- The number nearest to a fraction. -/
def ofFraction (num : Int) (den : Nat) : Binary64 :=
  ofRatio (num < 0) num.natAbs den

/-- The sum of two numbers. Opposite infinities have none. -/
def add (x y : Binary64) : Binary64 :=
  match x, y with
  | nan, _ | _, nan => nan
  | infinity s, infinity t => if s = t then infinity s else nan
  | infinity s, _ | _, infinity s => infinity s
  | x, y =>
    match x.fraction?, y.fraction? with
    | some (m, a), some (n, b) => ofFraction (m * b + n * a) (a * b)
    | _, _ => nan

/-- The product of two numbers. Zero times infinity is undefined. -/
def mul (x y : Binary64) : Binary64 :=
  let negative := x.isNegative != y.isNegative
  match x.fraction?, y.fraction? with
  | some (m, a), some (n, b) => ofRatio negative (m.natAbs * n.natAbs) (a * b)
  | _, _ => if x = nan || y = nan || x.isZero || y.isZero then nan else infinity negative

/-- The number with the other sign. -/
def negate : Binary64 → Binary64
  | nan => nan
  | infinity negative => infinity !negative
  | finite negative mantissa exponent => finite (!negative) mantissa exponent

end Binary64

end Supergraph
