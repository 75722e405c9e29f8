import Supergraph.Text.Blank
import Supergraph.Text.Digit
import Supergraph.Text.Quoted

/-!
# Integers in text

An integer may stand between blanks, may have a sign, and may have single underscores between its
digits; the decimal digits may be those of any script. To the bases two, eight and sixteen a mark of
the base may stand before the digits. A decimal integer of more than 4300 digits is neither read nor
written.

## Main definitions

* `IntegerError` — why a text is no integer, with its wording
* `readIntegerTo`, `readInteger` — the integer a text stands for, to a base and to the base ten
* `isTooLong` — whether an integer has too many digits to be written
-/

namespace Supergraph.Text

/-- The greatest number of decimal digits that is read or written. -/
def maxDigits : Nat := 4300

/-- Why a text is no integer. -/
inductive IntegerError where
  /-- The text is not of the form of an integer to the base. -/
  | malformed (base : Nat) (text : String)
  /-- The text has more digits than are read. -/
  | tooLong (digits : Nat)
  deriving DecidableEq, Repr

/-- The wording of the limit on digits. -/
def limitMessage : String :=
  s!"Exceeds the limit ({maxDigits} digits) for integer string conversion"

/-- The wording of the advice about the limit. -/
def limitAdvice : String :=
  "; use sys.set_int_max_str_digits() to increase the limit"

/-- The wording of the error. A malformed text is quoted, and cut after two hundred characters. -/
def IntegerError.message : IntegerError → String
  | .malformed base text =>
    s!"invalid literal for int() with base {base}: "
      ++ String.ofList ((quotedChars text.toList).take 200)
  | .tooLong digits => limitMessage ++ s!": value has {digits} digits" ++ limitAdvice

/-- Whether an integer has more decimal digits than are written. -/
def isTooLong (n : Int) : Bool :=
  Nat.pow 10 maxDigits ≤ n.natAbs

/-- A character as the reader of integers sees it: in a text that is not all ASCII, blanks of every
kind are spaces and digits of every script are ASCII digits. -/
def asciiForm (c : Char) : Char :=
  if c.toNat < 0x80 then c
  else if isBlank c then ' '
  else match digitValue? c with
    | some d => Char.ofNat (48 + d)
    | none => '?'

/-- The ASCII blanks. -/
def isAsciiBlank (c : Char) : Bool :=
  c == ' ' || (9 ≤ c.toNat && c.toNat ≤ 13)

/-- The number that ASCII digits stand for. -/
def numberOfDigits (digits : List Char) : Nat :=
  digits.foldl (fun n c => 10 * n + (c.toNat - 48)) 0

/-- The value of a digit to a base of at most sixteen. Letters of both cases follow the nine. -/
def digitTo? (base : Nat) (c : Char) : Option Nat :=
  let value :=
    if c.isDigit then some (c.toNat - 48)
    else if 'a' ≤ c && c ≤ 'f' then some (c.toNat - 87)
    else if 'A' ≤ c && c ≤ 'F' then some (c.toNat - 55)
    else none
  value.filter (· < base)

/-- The number that digits to a base stand for. -/
def numberTo (base : Nat) (digits : List Char) : Nat :=
  digits.foldl (fun n c => base * n + (digitTo? base c).getD 0) 0

/-- The letters that mark a base. -/
def baseMarks : Nat → List Char
  | 2 => ['b', 'B']
  | 8 => ['o', 'O']
  | 16 => ['x', 'X']
  | _ => []

/-- What follows the mark of a base, which an underscore may end; the whole text if there is none.
-/
def afterBaseMark (base : Nat) (cs : List Char) : List Char :=
  match cs with
  | '0' :: mark :: rest =>
    if (baseMarks base).contains mark then
      match rest with
      | '_' :: rest => rest
      | _ => rest
    else cs
  | _ => cs

/-- Digits, at least one, with single underscores between them. -/
def isDigitRun (cs : List Char) : Bool :=
  cs.head?.any (· ≠ '_') && cs.getLast?.any (· ≠ '_')
    && (cs.zip (cs.drop 1)).all fun (a, b) => !(a == '_' && b == '_')

/-- The digits, without underscores, of an unsigned integer that only blanks follow. -/
def readDigits (base : Nat) (text : String) (cs : List Char) : Except IntegerError (List Char) :=
  let isPart := fun (c : Char) => (digitTo? base c).isSome || c == '_'
  let run := cs.takeWhile isPart
  let digits := run.filter (· ≠ '_')
  if !isDigitRun run then .error (.malformed base text)
  else if base = 10 && maxDigits < digits.length then .error (.tooLong digits.length)
  else if (cs.dropWhile isPart).all isAsciiBlank then .ok digits
  else .error (.malformed base text)

/-- The integer a text stands for to a base of at most sixteen. -/
def readIntegerTo (base : Nat) (text : String) : Except IntegerError Int :=
  let magnitude (cs : List Char) : Except IntegerError Nat :=
    (readDigits base text (afterBaseMark base cs)).map (numberTo base)
  match (text.toList.map asciiForm).dropWhile isAsciiBlank with
  | '-' :: cs => (magnitude cs).map fun n => -(n : Int)
  | '+' :: cs => (magnitude cs).map fun n => (n : Int)
  | cs => (magnitude cs).map fun n => (n : Int)

/-- The integer a text stands for. -/
def readInteger (text : String) : Except IntegerError Int :=
  readIntegerTo 10 text

end Supergraph.Text
