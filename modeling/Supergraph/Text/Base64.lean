/-!
# Bytes in base 64

Three bytes are written as four characters, each of which stands for six bits; equals signs fill the
last group up. What is read may hold other characters between, which are passed over.

## Main definitions

* `decodeBase64?` — the bytes that a text means, if its last group is complete
* `base64Lines` — bytes as lines of at most 76 characters
-/

namespace Supergraph.Text

/-- The characters in the order of the six bits that they stand for. -/
def base64Alphabet : List Char :=
  "ABCDEFGHIJKLMNOPQRSTUVWXYZabcdefghijklmnopqrstuvwxyz0123456789+/".toList

/-- The six bits that a character stands for. -/
def base64Value? (c : Char) : Option Nat :=
  base64Alphabet.idxOf? c

/-- The bytes that a group of up to four characters means, given the six bits of each. Bits that do
not fill a byte are left out. -/
def groupBytes : List Nat → List UInt8
  | [a, b] => [(4 * a + b / 16).toUInt8]
  | [a, b, c] => [(4 * a + b / 16).toUInt8, (16 * (b % 16) + c / 4).toUInt8]
  | [a, b, c, d] =>
    [(4 * a + b / 16).toUInt8, (16 * (b % 16) + c / 4).toUInt8, (64 * (c % 4) + d).toUInt8]
  | _ => []

/-- The bytes that characters mean after those of an open group and `fill` equals signs. -/
def decodeGroups (group : List Nat) (fill : Nat) : List Char → Option (List UInt8)
  | [] => if group.isEmpty then some [] else none
  | '=' :: rest =>
    if group.length < 2 then decodeGroups group fill rest
    else if 4 ≤ group.length + fill + 1 then some (groupBytes group)
    else decodeGroups group (fill + 1) rest
  | c :: rest =>
    match base64Value? c with
    | none => decodeGroups group fill rest
    | some value =>
      let group := group ++ [value]
      if group.length = 4 then (decodeGroups [] 0 rest).map (groupBytes group ++ ·)
      else decodeGroups group 0 rest

/-- The bytes that a text means. Nothing after the equals signs that complete a group counts. -/
def decodeBase64? (cs : List Char) : Option (List UInt8) :=
  decodeGroups [] 0 cs

/-- The character that stands for the last six bits of a number. -/
def base64Char (n : Nat) : Char :=
  (base64Alphabet[n % 64]?).getD 'A'

/-- Bytes in groups of four characters. -/
def base64Chars : List UInt8 → List Char
  | [] => []
  | [a] =>
    let n := 65536 * a.toNat
    [base64Char (n / 262144), base64Char (n / 4096), '=', '=']
  | [a, b] =>
    let n := 65536 * a.toNat + 256 * b.toNat
    [base64Char (n / 262144), base64Char (n / 4096), base64Char (n / 64), '=']
  | a :: b :: c :: rest =>
    let n := 65536 * a.toNat + 256 * b.toNat + c.toNat
    base64Char (n / 262144) :: base64Char (n / 4096) :: base64Char (n / 64) :: base64Char n
      :: base64Chars rest

/-- The number of bytes of a full line. -/
def bytesOfLine : Nat := 57

/-- Bytes as full lines and a last one, as far as `count` lines go. -/
def linesOfBytes : Nat → List UInt8 → List (List Char)
  | 0, _ => []
  | count + 1, bytes =>
    if bytes.isEmpty then []
    else base64Chars (bytes.take bytesOfLine) :: linesOfBytes count (bytes.drop bytesOfLine)

/-- Bytes as lines of at most 76 characters. -/
def base64Lines (bytes : List UInt8) : List (List Char) :=
  linesOfBytes bytes.length bytes

end Supergraph.Text
