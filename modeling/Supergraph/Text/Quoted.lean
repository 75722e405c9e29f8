import Supergraph.Text.Printable

/-!
# Quoted text

The emitted modules and the messages show a text between quotes: single ones, or double ones when
the text holds single quotes and no double ones. The quote in use, the backslash and every character
that is not printable are written with a backslash.

## Main definitions

* `hexDigits` — a number in hexadecimal digits of a fixed width
* `quoteFor` — the quote a text is written between
* `escapeChar` — a character as it stands between quotes
* `quoted` — a text between its quotes
* `quotedBytes` — bytes between quotes, after a letter that tells them from a text
-/

namespace Supergraph.Text

/-- The lower-case hexadecimal digit of a number below sixteen. -/
def hexDigit (n : Nat) : Char :=
  if n < 10 then Char.ofNat (48 + n) else Char.ofNat (87 + n)

/-- The last `width` hexadecimal digits of a number, most significant first. -/
def hexDigits (width n : Nat) : List Char :=
  match width with
  | 0 => []
  | w + 1 => hexDigits w (n / 16) ++ [hexDigit (n % 16)]

/-- Double quotes serve a text that holds single quotes and no double ones, single quotes all
others. -/
def quoteFor (cs : List Char) : Char :=
  if cs.contains '\'' && !cs.contains '"' then '"' else '\''

/-- A character as it stands between the given quotes. -/
def escapeChar (quote c : Char) : List Char :=
  if c == quote || c == '\\' then ['\\', c]
  else if c == '\t' then ['\\', 't']
  else if c == '\n' then ['\\', 'n']
  else if c == '\r' then ['\\', 'r']
  else if isPrintable c then [c]
  else if c.toNat < 0x100 then '\\' :: 'x' :: hexDigits 2 c.toNat
  else if c.toNat < 0x10000 then '\\' :: 'u' :: hexDigits 4 c.toNat
  else '\\' :: 'U' :: hexDigits 8 c.toNat

/-- The characters of a text between its quotes. -/
def quotedChars (cs : List Char) : List Char :=
  let quote := quoteFor cs
  quote :: cs.flatMap (escapeChar quote) ++ [quote]

/-- A text between its quotes. -/
def quoted (text : String) : String :=
  String.ofList (quotedChars text.toList)

/-- A byte as it stands between the given quotes. Only ASCII is shown as itself. -/
def escapeByte (quote : Char) (b : UInt8) : List Char :=
  if b.toNat < 0x7F then escapeChar quote (Char.ofNat b.toNat)
  else '\\' :: 'x' :: hexDigits 2 b.toNat

/-- Bytes between quotes, after a letter that tells them from a text. -/
def quotedBytes (bytes : List UInt8) : String :=
  let quote := quoteFor (bytes.map fun b => Char.ofNat b.toNat)
  String.ofList ('b' :: quote :: bytes.flatMap (escapeByte quote) ++ [quote])

end Supergraph.Text
