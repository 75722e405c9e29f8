import Supergraph.Sdl.BlockText
import Supergraph.Sdl.Token
import Supergraph.Text.Name

/-!
# Lexical analysis of the schema language

A text is read token by token; blanks, commas, byte order marks and comments are passed over. Each
scanner gives a token and how many characters it takes. Reading stops at the first fault.

## Main definitions

* `LexicalFault` — what can be wrong inside a token, with its wording
* `scan` — the token at the start of a text
* `tokens` — the tokens of a text, ending with the end of the text or with a fault
-/

namespace Supergraph.Sdl

/-- What can be wrong inside a token. -/
inductive LexicalFault where
  /-- No token begins with the character. -/
  | unexpectedCharacter (c : Char)
  /-- Texts stand between double quotes. -/
  | singleQuote
  /-- A number breaks off or runs into a name. -/
  | digitExpected (next : Option Char)
  /-- A number of several digits begins with zero. -/
  | digitAfterZero (next : Char)
  /-- A text has no closing quote on its line. -/
  | unterminated
  /-- No such character is written with a backslash. -/
  | badEscape (text : String)
  /-- The escape of a code point is malformed or stands for no character. -/
  | badUnicodeEscape (text : String)
  deriving DecidableEq, Repr

/-- The upper-case hexadecimal digits of a number, at least four. -/
def codeDigits (n : Nat) : List Char :=
  let digits := (Nat.toDigits 16 n).map Char.toUpper
  List.replicate (4 - digits.length) '0' ++ digits

/-- A character as messages show it: quoted if it is printable ASCII, by code point otherwise. -/
def showChar (c : Char) : String :=
  if 0x20 ≤ c.toNat && c.toNat ≤ 0x7E then String.ofList ['\'', c, '\'']
  else String.ofList ('U' :: '+' :: codeDigits c.toNat)

/-- A character, or the end of the text, as messages show it. -/
def showNext : Option Char → String
  | some c => showChar c
  | none => "<EOF>"

/-- The wording of the fault. -/
def LexicalFault.message : LexicalFault → String
  | unexpectedCharacter c => "Unexpected character: " ++ showChar c ++ "."
  | singleQuote =>
    "Unexpected single quote character ('), did you mean to use a double quote (\")?"
  | digitExpected next => "Invalid number, expected digit but got: " ++ showNext next ++ "."
  | digitAfterZero next => "Invalid number, unexpected digit after 0: " ++ showChar next ++ "."
  | unterminated => "Unterminated string."
  | badEscape text => "Invalid character escape sequence: '" ++ text ++ "'."
  | badUnicodeEscape text => "Invalid Unicode escape sequence: '" ++ text ++ "'."

/-! ### Numbers -/

/-- The digits at the start of a text, of which there must be one, and the rest. -/
def scanDigits (cs : List Char) : Except LexicalFault (List Char × List Char) :=
  match cs.takeWhile Char.isDigit with
  | [] => .error (.digitExpected cs.head?)
  | digits => .ok (digits, cs.dropWhile Char.isDigit)

/-- The digits before the point: zero alone, or digits that begin with another one. -/
def scanWhole : List Char → Except LexicalFault (List Char × List Char)
  | '0' :: rest =>
    match rest with
    | c :: _ => if c.isDigit then .error (.digitAfterZero c) else .ok (['0'], rest)
    | [] => .ok (['0'], rest)
  | cs => scanDigits cs

/-- The point and the digits after it, if there is a point. -/
def scanFraction : List Char → Except LexicalFault (List Char × List Char)
  | '.' :: rest => do
    let (digits, rest) ← scanDigits rest
    .ok ('.' :: digits, rest)
  | cs => .ok ([], cs)

/-- The exponent, if there is one. -/
def scanExponent : List Char → Except LexicalFault (List Char × List Char)
  | c :: rest =>
    if c == 'e' || c == 'E' then
      match rest with
      | s :: rest' =>
        if s == '+' || s == '-' then do
          let (digits, rest) ← scanDigits rest'
          .ok (c :: s :: digits, rest)
        else do
          let (digits, rest) ← scanDigits rest
          .ok (c :: digits, rest)
      | [] => .error (.digitExpected none)
    else .ok ([], c :: rest)
  | [] => .ok ([], [])

/-- A number. Neither a point nor a name may follow it. -/
def scanNumber (cs : List Char) : Except LexicalFault (Token × Nat) := do
  let (sign, rest) := match cs with
    | '-' :: rest => (['-'], rest)
    | _ => ([], cs)
  let (whole, rest) ← scanWhole rest
  let (fraction, rest) ← scanFraction rest
  let (exponent, rest) ← scanExponent rest
  let text := sign ++ whole ++ fraction ++ exponent
  let token := if fraction.isEmpty && exponent.isEmpty then Token.int (String.ofList text)
    else Token.float (String.ofList text)
  match rest.head? with
  | some c =>
    -- A number that runs into a name is no number followed by a name.
    if c == '.' || Text.isNameStart c then .error (.digitExpected (some c))
    else .ok (token, text.length)
  | none => .ok (token, text.length)

/-! ### Texts -/

/-- The value of a hexadecimal digit. -/
def hexValue? (c : Char) : Option Nat :=
  if c.isDigit then some (c.toNat - 48)
  else if 'A' ≤ c ∧ c ≤ 'F' then some (c.toNat - 55)
  else if 'a' ≤ c ∧ c ≤ 'f' then some (c.toNat - 87)
  else none

/-- Whether a code point is that of a character. -/
def isScalarValue (n : Nat) : Bool :=
  n ≤ 0xD7FF || (0xE000 ≤ n && n ≤ 0x10FFFF)

/-- The code point between braces, and the size of the escape up to the closing brace. A failure
gives the size that was read. `budget` limits the digits. -/
def scanBraced (budget size point : Nat) : List Char → Except Nat (Nat × Nat)
  | [] => .error size
  | c :: cs =>
    match budget with
    | 0 => .error size
    | budget + 1 =>
      if c == '\x7d' then
        if size + 1 < 5 || !isScalarValue point then .error (size + 1) else .ok (point, size + 1)
      else match hexValue? c with
        | some v => scanBraced budget (size + 1) (16 * point + v) cs
        | none => .error (size + 1)

/-- The number of four hexadecimal digits. -/
def hex4? : List Char → Option Nat
  | a :: b :: c :: d :: _ => do
    let a ← hexValue? a
    let b ← hexValue? b
    let c ← hexValue? c
    let d ← hexValue? d
    some (((a * 16 + b) * 16 + c) * 16 + d)
  | _ => none

/-- The characters that a backslash and a letter stand for. -/
def letterEscapes : List (Char × Char) :=
  [('"', '"'), ('\\', '\\'), ('/', '/'), ('b', '\x08'), ('f', '\x0c'), ('n', '\n'), ('r', '\r'),
    ('t', '\t')]

/-- The code point of an escape of four digits, or of two of them that form a surrogate pair, and
its size. -/
def scanFixed (text rest : List Char) : Except LexicalFault (Nat × Nat) :=
  let fault := LexicalFault.badUnicodeEscape (String.ofList (text.take 6))
  match hex4? rest with
  | none => .error fault
  | some high =>
    if isScalarValue high then .ok (high, 6)
    else match rest.drop 4 with
      | '\\' :: 'u' :: more =>
        match hex4? more with
        | some low =>
          if high ≤ 0xDBFF && 0xDC00 ≤ low && low ≤ 0xDFFF then
            .ok (0x10000 + (high - 0xD800) * 0x400 + (low - 0xDC00), 12)
          else .error fault
        | none => .error fault
      | _ => .error fault

/-- The character of the escape at the start of a text, and the size of the escape. -/
def scanEscape (text : List Char) : Except LexicalFault (Char × Nat) :=
  match text with
  | '\\' :: 'u' :: '\x7b' :: rest =>
    match scanBraced 9 3 0 rest with
    | .ok (point, size) => .ok (Char.ofNat point, size)
    | .error size => .error (.badUnicodeEscape (String.ofList (text.take size)))
  | '\\' :: 'u' :: rest => (scanFixed text rest).map fun (point, size) => (Char.ofNat point, size)
  | _ =>
    match (text.drop 1).head?.bind fun c => letterEscapes.lookup c with
    | some c => .ok (c, 2)
    | none => .error (.badEscape (String.ofList (text.take 2)))

/-- The value of a text up to its closing quote, and how many characters that takes. The first
`skip` characters belong to an escape that has been read. -/
def scanString (skip : Nat) : List Char → Except LexicalFault (List Char × Nat)
  | [] => .error .unterminated
  | c :: cs =>
    match skip with
    | skip + 1 => (scanString skip cs).map fun (value, size) => (value, size + 1)
    | 0 =>
      if c == '"' then .ok ([], 1)
      else if c == '\\' then do
        let (escaped, size) ← scanEscape (c :: cs)
        -- The backslash is taken here, the rest of its escape is skipped.
        (scanString (size - 1) cs).map fun (value, size) => (escaped :: value, size + 1)
      else if c == '\n' || c == '\r' then .error .unterminated
      else (scanString 0 cs).map fun (value, size) => (c :: value, size + 1)

/-- Three double quotes. -/
def tripleQuote : List Char := ['"', '"', '"']

/-- The characters of a block text up to its closing quotes, and how many characters that takes.
Quotes after a backslash belong to the text. -/
def scanBlock (skip : Nat) : List Char → Except LexicalFault (List Char × Nat)
  | [] => .error .unterminated
  | c :: cs =>
    match skip with
    | skip + 1 => (scanBlock skip cs).map fun (value, size) => (value, size + 1)
    | 0 =>
      if tripleQuote.isPrefixOf (c :: cs) then .ok ([], 3)
      else if c == '\\' && tripleQuote.isPrefixOf cs then
        (scanBlock 3 cs).map fun (value, size) => (tripleQuote ++ value, size + 1)
      else (scanBlock 0 cs).map fun (value, size) => (c :: value, size + 1)

/-! ### Tokens -/

/-- Characters that stand between tokens. -/
def isIgnored (c : Char) : Bool :=
  c == ' ' || c == '\t' || c == ',' || c == '\n' || c == '\r' || c == '\ufeff'

/-- The token at the start of a text that begins with neither an ignored character nor a comment,
and how many characters it takes. -/
def scan (cs : List Char) : Except LexicalFault (Token × Nat) :=
  match cs with
  | [] => .ok (.endOfText, 0)
  | c :: rest =>
    if c == '"' then
      if tripleQuote.isPrefixOf cs then
        (scanBlock 0 (cs.drop 3)).map fun (value, size) =>
          (.block (String.ofList (blockValue value)), size + 3)
      else (scanString 0 rest).map fun (value, size) => (.string (String.ofList value), size + 1)
    else match Punctuator.ofChar? c with
      | some p => .ok (.mark p, 1)
      | none =>
        if c.isDigit || c == '-' then scanNumber cs
        else if Text.isNameStart c then
          let name := cs.takeWhile Text.isNamePart
          .ok (.name (String.ofList name), name.length)
        else if ['.', '.', '.'].isPrefixOf cs then .ok (.mark .spread, 3)
        else if c == '\'' then .error .singleQuote
        else .error (.unexpectedCharacter c)

/-- The tokens of a text whose first `skip` characters have been read; `inComment` holds up to the
end of a comment's line. -/
def tokensFrom (skip : Nat) (inComment : Bool) : List Char → List (Except LexicalFault Token)
  | [] => [.ok .endOfText]
  | c :: cs =>
    match skip with
    | skip + 1 => tokensFrom skip false cs
    | 0 =>
      if inComment then tokensFrom 0 (!(c == '\n' || c == '\r')) cs
      else if isIgnored c then tokensFrom 0 false cs
      else if c == '#' then tokensFrom 0 true cs
      else match scan (c :: cs) with
        | .ok (token, size) => .ok token :: tokensFrom (size - 1) false cs
        | .error fault => [.error fault]

/-- The tokens of a text, ending with the end of the text or with a fault. -/
def tokens (text : String) : List (Except LexicalFault Token) :=
  tokensFrom 0 false text.toList

end Supergraph.Sdl
