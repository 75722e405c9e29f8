import Supergraph.Yaml.Tag

/-!
# Scalars in YAML text

A text is written without quotes where nothing in it could be taken for markup or for another kind
of scalar, between single quotes where it is free of special characters, and between double quotes,
with escapes, otherwise. Long texts are folded at spaces.

## Main definitions

* `plainAllowed`, `singleQuotesAllowed` — which forms a text admits
* `styleOf` — the form a text is written in
* `writePlain`, `writeSingleQuoted`, `writeDoubleQuoted` — the three forms
-/

namespace Supergraph.Yaml

/-- The characters that end a line of YAML text. -/
def isBreak (c : Char) : Bool :=
  c == '\n' || c == '\x85' || c == '\u2028' || c == '\u2029'

/-- The characters that only double quotes can hold: all but the line feed and printable ASCII. -/
def isSpecial (c : Char) : Bool :=
  !(c == '\n' || (0x20 ≤ c.toNat && c.toNat ≤ 0x7E))

/-- A space or a line feed. -/
def isGap (c : Char) : Bool :=
  c == ' ' || c == '\n'

/-- Whether a text takes more than one line. -/
def isMultiline (cs : List Char) : Bool :=
  cs.any isBreak

/-- The neighbouring characters of a text. -/
def neighbours (cs : List Char) : List (Char × Char) :=
  cs.zip (cs.drop 1)

/-- Characters that mean something else at the start of a scalar. -/
def leadingIndicators : List Char :=
  ['#', ',', '[', ']', '\x7b', '\x7d', '&', '*', '!', '|', '>', '\'', '"', '%', '@', '\x60']

/-- Whether a text begins like markup: with an indicator, with a mark of documents, or with a mark
of entries that a gap follows. -/
def beginsLikeMarkup (cs : List Char) : Bool :=
  match cs with
  | [] => false
  | c :: rest =>
    leadingIndicators.contains c || ['-', '-', '-'].isPrefixOf cs || ['.', '.', '.'].isPrefixOf cs
      || ((c == '-' || c == '?') && (rest.head?.all isGap))

/-- Whether a text holds a colon that a gap or its end follows, or a number sign after a gap. -/
def holdsMarkup (cs : List Char) : Bool :=
  cs.getLast? == some ':'
    || (neighbours cs).any fun (a, b) => (a == ':' && isGap b) || (isGap a && b == '#')

/-- Whether a nonempty text may stand without quotes. -/
def plainAllowed (cs : List Char) : Bool :=
  !cs.any isSpecial && !isMultiline cs && !beginsLikeMarkup cs && !holdsMarkup cs
    && cs.head? != some ' ' && cs.getLast? != some ' '

/-- Whether a text may stand between single quotes: spaces next to line feeds would be lost. -/
def singleQuotesAllowed (cs : List Char) : Bool :=
  !cs.any isSpecial
    && (neighbours cs).all fun (a, b) => !(a == '\n' && b == ' ') && !(a == ' ' && b == '\n')

/-- The forms of a scalar. -/
inductive Style where
  | plain
  | singleQuoted
  | doubleQuoted
  deriving DecidableEq, Repr

/-- The form of a text. As a key on one line it must not take more than that line. -/
def styleOf (asKey : Bool) (tag : Tag) (cs : List Char) : Style :=
  if tag ≠ .text then .plain
  else if Tag.ofPlain cs = .text ∧ plainAllowed cs then .plain
  else if singleQuotesAllowed cs && !(asKey && isMultiline cs) then .singleQuoted
  else .doubleQuoted

/-- The column after which a text is folded. -/
def bestWidth : Nat := 80

/-- A new line that begins with the given number of spaces. -/
def newLine (indent : Nat) : List Char :=
  '\n' :: List.replicate indent ' '

/-- Text written so far on a scalar and the column at which it ends. -/
structure Pen where
  written : List Char
  column : Nat

namespace Pen

/-- Writes characters on the same line. -/
def put (p : Pen) (cs : List Char) : Pen :=
  ⟨p.written ++ cs, p.column + cs.length⟩

/-- Begins a new line. -/
def turn (p : Pen) (indent : Nat) : Pen :=
  ⟨p.written ++ newLine indent, indent⟩

end Pen

/-- The maximal runs of spaces, of line breaks and of other characters. -/
def runs (cs : List Char) : List (List Char) :=
  cs.splitBy fun a b => (a == ' ') == (b == ' ') && isBreak a == isBreak b

/-- A text without quotes. A single space past the best width becomes a new line. -/
def writePlain (fold : Bool) (column indent : Nat) (cs : List Char) : List Char :=
  ((runs cs).foldl (fun p run =>
    if fold && run == [' '] && bestWidth < p.column then p.turn indent else p.put run)
    (Pen.mk [] column)).written

/-- Single quotes are written twice. -/
def doubleQuotes (cs : List Char) : List Char :=
  cs.flatMap fun c => if c == '\'' then ['\'', '\''] else [c]

/-- The inner runs of a text between single quotes. Line feeds are written once more than they are
meant, and a single space past the best width becomes a new line unless it ends the text. -/
def singleQuotedRuns (fold : Bool) (indent : Nat) (first : Bool) : Pen → List (List Char) → Pen
  | p, [] => p
  | p, run :: rest =>
    let p :=
      if run.any isBreak then
        ⟨p.written ++ '\n' :: run.dropLast ++ newLine indent, indent⟩
      else if run == [' '] && fold && bestWidth < p.column && !first && !rest.isEmpty then
        p.turn indent
      else p.put (doubleQuotes run)
    singleQuotedRuns fold indent false p rest

/-- A text between single quotes. -/
def writeSingleQuoted (fold : Bool) (column indent : Nat) (cs : List Char) : List Char :=
  (singleQuotedRuns fold indent true (Pen.mk ['\''] (column + 1)) (runs cs)).written ++ ['\'']

/-- The upper-case hexadecimal digit of a number below sixteen. -/
def hexDigitUpper (n : Nat) : Char :=
  if n < 10 then Char.ofNat (48 + n) else Char.ofNat (55 + n)

/-- The last `width` hexadecimal digits of a number in upper case. -/
def hexUpper (width n : Nat) : List Char :=
  match width with
  | 0 => []
  | w + 1 => hexUpper w (n / 16) ++ [hexDigitUpper (n % 16)]

/-- The escapes that have a letter of their own. -/
def letterEscapes : List (Char × Char) :=
  [('\x00', '0'), ('\x07', 'a'), ('\x08', 'b'), ('\t', 't'), ('\n', 'n'), ('\x0b', 'v'),
    ('\x0c', 'f'), ('\r', 'r'), ('\x1b', 'e'), ('"', '"'), ('\\', '\\'), ('\x85', 'N'),
    ('\xa0', '_'), ('\u2028', 'L'), ('\u2029', 'P')]

/-- The escape of a character between double quotes, for those that need one. -/
def escape? (c : Char) : Option (List Char) :=
  if c == '"' || c == '\\' || !(0x20 ≤ c.toNat && c.toNat ≤ 0x7E) then
    some <| match letterEscapes.lookup c with
      | some letter => ['\\', letter]
      | none =>
        if c.toNat ≤ 0xFF then '\\' :: 'x' :: hexUpper 2 c.toNat
        else if c.toNat ≤ 0xFFFF then '\\' :: 'u' :: hexUpper 4 c.toNat
        else '\\' :: 'U' :: hexUpper 8 c.toNat
  else none

/-- A new line inside double quotes: the line before it ends in a backslash, and so begins the next
one if the text goes on with a space. -/
def foldDoubleQuoted (p : Pen) (indent : Nat) (next : Option Char) : Pen :=
  let p := (p.put ['\\']).turn indent
  if next == some ' ' then p.put ['\\'] else p

/-- The characters of a text between double quotes. `first` holds for the first character of the
text and `settled` when the character before it was written as an escape. -/
def doubleQuotedChars (fold : Bool) (indent : Nat) (first settled : Bool) :
    Pen → List Char → Pen
  | p, [] => p
  | p, c :: rest =>
    -- There is no fold at the first character of the text, nor at its last.
    let inner := fold && !first && !rest.isEmpty
    match escape? c with
    | some escape =>
      let p := p.put escape
      let p := if inner && bestWidth < p.column - 1 then foldDoubleQuoted p indent rest.head? else p
      doubleQuotedChars fold indent false true p rest
    | none =>
      let p := if inner && (c == ' ' || settled) && bestWidth < p.column then
          foldDoubleQuoted p indent (some c)
        else p
      doubleQuotedChars fold indent false false (p.put [c]) rest

/-- A text between double quotes. -/
def writeDoubleQuoted (fold : Bool) (column indent : Nat) (cs : List Char) : List Char :=
  (doubleQuotedChars fold indent true true (Pen.mk ['"'] (column + 1)) cs).written ++ ['"']

/-- A scalar in its form. A key is not folded. -/
def writeScalar (asKey : Bool) (column indent : Nat) (tag : Tag) (cs : List Char) : List Char :=
  match styleOf asKey tag cs with
  | .plain => writePlain (!asKey) column indent cs
  | .singleQuoted => writeSingleQuoted (!asKey) column indent cs
  | .doubleQuoted => writeDoubleQuoted (!asKey) column indent cs

end Supergraph.Yaml
