/-!
# Block texts

The value of a block text is its lines without the indentation they share and without the blank
lines at its two ends. The first line stands next to the quotes and has no indentation to share.

## Main definitions

* `splitLines` — the lines of a text
* `dedent` — the lines of the value
-/

namespace Supergraph.Sdl

/-- The lines of a text: they end at a carriage return, a line feed, or both in this order. -/
def splitLines : List Char → List (List Char)
  | [] => [[]]
  | '\r' :: '\n' :: cs => [] :: splitLines cs
  | c :: cs =>
    if c == '\r' || c == '\n' then [] :: splitLines cs
    else match splitLines cs with
      | line :: lines => (c :: line) :: lines
      | [] => [[c]]

/-- A space or a tab. -/
def isIndent (c : Char) : Bool :=
  c == ' ' || c == '\t'

/-- Whether a line holds nothing but indentation. -/
def isBlankLine (line : List Char) : Bool :=
  line.all isIndent

/-- How many spaces and tabs a line begins with. -/
def indentOf (line : List Char) : Nat :=
  (line.takeWhile isIndent).length

/-- The indentation that all lines but the first share, blank lines apart. -/
def commonIndent (lines : List (List Char)) : Option Nat :=
  (((lines.drop 1).filter fun l => !isBlankLine l).map indentOf).min?

/-- The lines of the value of a block text. -/
def dedent (lines : List (List Char)) : List (List Char) :=
  let indented := match lines, commonIndent lines with
    | first :: rest, some n => first :: rest.map (List.drop n)
    | _, _ => lines
  ((indented.dropWhile isBlankLine).reverse.dropWhile isBlankLine).reverse

/-- The value of a block text. -/
def blockValue (cs : List Char) : List Char :=
  ['\n'].intercalate (dedent (splitLines cs))

end Supergraph.Sdl
