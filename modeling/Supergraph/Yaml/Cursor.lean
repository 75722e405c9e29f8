import Supergraph.Yaml.Fault

/-!
# Reading characters of YAML texts

A cursor stands in a text and knows its line and column. Readers move it forward or find a fault.

## Main definitions

* `Cursor`, `Reading` — where a reader stands, and readers
* `Reading.peek`, `Reading.forward`, `Reading.takeWhile` — looking and moving
* `Reading.lineBreak` — taking a line break
-/

namespace Supergraph.Yaml

/-- Whether a character breaks a line. -/
def breaksLine (c : Char) : Bool :=
  c == '\n' || c == '\r' || c == '\x85' || c == '\u2028' || c == '\u2029'

/-- Whether a line or the text ends here. -/
def endsLine (c : Option Char) : Bool :=
  c.all breaksLine

/-- Whether a space, a line or the text ends here. -/
def endsWord (c : Option Char) : Bool :=
  c.all fun c => c == ' ' || breaksLine c

/-- Whether a gap of any kind, or the end of the text, stands here. -/
def isGapOrEnd (c : Option Char) : Bool :=
  c.all fun c => c == ' ' || c == '\t' || breaksLine c

/-- Where a reader stands: what remains of the text, how much has been read, and the line and
column. -/
structure Cursor where
  rest : List Char
  index : Nat
  line : Nat
  column : Nat

namespace Cursor

/-- The cursor at the beginning of a text. -/
def ofChars (cs : List Char) : Cursor := ⟨cs, 0, 0, 0⟩

/-- The cursor after the next character. A carriage return breaks the line only if no line feed
follows, and a byte order mark takes no column. -/
def next (p : Cursor) : Cursor :=
  match p.rest with
  | [] => p
  | c :: rest =>
    if breaksLine c && !(c == '\r' && rest.head? == some '\n') then
      ⟨rest, p.index + 1, p.line + 1, 0⟩
    else if c == '\ufeff' then ⟨rest, p.index + 1, p.line, p.column⟩
    else ⟨rest, p.index + 1, p.line, p.column + 1⟩

/-- The cursor some characters later. -/
def skip (p : Cursor) : Nat → Cursor
  | 0 => p
  | n + 1 => p.next.skip n

end Cursor

/-- Readers of characters. -/
abbrev Reading (α : Type) := StateT Cursor (Except Fault) α

namespace Reading

/-- Finds that the text does not follow the rules. -/
def refuse {α : Type} : Reading α := throw .malformed

/-- What remains of the text. -/
def rest : Reading (List Char) := do
  return (← get).rest

/-- The character some characters ahead, nothing at the end of the text. -/
def peekAt (n : Nat) : Reading (Option Char) := do
  return (← get).rest[n]?

/-- The next character. -/
def peek : Reading (Option Char) := peekAt 0

/-- The column of the next character. -/
def column : Reading Nat := do
  return (← get).column

/-- Moves some characters forward. -/
def forward (n : Nat) : Reading Unit :=
  modify fun p => p.skip n

/-- Takes the characters up to the first without the property. -/
def takeWhile (holds : Char → Bool) : Reading (List Char) := do
  let taken := (← rest).takeWhile holds
  forward taken.length
  return taken

/-- Takes spaces. -/
def spaces : Reading (List Char) := takeWhile (· == ' ')

/-- Takes spaces and tabs. -/
def blanks : Reading (List Char) := takeWhile fun c => c == ' ' || c == '\t'

/-- Takes what remains of the line. -/
def restOfLine : Reading (List Char) := takeWhile fun c => !breaksLine c

/-- Requires a property of the next character. -/
def require (holds : Option Char → Bool) : Reading Unit := do
  if !holds (← peek) then refuse

/-- Takes the given character, which has to stand here. -/
def expect (c : Char) : Reading Unit := do
  require (· == some c)
  forward 1

/-- Takes a line break, if one stands here, and gives the text it means: separators of lines and
paragraphs mean themselves, the others a line feed. -/
def lineBreak : Reading (List Char) := do
  match ← rest with
  | '\r' :: '\n' :: _ =>
    forward 2
    return ['\n']
  | c :: _ =>
    if breaksLine c then
      forward 1
      return if c == '\u2028' || c == '\u2029' then [c] else ['\n']
    else return []
  | [] => return []

/-- Whether a mark of documents stands at the beginning of what remains. -/
def atDocumentMark : Reading Bool := do
  match ← rest with
  | '-' :: '-' :: '-' :: cs | '.' :: '.' :: '.' :: cs => return isGapOrEnd cs.head?
  | _ => return false

/-- Takes a comment, if one stands here. -/
def comment : Reading Unit := do
  if (← peek) == some '#' then
    let _ ← restOfLine

/-- Takes spaces and a comment up to the end of the line, and the line break. -/
def emptyRestOfLine : Reading Unit := do
  let _ ← spaces
  comment
  require endsLine
  let _ ← lineBreak

/-- A bound for the steps of a reader: each takes a character or ends. -/
def fuel : Reading Nat := do
  return (← rest).length + 1

end Reading

end Supergraph.Yaml
