import Supergraph.Yaml.Cursor

/-!
# Reading scalars

The five forms of scalars: without quotes, between single or double quotes, and as literal or folded
blocks. A line break inside a scalar that is not a literal block stands for a space; each further
one stands for itself.

## Main definitions

* `Reading.plain` — a scalar without quotes
* `Reading.quoted` — a scalar between quotes
* `Reading.block` — a literal or folded block
-/

namespace Supergraph.Yaml.Reading

/-- What a line break and the breaks after it mean inside a folded text. -/
def foldBreaks (first later : List Char) : List Char :=
  (if first ≠ ['\n'] then first else if later.isEmpty then [' '] else []) ++ later

/-! ### Scalars without quotes -/

/-- Takes the breaks and spaces before the next line with text; none if that is a mark of
documents. -/
def plainBreaks : Nat → Reading (Option (List Char))
  | 0 => return some []
  | n + 1 => do
    match ← peek with
    | some ' ' =>
      forward 1
      plainBreaks n
    | c =>
      if !c.any breaksLine then return some []
      let found ← lineBreak
      if ← atDocumentMark then return none
      return (← plainBreaks n).map (found ++ ·)

/-- Takes the gap after a part of a scalar, and says whether it breaks the line. -/
def plainGap : Reading (List Char × Bool) := do
  let spaces ← spaces
  if !(← peek).any breaksLine then return (spaces, false)
  let first ← lineBreak
  if ← atDocumentMark then return ([], true)
  match ← plainBreaks (← fuel) with
  | none => return ([], true)
  | some later => return (foldBreaks first later, true)

/-- The part of a scalar that ends at a gap or at a mark. Inside brackets more marks end it. -/
def plainPart (inFlow : Bool) : List Char → List Char
  | [] => []
  | c :: rest =>
    let marks : List Char := [',', '[', ']', '\x7b', '\x7d']
    let colonEnds := isGapOrEnd rest.head? || inFlow && rest.head?.any marks.contains
    if isGapOrEnd (some c) || c == ':' && colonEnds
        || inFlow && (c == '?' || marks.contains c) then []
    else c :: plainPart inFlow rest

/-- Takes the parts of a scalar, with the gap before the first. Lines after the first have to begin
at the given column or later. -/
def plainParts (inFlow : Bool) (indent : Nat) (gap : List Char) :
    Nat → Reading (List Char × Bool)
  | 0 => refuse
  | n + 1 => do
    let part := plainPart inFlow (← rest)
    if part.isEmpty then return ([], true)
    forward part.length
    let (next, breaks) ← plainGap
    let ends := next.isEmpty || (← peek) == some '#' || !inFlow && (← column) < indent
    let (more, breaks) ← if ends then pure ([], breaks) else do
      let start ← get
      let (more, moreBreaks) ← plainParts inFlow indent next n
      pure (more, if start.index == (← get).index then breaks else moreBreaks)
    return (gap ++ part ++ more, breaks)

/-- Takes a scalar without quotes, and says whether a line break follows its last part. -/
def plain (inFlow : Bool) (indent : Nat) : Reading (List Char × Bool) := do
  plainParts inFlow indent [] (← fuel)

/-! ### Scalars between quotes -/

/-- What the letters after a backslash mean. -/
def letterEscapes : List (Char × Char) :=
  [('0', '\x00'), ('a', '\x07'), ('b', '\x08'), ('t', '\t'), ('\t', '\t'), ('n', '\n'),
    ('v', '\x0b'), ('f', '\x0c'), ('r', '\r'), ('e', '\x1b'), (' ', ' '), ('"', '"'),
    ('\\', '\\'), ('/', '/'), ('N', '\x85'), ('_', '\xa0'), ('L', '\u2028'), ('P', '\u2029')]

/-- How many digits follow a letter that begins the code of a character. -/
def codeEscapes : List (Char × Nat) := [('x', 2), ('u', 4), ('U', 8)]

/-- The number that hexadecimal digits stand for. -/
def hexNumber? (cs : List Char) : Option Nat :=
  cs.foldlM (fun n c => (Text.digitTo? 16 c).map (16 * n + ·)) 0

/-- Takes the digits of the code of a character, and gives the character. -/
def codedChar (digits : Nat) : Reading Char := do
  let cs := (← rest).take digits
  match hexNumber? cs with
  | none => refuse
  | some n =>
    if cs.length < digits then refuse
    if 0x7FFFFFFF < n then throw .codeTooLarge
    if 0x10FFFF < n then throw .codePoint
    forward digits
    return Char.ofNat n

/-- Takes the breaks and blanks up to the next line with text. A mark of documents must not stand
there. -/
def quotedBreaks : Nat → Reading (List Char)
  | 0 => refuse
  | n + 1 => do
    if ← atDocumentMark then refuse
    let _ ← blanks
    if (← peek).any breaksLine then
      let found ← lineBreak
      return found ++ (← quotedBreaks n)
    else return []

/-- Takes a backslash and what it begins. -/
def escape : Reading (List Char) := do
  forward 1
  match ← peek with
  | none => refuse
  | some c =>
    match letterEscapes.lookup c, codeEscapes.lookup c with
    | some meant, _ =>
      forward 1
      return [meant]
    | none, some digits =>
      forward 1
      return [← codedChar digits]
    | none, none =>
      if breaksLine c then
        let _ ← lineBreak
        quotedBreaks (← fuel)
      else refuse

/-- Takes characters up to a gap or to the closing quote. -/
def quotedPart (quote : Char) : Nat → Reading (List Char)
  | 0 => refuse
  | n + 1 => do
    match ← rest with
    | '\'' :: '\'' :: _ =>
      if quote == '\'' then
        forward 2
        return '\'' :: (← quotedPart quote n)
      else
        forward 1
        return '\'' :: (← quotedPart quote n)
    | '\\' :: _ =>
      if quote == '"' then
        let meant ← escape
        return meant ++ (← quotedPart quote n)
      else
        forward 1
        return '\\' :: (← quotedPart quote n)
    | c :: _ =>
      if c == quote || isGapOrEnd (some c) then return []
      forward 1
      return c :: (← quotedPart quote n)
    | [] => return []

/-- Takes a gap, which means itself on one line and is folded otherwise. -/
def quotedGap : Reading (List Char) := do
  let gap ← blanks
  match ← peek with
  | none => refuse
  | some c =>
    if breaksLine c then
      let first ← lineBreak
      return foldBreaks first (← quotedBreaks (← fuel))
    else return gap

/-- Takes parts and gaps up to the closing quote. -/
def quotedParts (quote : Char) : Nat → Reading (List Char)
  | 0 => refuse
  | n + 1 => do
    if (← peek) == some quote then return []
    let gap ← quotedGap
    let part ← quotedPart quote (← fuel)
    return gap ++ part ++ (← quotedParts quote n)

/-- Takes a scalar between the given quotes. -/
def quoted (quote : Char) : Reading (List Char) := do
  forward 1
  let first ← quotedPart quote (← fuel)
  let more ← quotedParts quote (← fuel)
  forward 1
  return first ++ more

/-! ### Blocks -/

/-- What becomes of the line breaks that end a block. -/
inductive Chomping where
  | strip
  | clip
  | keep
  deriving DecidableEq, Repr

/-- Takes the sign that settles the breaks at the end of a block, if it stands here. -/
def chomping? : Reading (Option Chomping) := do
  match ← peek with
  | some '+' =>
    forward 1
    return some .keep
  | some '-' =>
    forward 1
    return some .strip
  | _ => return none

/-- Takes the digit that settles the indentation of a block, if it stands here. -/
def indentation? : Reading (Option Nat) := do
  match ← peek with
  | some c =>
    if c == '0' then refuse
    if c.isDigit then
      forward 1
      return some (c.toNat - 48)
    else return none
  | none => return none

/-- Takes the header of a block, in which sign and digit come in any order. -/
def blockHeader : Reading (Chomping × Option Nat) := do
  let early ← chomping?
  let digit ← indentation?
  let late ← if early.isNone && digit.isSome then chomping? else pure none
  require endsWord
  emptyRestOfLine
  return ((early.or late).getD .clip, digit)

/-- Takes the empty lines before the first line of a block, and gives their breaks and the greatest
column that spaces lead to. -/
def blockStart : Nat → Reading (List Char × Nat)
  | 0 => return ([], 0)
  | n + 1 => do
    match ← peek with
    | some ' ' =>
      forward 1
      let here ← column
      let (breaks, deepest) ← blockStart n
      return (breaks, max here deepest)
    | c =>
      if !c.any breaksLine then return ([], 0)
      let found ← lineBreak
      let (breaks, deepest) ← blockStart n
      return (found ++ breaks, deepest)

/-- Takes spaces up to a column. -/
def indentTo (indent : Nat) : Reading Unit := do
  let spaces := ((← rest).takeWhile (· == ' ')).length
  forward (min spaces (indent - (← column)))

/-- Takes the empty lines before the next line of a block, and gives their breaks. -/
def blockBreaks (indent : Nat) : Nat → Reading (List Char)
  | 0 => return []
  | n + 1 => do
    indentTo indent
    if (← peek).any breaksLine then
      let found ← lineBreak
      return found ++ (← blockBreaks indent n)
    else return []

/-- Whether a line of a block begins with text. -/
def beginsText : Reading Bool := do
  return !(← peek).any fun c => c == ' ' || c == '\t'

/-- Takes the lines of a block, with the breaks before the first. Gives the text without its last
break, that break, and the breaks after it. -/
def blockLines (folded : Bool) (indent : Nat) (before : List Char) :
    Nat → Reading (List Char × List Char × List Char)
  | 0 => refuse
  | n + 1 => do
    if (← column) ≠ indent || (← peek).isNone then return ([], [], before)
    let begins ← beginsText
    let line ← restOfLine
    let last ← lineBreak
    let after ← blockBreaks indent (← fuel)
    if (← column) = indent && (← peek).isSome then
      let joins := folded && last == ['\n'] && begins && (← beginsText)
      let gap := if !joins then last else if after.isEmpty then [' '] else []
      let (more, last, after) ← blockLines folded indent after n
      return (before ++ line ++ gap ++ more, last, after)
    else return (before ++ line, last, after)

/-- Takes a literal or folded block. Its lines stand further right than `indent`, which is negative
at the top of a document. -/
def block (folded : Bool) (indent : Int) : Reading (List Char) := do
  forward 1
  let (chomping, digit) ← blockHeader
  let least := (max (indent + 1) 1).toNat
  let (before, indent) ← match digit with
    | some digit => do
      let indent := least + digit - 1
      pure (← blockBreaks indent (← fuel), indent)
    | none => do
      let (before, deepest) ← blockStart (← fuel)
      pure (before, max least deepest)
  let (text, last, after) ← blockLines folded indent before (← fuel)
  return text ++ (if chomping = .strip then [] else last)
    ++ (if chomping = .keep then after else [])

end Supergraph.Yaml.Reading
