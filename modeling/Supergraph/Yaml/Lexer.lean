import Supergraph.Yaml.ScalarReading
import Supergraph.Yaml.Token

/-!
# From text to tokens

Outside brackets indentation tells where collections begin and end. A key that stands on one line
with its value is recognised only when the colon comes; until then the place before it is kept as a
possible key, and the tokens that begin it are put there afterwards. Tokens are read as they are
asked for, and no further than it takes to know the next one: a fault behind it does not matter
before it is reached.

## Main definitions

* `Lexer` — the tokens that wait, the open collections and the possible keys
* `Lexing.step` — reads on
* `Lexing.peek`, `Lexing.advance` — the next token
-/

namespace Supergraph.Yaml

/-- A place where a key may have begun. A required key stands where only a key can. -/
structure PossibleKey where
  position : Nat
  required : Bool
  start : Cursor

/-- The state of reading tokens: how long the text is, where the reader stands, the tokens that wait
to be taken, how many have been taken, whether the end of the text has been reached, how many
brackets are open (too many closing ones count below zero), the indentation of the open collections
outside brackets (the innermost first), whether a key may begin here, and the possible keys by the
number of open brackets. -/
structure Lexer where
  length : Nat
  cursor : Cursor
  queue : List Token := []
  taken : Nat := 0
  finished : Bool := false
  depth : Int := 0
  indents : List Nat := []
  keyAllowed : Bool := true
  keys : List (Int × PossibleKey) := []

/-- Steps of reading tokens. -/
abbrev Lexing (α : Type) := StateT Lexer (Except Fault) α

namespace Lexing

/-- Reads characters. -/
def read {α : Type} (reader : Reading α) : Lexing α := do
  let s ← get
  let (a, cursor) ← reader.run s.cursor
  set { s with cursor := cursor }
  return a

/-- Adds a token. -/
def push (t : Token) : Lexing Unit :=
  modify fun s => { s with queue := s.queue ++ [t] }

/-- Says whether a key may begin next. -/
def allowKey (allowed : Bool) : Lexing Unit :=
  modify fun s => { s with keyAllowed := allowed }

/-- Whether the reader is inside brackets. -/
def inFlow : Lexing Bool := do
  return (← get).depth ≠ 0

/-- The indentation of the innermost open collection, which is negative if there is none. -/
def indent : Lexing Int := do
  return (((← get).indents.head?.map Int.ofNat).getD (-1))

/-! ### Indentation -/

/-- How many of the open collections stand further right than a column. -/
def deeper (column : Int) (indents : List Nat) : Nat :=
  (indents.takeWhile fun (i : Nat) => column < (i : Int)).length

/-- Ends the collections that stand further right than a column. -/
def unwindTo (column : Int) : Lexing Unit := do
  if ← inFlow then return
  modify fun s =>
    let ended := deeper column s.indents
    { s with
      indents := s.indents.drop ended
      queue := s.queue ++ List.replicate ended Token.blockEnd }

/-- Opens a collection at a column if it stands further right than the others, and says whether it
does. -/
def openAt (column : Nat) : Lexing Bool := do
  if (← indent) < (column : Int) then
    modify fun s => { s with indents := column :: s.indents }
    return true
  else return false

/-! ### Possible keys -/

/-- The possible key at the present depth. -/
def possibleKey? : Lexing (Option PossibleKey) := do
  let s ← get
  return s.keys.lookup s.depth

/-- Forgets the possible key at the present depth. -/
def forgetKey : Lexing Unit :=
  modify fun s => { s with keys := s.keys.filter fun k => k.1 ≠ s.depth }

/-- Gives the possible key at the present depth up. A required one must not be given up. -/
def dropKey : Lexing Unit := do
  match ← possibleKey? with
  | none => return
  | some key =>
    if key.required then throw .malformed
    forgetKey

/-- The greatest distance between the beginning of a key and its colon. -/
def maxKeySpan : Nat := 1024

/-- Gives the possible keys up that begin on another line or too far back. -/
def dropStaleKeys : Lexing Unit := do
  let s ← get
  let isStale (k : Int × PossibleKey) : Bool :=
    k.2.start.line ≠ s.cursor.line || maxKeySpan < s.cursor.index - k.2.start.index
  if s.keys.any fun k => isStale k && k.2.required then throw .malformed
  set { s with keys := s.keys.filter fun k => !isStale k }

/-- Notes that a key may begin here. -/
def noteKey : Lexing Unit := do
  let s ← get
  if s.keyAllowed then
    -- What begins at the column of an open mapping can be nothing but its next key.
    let required := !(← inFlow) && (← indent) = (s.cursor.column : Int)
    dropKey
    modify fun s =>
      { s with keys := (s.depth, ⟨s.taken + s.queue.length, required, s.cursor⟩) :: s.keys }

/-! ### Marks -/

/-- Takes the characters of a mark and adds its token. -/
def mark (length : Nat) (t : Token) : Lexing Unit := do
  read (Reading.forward length)
  push t

/-- Takes the end of the text. -/
def finish : Lexing Unit := do
  unwindTo (-1)
  dropKey
  push .endOfText
  modify fun s => { s with finished := true, keys := [] }

/-- Takes a mark of documents. -/
def documentMark (t : Token) : Lexing Unit := do
  unwindTo (-1)
  dropKey
  allowKey false
  mark 3 t

/-- Takes an opening bracket. -/
def openBracket (t : Token) : Lexing Unit := do
  noteKey
  modify fun s => { s with depth := s.depth + 1 }
  allowKey true
  mark 1 t

/-- Takes a closing bracket. -/
def closeBracket (t : Token) : Lexing Unit := do
  dropKey
  modify fun s => { s with depth := s.depth - 1 }
  allowKey false
  mark 1 t

/-- Takes a comma between brackets. -/
def flowEntry : Lexing Unit := do
  allowKey true
  dropKey
  mark 1 .flowEntry

/-- Outside brackets an item or key may begin only where keys are allowed, and opens a collection if
it stands further right than the others. -/
def beginEntry (opening : Token) : Lexing Unit := do
  if !(← inFlow) then
    if !(← get).keyAllowed then throw .malformed
    if ← openAt (← get).cursor.column then push opening

/-- Takes the mark of an item. -/
def blockEntry : Lexing Unit := do
  beginEntry .blockSequenceStart
  allowKey true
  dropKey
  mark 1 .blockEntry

/-- Takes the mark of a key. -/
def explicitKey : Lexing Unit := do
  beginEntry .blockMappingStart
  allowKey !(← inFlow)
  dropKey
  mark 1 .key

/-- Puts a token before the one at a position. -/
def insertAt (position : Nat) (t : Token) : Lexing Unit :=
  modify fun s => { s with queue := s.queue.insertIdx (position - s.taken) t }

/-- Takes the mark of a value. If a key may have begun before it, that is one. -/
def valueMark : Lexing Unit := do
  match ← possibleKey? with
  | some key =>
    -- The key token belongs before the tokens that turned out to be the key.
    forgetKey
    insertAt key.position .key
    if !(← inFlow) then
      if ← openAt key.start.column then insertAt key.position .blockMappingStart
    allowKey false
  | none =>
    beginEntry .blockMappingStart
    allowKey !(← inFlow)
    dropKey
  mark 1 .value

/-! ### Directives, anchors and tags -/

/-- Whether a character may be part of the name of a handle or of an anchor. -/
def isNamePart (c : Char) : Bool :=
  c.isDigit || ('a' ≤ c && c ≤ 'z') || ('A' ≤ c && c ≤ 'Z') || c == '-' || c == '_'

/-- Takes a nonempty run of characters with a property. -/
def nonempty (holds : Char → Bool) : Reading (List Char) := do
  let taken ← Reading.takeWhile holds
  if taken.isEmpty then Reading.refuse
  return taken

/-- Takes a handle of tags: an exclamation mark before a space, or a name, perhaps empty, between
two of them. -/
def tagHandle : Reading String := do
  Reading.expect '!'
  if (← Reading.peek) == some ' ' then return "!"
  let name ← Reading.takeWhile isNamePart
  match ← Reading.peek with
  | some '!' =>
    Reading.forward 1
    return "!" ++ String.ofList name ++ "!"
  | _ => Reading.refuse

/-- Whether a character may be part of a tag. -/
def isTagPart (c : Char) : Bool :=
  isNamePart c || ";/?:@&=+$,.!~*'()[]".toList.contains c

/-- Takes bytes that are written as percent signs with two digits. -/
def codedBytes : Nat → Reading (List UInt8)
  | 0 => return []
  | n + 1 => do
    match ← Reading.rest with
    | '%' :: a :: b :: _ =>
      match Reading.hexNumber? [a, b] with
      | none => Reading.refuse
      | some byte =>
        Reading.forward 3
        return byte.toUInt8 :: (← codedBytes n)
    | '%' :: _ => Reading.refuse
    | _ => return []

/-- Takes the parts of a tag, of which there may be none. -/
def tagParts : Nat → Reading (List Char)
  | 0 => return []
  | n + 1 => do
    let part ← Reading.takeWhile isTagPart
    if (← Reading.peek) == some '%' then
      match String.fromUTF8? ⟨(← codedBytes (← Reading.fuel)).toArray⟩ with
      | none => Reading.refuse
      | some coded => return part ++ coded.toList ++ (← tagParts n)
    else return part

/-- Takes the text of a tag, which is not empty. -/
def tagText : Reading String := do
  let start := (← get).index
  let text ← tagParts (← Reading.fuel)
  if (← get).index = start then Reading.refuse
  return String.ofList text

/-- Takes a number. -/
def number : Reading Int := do
  let digits ← nonempty Char.isDigit
  match Text.readInteger (String.ofList digits) with
  | .ok n => return n
  | .error cause => throw (.integer cause)

/-- Takes a version of two numbers. -/
def versionNumber : Reading Int := do
  let _ ← Reading.spaces
  let major ← number
  Reading.expect '.'
  let _ ← number
  Reading.require endsWord
  return major

/-- Takes the meaning of a handle of tags. -/
def handleMeaning : Reading Directive := do
  let _ ← Reading.spaces
  let handle ← tagHandle
  Reading.require (· == some ' ')
  let _ ← Reading.spaces
  let stem ← tagText
  Reading.require endsWord
  return .tagHandle handle stem

/-- Takes a directive with its line. -/
def directive : Reading Directive := do
  Reading.forward 1
  let name ← nonempty isNamePart
  Reading.require endsWord
  let d ← match String.ofList name with
    | "YAML" => return .version (← versionNumber)
    | "TAG" => handleMeaning
    | _ => do
      let _ ← Reading.restOfLine
      pure .other
  Reading.emptyRestOfLine
  return d

/-- Takes a directive. -/
def directiveMark : Lexing Unit := do
  unwindTo (-1)
  dropKey
  allowKey false
  push (.directive (← read directive))

/-- Takes the name of an anchor, after the mark before it. -/
def anchorName : Reading String := do
  Reading.forward 1
  let name ← nonempty isNamePart
  Reading.require fun c => isGapOrEnd c || c.any "?:,]\x7d%@\x60".toList.contains
  return String.ofList name

/-- Whether the tag that begins here has a handle with a second exclamation mark. -/
def hasHandle (cs : List Char) : Bool :=
  (cs.drop 1).any (· == '!') &&
    ((cs.drop 1).takeWhile (· ≠ '!')).all fun c => !(c == ' ' || breaksLine c)

/-- Takes a tag. -/
def tag : Reading Token := do
  let cs ← Reading.rest
  let t ← match cs[1]? with
    | some '<' => do
      Reading.forward 2
      let suffix ← tagText
      Reading.expect '>'
      pure (Token.tag none suffix)
    | c =>
      if isGapOrEnd c then do
        Reading.forward 1
        pure (Token.tag none "!")
      else if hasHandle cs then do
        let handle ← tagHandle
        pure (Token.tag (some handle) (← tagText))
      else do
        Reading.forward 1
        pure (Token.tag (some "!") (← tagText))
  Reading.require endsWord
  return t

/-- Takes something that may be a key. -/
def property (reader : Reading Token) : Lexing Unit := do
  noteKey
  allowKey false
  push (← read reader)

/-! ### Scalars -/

/-- Takes a scalar between quotes. -/
def quotedScalar (quote : Char) : Lexing Unit :=
  property do
    return .scalar false (String.ofList (← Reading.quoted quote))

/-- Takes a literal or folded block. -/
def blockScalar (folded : Bool) : Lexing Unit := do
  allowKey true
  dropKey
  let indent ← indent
  push (.scalar false (String.ofList (← read (Reading.block folded indent))))

/-- Takes a scalar without quotes. -/
def plainScalar : Lexing Unit := do
  noteKey
  let indent ← indent
  let (text, breaks) ← read (Reading.plain (← inFlow) (indent + 1).toNat)
  allowKey breaks
  push (.scalar true (String.ofList text))

/-- Characters that a scalar without quotes cannot begin with. -/
def indicators : List Char :=
  ['-', '?', ':', ',', '[', ']', '\x7b', '\x7d', '#', '&', '*', '!', '|', '>', '\'', '"', '%', '@',
    '\x60']

/-- Whether a scalar without quotes begins here. -/
def beginsPlain (inFlow : Bool) (c : Char) (next : Option Char) : Bool :=
  !(isGapOrEnd (some c) || indicators.contains c)
    || !isGapOrEnd next && (c == '-' || !inFlow && (c == '?' || c == ':'))

/-! ### All tokens -/

/-- Takes spaces, comments and line breaks. Outside brackets a key may begin on a new line. -/
def toNextToken : Nat → Lexing Unit
  | 0 => return
  | n + 1 => do
    let found ← read do
      let _ ← Reading.spaces
      Reading.comment
      Reading.lineBreak
    if found.isEmpty then return
    if !(← inFlow) then allowKey true
    toNextToken n

/-- Takes the byte order mark at the beginning of the text. -/
def byteOrderMark : Reading Unit := do
  if (← get).index = 0 && (← Reading.peek) == some '\ufeff' then Reading.forward 1

/-- Reads on, up to the end of a token. -/
def step : Lexing Unit := do
  read byteOrderMark
  toNextToken (← read Reading.fuel)
  dropStaleKeys
  let cursor := (← get).cursor
  unwindTo cursor.column
  let flow ← inFlow
  let next := cursor.rest[1]?
  match cursor.rest.head? with
  | none => finish
  | some c =>
    let atMark ← read Reading.atDocumentMark
    if cursor.column = 0 && c == '%' then directiveMark
    else if cursor.column = 0 && atMark && c == '-' then documentMark .documentStart
    else if cursor.column = 0 && atMark && c == '.' then documentMark .documentEnd
    else if c == '[' then openBracket .flowSequenceStart
    else if c == '\x7b' then openBracket .flowMappingStart
    else if c == ']' then closeBracket .flowSequenceEnd
    else if c == '\x7d' then closeBracket .flowMappingEnd
    else if c == ',' then flowEntry
    else if c == '-' && isGapOrEnd next then blockEntry
    else if c == '?' && (flow || isGapOrEnd next) then explicitKey
    else if c == ':' && (flow || isGapOrEnd next) then valueMark
    else if c == '*' then property do return .reference (← anchorName)
    else if c == '&' then property do return .anchor (← anchorName)
    else if c == '!' then property tag
    else if c == '|' && !flow then blockScalar false
    else if c == '>' && !flow then blockScalar true
    else if c == '\'' || c == '"' then quotedScalar c
    else if beginsPlain flow c next then plainScalar
    else throw .malformed

/-- Whether the next token is not yet known: none waits, or the first of them may still turn out to
be a key, which a token has to be put before. -/
def needsMore : Lexing Bool := do
  let s ← get
  if s.finished then return false
  else if s.queue.isEmpty then return true
  else
    dropStaleKeys
    let s ← get
    return s.keys.any fun k => k.2.position = s.taken

/-- Reads on until the next token is known. -/
def supply : Nat → Lexing Unit
  | 0 => throw .malformed
  | n + 1 => do
    if ← needsMore then
      step
      supply n

/-- The next token. -/
def peek : Lexing Token := do
  -- Every step but the one at the end takes a character.
  supply ((← get).length + 2)
  return (← get).queue.headD .endOfText

/-- Takes the next token. -/
def advance : Lexing Unit := do
  let _ ← peek
  modify fun s => { s with queue := s.queue.drop 1, taken := s.taken + 1 }

end Lexing

/-- Whether a text may hold a character. -/
def isAdmitted (c : Char) : Bool :=
  let n := c.toNat
  c == '\t' || c == '\n' || c == '\r' || c == '\x85' || (0x20 ≤ n && n ≤ 0x7E)
    || (0xA0 ≤ n && n ≤ 0xD7FF) || (0xE000 ≤ n && n ≤ 0xFFFD) || 0x10000 ≤ n

/-- The state before the first token of a text, if the text may hold all its characters. -/
def Lexer.ofText (text : String) : Except Fault Lexer := do
  let cs := text.toList
  if !cs.all isAdmitted then throw .malformed
  return { length := cs.length, cursor := .ofChars cs }

end Supergraph.Yaml
