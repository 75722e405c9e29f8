import Supergraph.Text.Base64
import Supergraph.Text.LowerCase
import Supergraph.Yaml.Data
import Supergraph.Yaml.Fault
import Supergraph.Yaml.Tag

/-!
# What scalars mean

A scalar means what its text says under its tag. The tag may be a given one, so that the text has
not always the form that the tag would be recognised by.

## Main definitions

* `truthOf`, `integerOf`, `floatOf`, `bytesOf`, `dateOf` — the meanings of a text
* `Data.ofScalar` — what a text means under a tag
-/

namespace Supergraph.Yaml

/-- The texts of the truth values in lower case. -/
def truthWords : List (String × Bool) :=
  [("yes", true), ("no", false), ("true", true), ("false", false), ("on", true), ("off", false)]

/-- The truth value that a text means. -/
def truthOf (text : String) : Except Fault Bool :=
  let word := String.ofList (Text.lowerCase text.toList)
  match truthWords.lookup word with
  | some b => .ok b
  | none => .error (.truth word)

/-! ### Numbers -/

/-- An integer to a base. -/
def integerTo (base : Nat) (text : List Char) : Except Fault Int :=
  (Text.readIntegerTo base (String.ofList text)).mapError .integer

/-- The parts of a text between colons. -/
def colonParts (cs : List Char) : List (List Char) :=
  cs.foldr (fun c parts =>
    if c == ':' then [] :: parts
    else match parts with
      | part :: rest => (c :: part) :: rest
      | [] => [[c]]) [[]]

/-- The integer that an unsigned text means: binary, hexadecimal, octal, sexagesimal or decimal. -/
def unsignedIntegerOf (text : List Char) : Except Fault Int :=
  match text with
  | [] => .error .emptyNumber
  | ['0'] => .ok 0
  | '0' :: 'b' :: digits => integerTo 2 digits
  | '0' :: 'x' :: digits => integerTo 16 digits
  | '0' :: _ => integerTo 8 text
  | _ => do
    return (← (colonParts text).mapM (integerTo 10)).foldl (fun n part => 60 * n + part) 0

/-- A text without underscores. -/
def withoutUnderscores (cs : List Char) : List Char :=
  cs.filter (· ≠ '_')

/-- The integer that a text means. -/
def integerOf (text : String) : Except Fault Int := do
  let (negative, digits) := splitSign (withoutUnderscores text.toList)
  let n ← unsignedIntegerOf digits
  return if negative then -n else n

/-- A decimal. -/
def decimalOf (text : List Char) : Except Fault Binary64 :=
  match Binary64.read? text with
  | some x => .ok x
  | none => .error (.decimal (String.ofList text))

/-- The sum of sexagesimal parts from the last to the first, the last of which counts once. -/
def sexagesimal (parts : List Binary64) : Except Fault Binary64 :=
  (parts.reverse.zipIdx.foldlM fun sum (part, place) =>
    match Binary64.ofNat? (Nat.pow 60 place) with
    | some weight => .ok (sum.add (part.mul weight))
    | none => .error .weightTooLarge) (Binary64.ofFraction 0 1)

/-- The number that an unsigned text in lower case means. -/
def unsignedFloatOf (text : List Char) : Except Fault Binary64 :=
  if text = ".inf".toList then .ok (.infinity false)
  else if text.contains ':' then do sexagesimal (← (colonParts text).mapM decimalOf)
  else decimalOf text

/-- The floating-point number that the text of a node means. An undefined one is the same as others
only if it is written as such. -/
def floatOf (node : Nat) (text : String) : Except Fault Data :=
  match Text.lowerCase (withoutUnderscores text.toList) with
  | [] => .error .emptyNumber
  | cs => do
    let (negative, digits) := splitSign cs
    if digits = ".nan".toList then return .float .nan
    match ← unsignedFloatOf digits with
    | .nan => return .undefined node
    | x => return .float (if negative then x.negate else x)

/-! ### Bytes -/

/-- The bytes that a text means. -/
def bytesOf (text : String) : Except Fault (List UInt8) :=
  let cs := text.toList
  match if cs.all fun c => c.toNat < 0x80 then Text.decodeBase64? cs else none with
  | some bytes => .ok bytes
  | none => .error .malformed

/-! ### Dates -/

/-- The form of a date and a time under a given tag, which is wider than that by which they are
recognised. -/
def datePattern : Text.Pattern :=
  open Tag in
  .all [twoDigits, twoDigits, .oneOf "-", oneOrTwoDigits, .oneOf "-", oneOrTwoDigits,
    .opt (.all [.alt (.oneOf "Tt") (.plus (.oneOf " \t")), oneOrTwoDigits, .oneOf ":", twoDigits,
      .oneOf ":", twoDigits, .opt (.all [.oneOf ".", .star digit]),
      .opt (.all [spaces, .alt (.oneOf "Z")
        (.all [.oneOf "-+", oneOrTwoDigits, .opt (.all [.oneOf ":", twoDigits])])])])]

/-- The runs of digits of a text. -/
def digitRuns (cs : List Char) : List (List Char) :=
  (cs.splitBy fun a b => a.isDigit == b.isDigit).filter fun run => run.all Char.isDigit

/-- The millionths of a second that the digits after the point mean. -/
def microOf (digits : List Char) : Nat :=
  Text.numberOfDigits ((digits ++ List.replicate 6 '0').take 6)

/-- The distance from universal time that ends a text. -/
def zoneOf (cs : List Char) : Option Int :=
  match cs with
  | [] => none
  | 'Z' :: _ => some 0
  | sign :: rest =>
    let parts := (digitRuns rest).map Text.numberOfDigits
    let minutes : Int := 60 * parts.headD 0 + (parts.drop 1).headD 0
    some (if sign == '-' then -minutes else minutes)

/-- The time of day that the part of a text after the date means. -/
def momentOf (date : Date) (cs : List Char) : Moment :=
  let isClock := fun (c : Char) => c.isDigit || c == ':'
  let parts := (digitRuns (cs.takeWhile isClock)).map Text.numberOfDigits
  let rest := cs.dropWhile isClock
  let (micro, rest) := match rest with
    | '.' :: rest => (microOf (rest.takeWhile Char.isDigit), rest.dropWhile Char.isDigit)
    | rest => (0, rest)
  let zone := rest.dropWhile fun c => c == ' ' || c == '\t'
  ⟨date, parts.headD 0, (parts.drop 1).headD 0, (parts.drop 2).headD 0, micro, zoneOf zone⟩

/-- The date or time that the text of a node means. -/
def dateOf (node : Nat) (text : String) : Except Fault Data :=
  let cs := Tag.withoutLineFeed text.toList
  if !datePattern.accepts cs then .error .noDate
  else
    let isDay := fun (c : Char) => c.isDigit || c == '-'
    let parts := (digitRuns (cs.takeWhile isDay)).map Text.numberOfDigits
    let date : Date := ⟨parts.headD 0, (parts.drop 1).headD 0, (parts.drop 2).headD 0⟩
    match (cs.dropWhile isDay).dropWhile fun c => !c.isDigit with
    | [] =>
      match date.check with
      | some what => .error (.date what)
      | none => .ok (.date node date)
    | time =>
      let moment := momentOf date time
      match moment.check with
      | some what => .error (.date what)
      | none => .ok (.moment node moment)

/-! ### Scalars -/

/-- What the text of a node means under a tag. -/
def Data.ofScalar (node : Nat) (tag : Tag) (content : String) : Except Fault Data :=
  match tag with
  | .text => .ok (text content)
  | .null => .ok null
  | .bool => (truthOf content).map bool
  | .int => (integerOf content).map int
  | .float => floatOf node content
  | .binary => (bytesOf content).map bytes
  | .timestamp => dateOf node content
  | _ => .error .malformed

end Supergraph.Yaml
