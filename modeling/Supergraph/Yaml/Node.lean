import Supergraph.Text.Base64
import Supergraph.Value
import Supergraph.Yaml.Scalar

/-!
# YAML documents as trees

A document is a tree of scalars, sequences and mappings. What occurs again is written once, under an
anchor, and referred to by an alias. Documents are written in block style: an entry to a line, keys
in the given order.

## Main definitions

* `Node` — the trees
* `Node.write` — the text of a document
* `Node.ofValue` — a value as a tree
-/

namespace Supergraph.Yaml

/-- What stands before a node: its anchor, which is a number from one on, and the mark of a tag that
is not the usual one of its kind. -/
structure Properties where
  anchor : Option Nat := none
  mark : Option String := none
  deriving DecidableEq, Repr, Inhabited

/-- A tree of a document. -/
inductive Node where
  | scalar (anchor : Option Nat) (tag : Tag) (text : String)
  | bytes (bs : List UInt8)
  | sequence (properties : Properties) (items : List Node)
  | mapping (properties : Properties) (entries : List (Node × Node))
  | reference (anchor : Nat)
  deriving Repr, Inhabited

/-- The name of an anchor. -/
def anchorName (n : Nat) : String :=
  "id" ++ Layout.padded 3 n

namespace Properties

/-- Whether nothing stands before a node. -/
def areNone (p : Properties) : Bool :=
  p.anchor.isNone && p.mark.isNone

/-- What stands before a node, each part after a space. -/
def text (p : Properties) : String :=
  (p.anchor.map fun n => " &" ++ anchorName n).getD "" ++ (p.mark.map (" " ++ ·)).getD ""

/-- How long what stands before a key is taken to be. -/
def length (p : Properties) : Nat :=
  (p.anchor.map fun n => (anchorName n).length).getD 0 + (p.mark.map String.length).getD 5

end Properties

namespace Node

/-- How long the mark of a tag is. A key counts it although it is not written. -/
def tagMarkLength : Tag → Nat
  | .float => 7
  | .bool | .null => 6
  | .timestamp => 11
  | _ => 5

/-- The length from which on a key does not stand on one line with its value. -/
def maxKeyLength : Nat := 128

/-- Whether a key stands on one line with its value. -/
def isSimpleKey : Node → Bool
  | scalar anchor tag text =>
    text.length + tagMarkLength tag + (anchor.map fun n => (anchorName n).length).getD 0 < maxKeyLength
      && !text.isEmpty && !isMultiline text.toList
  | bytes _ => false
  | sequence p items => items.isEmpty && p.length < maxKeyLength
  | mapping p entries => entries.isEmpty && p.length < maxKeyLength
  | reference _ => true

/-- A scalar at a column, with the anchor before it. -/
def scalarText (asKey : Bool) (column indent : Nat) (anchor : Option Nat) (tag : Tag) (text : String) :
    String :=
  let before := (anchor.map fun n => "&" ++ anchorName n ++ " ").getD ""
  before ++ String.ofList (writeScalar asKey (column + before.length) indent tag text.toList)

/-- What stands before a key of one line. -/
def keyProperties (p : Properties) : String :=
  String.ofList (p.text.toList.drop 1) ++ (if p.areNone then "" else " ")

/-- The text of a key that stands on one line with its value. -/
def simpleKeyText (column indent : Nat) : Node → String
  | scalar anchor tag text => scalarText true column indent anchor tag text
  | bytes _ => ""
  | sequence p _ => keyProperties p ++ "[]"
  | mapping p _ => keyProperties p ++ "\x7b\x7d"
  | reference n => "*" ++ anchorName n

/-- Bytes as a literal block, whose last line break is that before the next entry. -/
def bytesText (indent : Nat) (bs : List UInt8) : String :=
  if bs.isEmpty then " !!binary \"\""
  else " !!binary |" ++ String.ofList ((Text.base64Lines bs).flatMap (newLine indent ++ ·))

/-- What stands before the first entry of a collection: nothing but spaces right after a mark of
entries, a new line otherwise. -/
def lead (fresh : Bool) (column indent : Nat) : String :=
  String.ofList (if fresh then List.replicate (indent - column) ' ' else newLine indent)

mutual

/-- The text of a tree after a mark of entries (`fresh`) or after a key. `column` is where it
begins and `indent` the indentation of the collection it stands in. -/
def writeFrom (indent column : Nat) (fresh inMapping : Bool) : Node → String
  | scalar anchor tag text => " " ++ scalarText false (column + 1) (indent + 2) anchor tag text
  | bytes bs => bytesText (indent + 2) bs
  | sequence p items =>
    if items.isEmpty then p.text ++ " []"
    else
      let fresh := fresh && p.areNone
      let inner := if inMapping && !fresh then indent else indent + 2
      p.text ++ lead fresh column inner ++ writeItems inner items
  | mapping p entries =>
    if entries.isEmpty then p.text ++ " \x7b\x7d"
    else
      let inner := indent + 2
      p.text ++ lead (fresh && p.areNone) column inner ++ writeEntries inner entries
  | reference n => " *" ++ anchorName n

/-- The items of a sequence, without the line break and the spaces before the first. -/
def writeItems (indent : Nat) : List Node → String
  | [] => ""
  | item :: rest =>
    "-" ++ writeFrom indent (indent + 1) true false item
      ++ (if rest.isEmpty then "" else String.ofList (newLine indent) ++ writeItems indent rest)

/-- The entries of a mapping, without the line break and the spaces before the first. -/
def writeEntries (indent : Nat) : List (Node × Node) → String
  | [] => ""
  | (key, value) :: rest =>
    (if isSimpleKey key then
      let text := simpleKeyText indent (indent + 2) key
      text ++ ":" ++ writeFrom indent (indent + text.length + 1) false true value
    else
      "?" ++ writeFrom indent (indent + 1) true true key ++ String.ofList (newLine indent)
        ++ ":" ++ writeFrom indent (indent + 1) true true value)
      ++ (if rest.isEmpty then "" else String.ofList (newLine indent) ++ writeEntries indent rest)

end

/-- The text of a document whose root is a mapping with entries. -/
def writeDocument (entries : List (Node × Node)) : String :=
  writeEntries 0 entries ++ "\n"

/-- Floating-point numbers in documents: those with an exponent have a point before it. -/
def floatLayout : Layout :=
  { least := -4, bound := 16, exponentWidth := 2, pointBeforeExponent := true,
    undefined := ".nan", infinite := ".inf" }

mutual

/-- A value as a tree. -/
def ofValue : Value → Node
  | .null => scalar none .null "null"
  | .bool b => scalar none .bool (if b then "true" else "false")
  | .int n => scalar none .int (toString n)
  | .float x => scalar none .float (floatLayout.write x)
  | .text s => scalar none .text s
  | .list items => sequence {} (ofValues items)
  | .record members => mapping {} (ofMembers members)

/-- The items of a list as trees. -/
def ofValues : List Value → List Node
  | [] => []
  | v :: vs => ofValue v :: ofValues vs

/-- The members of a record as entries. -/
def ofMembers : List (String × Value) → List (Node × Node)
  | [] => []
  | (name, v) :: rest => (scalar none .text name, ofValue v) :: ofMembers rest

end

end Node

end Supergraph.Yaml
