import Supergraph.Decimal.Lexeme
import Supergraph.Value
import Supergraph.Yaml.Calendar

/-!
# Data of YAML documents

What a document means: plain values, dates, bytes, and collections. Dates and collections may occur
at several places and are then one and the same; their number tells. A collection may also lie in
itself.

## Main definitions

* `Data` — the data
* `Data.literal`, `Data.message` — data as lists show them and as messages show them
* `Data.sameKey` — when two data are one key of a mapping
-/

namespace Supergraph.Yaml

/-- Data. A collection without a number occurs once. -/
inductive Data where
  | null
  | bool (b : Bool)
  | int (n : Int)
  | float (x : Binary64)
  /-- An undefined number, which is the same as itself alone. -/
  | undefined (node : Nat)
  | text (s : String)
  | bytes (bs : List UInt8)
  | date (node : Nat) (d : Date)
  | moment (node : Nat) (m : Moment)
  | pair (first second : Data)
  | list (node : Option Nat) (items : List Data)
  | mapping (node : Option Nat) (entries : List (Data × Data))
  | set (node : Nat) (members : List Data)
  /-- The list that these data lie in. -/
  | enclosingList (node : Nat)
  /-- The mapping that these data lie in. -/
  | enclosingMapping (node : Nat)
  deriving Repr, Inhabited

namespace Data

mutual

/-- A value as data. -/
def ofValue : Value → Data
  | .null => null
  | .bool b => bool b
  | .int n => int n
  | .float x => float x
  | .text s => text s
  | .list items => list none (ofValues items)
  | .record members => mapping none (ofMembers members)

/-- The items of a list as data. -/
def ofValues : List Value → List Data
  | [] => []
  | v :: vs => ofValue v :: ofValues vs

/-- The members of a record as entries. -/
def ofMembers : List (String × Value) → List (Data × Data)
  | [] => []
  | (name, v) :: rest => (text name, ofValue v) :: ofMembers rest

end

/-! ### Texts -/

mutual

/-- Data as lists and mappings show them. A collection inside itself is cut short. -/
def literal : Data → String
  | null => "None"
  | bool b => if b then "True" else "False"
  | int n => toString n
  | float x => Value.floatLayout.write x
  | undefined _ => Value.floatLayout.undefined
  | text s => Text.quoted s
  | bytes bs => Text.quotedBytes bs
  | date _ d => d.literal
  | moment _ m => m.literal
  | pair a b => "(" ++ literal a ++ ", " ++ literal b ++ ")"
  | list _ items => "[" ++ Value.commaSeparated (literals items) ++ "]"
  | mapping _ entries => "\x7b" ++ Value.commaSeparated (entryLiterals entries) ++ "\x7d"
  | set _ members =>
    if members.isEmpty then "set()"
    else "\x7b" ++ Value.commaSeparated (literals members) ++ "\x7d"
  | enclosingList _ => "[...]"
  | enclosingMapping _ => "\x7b...\x7d"

/-- The items of a list as it shows them. -/
def literals : List Data → List String
  | [] => []
  | d :: ds => literal d :: literals ds

/-- The entries of a mapping as it shows them. -/
def entryLiterals : List (Data × Data) → List String
  | [] => []
  | (key, value) :: rest => (literal key ++ ": " ++ literal value) :: entryLiterals rest

end

/-- Data as messages show them: texts stand without quotes, dates as they are written. -/
def message : Data → String
  | text s => s
  | date _ d => d.text
  | moment _ m => m.text
  | d => literal d

mutual

/-- Whether no integer in data has too many digits to be written. -/
def isWritable : Data → Bool
  | int n => !Text.isTooLong n
  | pair a b => isWritable a && isWritable b
  | list _ items => areWritable items
  | mapping _ entries => entriesAreWritable entries
  | set _ members => areWritable members
  | _ => true

/-- Whether no integer in a list has too many digits to be written. -/
def areWritable : List Data → Bool
  | [] => true
  | d :: ds => isWritable d && areWritable ds

/-- Whether no integer in the entries of a mapping has too many digits to be written. -/
def entriesAreWritable : List (Data × Data) → Bool
  | [] => true
  | (key, value) :: rest => isWritable key && isWritable value && entriesAreWritable rest

end

/-- The word for the kind of data. -/
def kindName : Data → String
  | null => "NoneType"
  | bool _ => "bool"
  | int _ => "int"
  | float _ | undefined _ => "float"
  | text _ => "str"
  | bytes _ => "bytes"
  | date .. => "date"
  | moment .. => "datetime"
  | pair .. => "tuple"
  | list .. | enclosingList _ => "list"
  | mapping .. | enclosingMapping _ => "dict"
  | set .. => "set"

/-! ### Keys -/

/-- The number that data are as a key: truth values count as one and zero. -/
def keyNumber? : Data → Option (Int × Nat)
  | bool b => some (if b then 1 else 0, 1)
  | int n => some (n, 1)
  | float x => x.fraction?
  | _ => none

/-- Whether two data are one key of a mapping. -/
def sameKey (a b : Data) : Bool :=
  match a.keyNumber?, b.keyNumber? with
  | some (m, c), some (n, d) => m * d = n * c
  | none, none =>
    match a, b with
    | null, null => true
    | text s, text t => s = t
    | bytes bs, bytes cs => bs = cs
    | date _ d, date _ e => d = e
    | moment _ m, moment _ n => m.isSameInstant n
    | float x, float y => x = y
    | undefined m, undefined n => m = n
    | _, _ => false
  | _, _ => false

/-- Entries with one more, which replaces the value under its key if there is one. -/
def store (key value : Data) : List (Data × Data) → List (Data × Data)
  | [] => [(key, value)]
  | (k, v) :: rest => if sameKey k key then (k, value) :: rest else (k, v) :: store key value rest

/-- The value under a name. -/
def lookup? (name : String) (entries : List (Data × Data)) : Option Data :=
  (entries.find? fun e => sameKey e.1 (text name)).map Prod.snd

end Data

end Supergraph.Yaml
