import Supergraph.Value
import Supergraph.Text.Quoted

/-!
# JSON documents

A value as JSON text with an entry to a line and two spaces for each level. Characters beyond ASCII
stand as they are.

## Main definitions

* `Json.string` — a text between double quotes
* `Json.write` — a value as JSON text
-/

namespace Supergraph.Json

/-- Floating-point numbers in JSON documents: positional from `1e-5` up to below `1e+16`. -/
def floatLayout : Layout :=
  { least := -5, bound := 16, exponentWidth := 1, pointBeforeExponent := false,
    undefined := "null", infinite := "null" }

/-- A character as it stands between double quotes. -/
def escapeChar (c : Char) : List Char :=
  if c == '"' || c == '\\' then ['\\', c]
  else if c == '\x08' then ['\\', 'b']
  else if c == '\x0c' then ['\\', 'f']
  else if c == '\n' then ['\\', 'n']
  else if c == '\r' then ['\\', 'r']
  else if c == '\t' then ['\\', 't']
  else if c.toNat < 0x20 then '\\' :: 'u' :: Text.hexDigits 4 c.toNat
  else [c]

/-- A text between double quotes. -/
def string (s : String) : String :=
  String.ofList ('"' :: s.toList.flatMap escapeChar ++ ['"'])

/-- A new line at the given level. -/
def newLine (level : Nat) : String :=
  String.ofList ('\n' :: List.replicate (2 * level) ' ')

/-- Entries between brackets, each on a line of its own. -/
def bracketed (opening closing : String) (level : Nat) (entries : List String) : String :=
  if entries.isEmpty then opening ++ closing
  else
    opening ++ String.intercalate "," (entries.map fun e => newLine (level + 1) ++ e)
      ++ newLine level ++ closing

mutual

/-- A value as JSON text at the given level. -/
def writeAt (level : Nat) : Value → String
  | .null => "null"
  | .bool b => if b then "true" else "false"
  | .int n => toString n
  | .float x => if x.isFinite then floatLayout.write x else "null"
  | .text s => string s
  | .list items => bracketed "[" "]" level (writeItems (level + 1) items)
  | .record members => bracketed "\x7b" "\x7d" level (writeMembers (level + 1) members)

/-- The items of a list as JSON texts. -/
def writeItems (level : Nat) : List Value → List String
  | [] => []
  | v :: vs => writeAt level v :: writeItems level vs

/-- The members of a record as JSON texts. -/
def writeMembers (level : Nat) : List (String × Value) → List String
  | [] => []
  | (name, v) :: rest => (string name ++ ": " ++ writeAt level v) :: writeMembers level rest

end

/-- A value as JSON text. -/
def write (v : Value) : String :=
  writeAt 0 v

end Supergraph.Json
