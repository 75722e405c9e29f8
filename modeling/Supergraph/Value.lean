import Supergraph.Decimal.Layout
import Supergraph.Text.Quoted

/-!
# Values

The values that default literals denote and that plan documents are made of, and their text as
literals of the emitted modules.

## Main definitions

* `Value` — null, truth values, integers, floating-point numbers, texts, lists and records
* `Value.literal` — a value as a literal of the emitted modules
-/

namespace Supergraph

/-- A value. The members of a record keep their order. -/
inductive Value where
  | null
  | bool (b : Bool)
  | int (n : Int)
  | float (x : Binary64)
  | text (s : String)
  | list (items : List Value)
  | record (members : List (String × Value))
  deriving Repr, Inhabited

namespace Value

/-- Floating-point numbers in literals and messages: positional from `1e-04` up to below `1e+16`. -/
def floatLayout : Layout :=
  { least := -4, bound := 16, exponentWidth := 2, pointBeforeExponent := false,
    undefined := "nan", infinite := "inf" }

/-- Texts with commas between them. -/
def commaSeparated (parts : List String) : String :=
  String.intercalate ", " parts

mutual

/-- The value as a literal of the emitted modules. -/
def literal : Value → String
  | null => "None"
  | bool b => if b then "True" else "False"
  | int n => toString n
  | float x => floatLayout.write x
  | text s => Text.quoted s
  | list items => "[" ++ commaSeparated (literals items) ++ "]"
  | record members => "\x7b" ++ commaSeparated (memberLiterals members) ++ "\x7d"

/-- The literals of the items of a list. -/
def literals : List Value → List String
  | [] => []
  | v :: vs => literal v :: literals vs

/-- The members of a record as they stand between its braces. -/
def memberLiterals : List (String × Value) → List String
  | [] => []
  | (name, v) :: rest => (Text.quoted name ++ ": " ++ literal v) :: memberLiterals rest

end

end Value

end Supergraph
