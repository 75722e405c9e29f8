import Supergraph.Decimal.Lexeme
import Supergraph.Sdl.Document
import Supergraph.Value

/-!
# What literals mean

A literal of a schema means a value without regard to any type: names of enum values mean their
text. Integers too long to be read mean the undefined number.

## Main definitions

* `Literal.value` — the value that a literal means
-/

namespace Supergraph.Sdl

/-- The value that the text of an integer means. -/
def integerValue (text : String) : Value :=
  match Text.readInteger text with
  | .ok n => .int n
  | .error _ => .float .nan

namespace Literal

mutual

/-- The value that a literal means. Constant literals hold no variables; a variable means nothing.
-/
def value : Literal → Value
  | null => .null
  | bool b => .bool b
  | int text => integerValue text
  | float text => .float (Binary64.ofLexeme text.toList)
  | string s => .text s
  | enum name => .text name
  | list items => .list (itemValues items)
  | object members => .record (memberValues members)
  | .variable _ => .null

/-- The values that the items of a list mean. -/
def itemValues : List Literal → List Value
  | [] => []
  | item :: rest => item.value :: itemValues rest

/-- The values that the members of an object mean. -/
def memberValues : List (String × Literal) → List (String × Value)
  | [] => []
  | (name, item) :: rest => (name, item.value) :: memberValues rest

end

end Literal

end Supergraph.Sdl
