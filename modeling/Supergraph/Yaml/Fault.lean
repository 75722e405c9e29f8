import Supergraph.Text.Integer

/-!
# Faults of YAML texts

Why a text is no YAML document, or holds a scalar that does not mean what its tag says.

## Main definitions

* `Fault` — the faults
* `Fault.message` — the wording of those about scalars
-/

namespace Supergraph.Yaml

/-- Why a text has no meaning as a document. -/
inductive Fault where
  /-- The text does not follow the rules of YAML, or a node is not of the kind its tag asks for. -/
  | malformed
  | integer (cause : Text.IntegerError)
  | decimal (text : String)
  | truth (text : String)
  /-- A number without digits. -/
  | emptyNumber
  | date (what : String)
  /-- A text that is tagged as a date and has not the form of one. -/
  | noDate
  /-- A mapping that is tagged as a date. -/
  | dateOfMapping
  /-- The code of a character is past the last one. -/
  | codePoint
  /-- The code of a character is no machine number. -/
  | codeTooLarge
  /-- A sexagesimal number has so many parts that the weight of one is past all floating-point
  numbers. -/
  | weightTooLarge
  /-- A scalar is looked for in a mapping that holds itself. -/
  | endless
  deriving DecidableEq, Repr

/-- The wording of a fault about a scalar. -/
def Fault.message : Fault → String
  | malformed => "malformed document"
  | integer cause => cause.message
  | decimal text => "could not convert string to float: " ++ Text.quoted text
  | truth text => Text.quoted text
  | emptyNumber => "string index out of range"
  | date what => what
  | noDate => "no date"
  | dateOfMapping => "expected string or bytes-like object, got 'list'"
  | codePoint => "chr() arg not in range(0x110000)"
  | codeTooLarge => "the code of a character is too large"
  | weightTooLarge => "int too large to convert to float"
  | endless => "maximum recursion depth exceeded"

end Supergraph.Yaml
