import Supergraph.Text.Integer
import Supergraph.Value

/-!
# Ports

A port may be given as a number of any kind, as a truth value, or as a text that an integer can be
read from.

## Main definitions

* `PortError` — why a value is no port, with its wording
* `portOfValue` — the integer a value stands for
* `defaultPort` — the port when none is given
-/

namespace Supergraph

/-- The port when none is given. -/
def defaultPort : Int := 9000

/-- Why a value is no port. -/
inductive PortError where
  /-- The text is no integer. -/
  | text (cause : Text.IntegerError)
  /-- The value is of a kind that no integer is read from. -/
  | kind (name : String)
  /-- The number is undefined. -/
  | undefined
  /-- The number is infinite. -/
  | infinite
  /-- The number has more digits than are written. -/
  | tooLong
  deriving DecidableEq, Repr

/-- The wording of the error. -/
def PortError.message : PortError → String
  | .text cause => cause.message
  | .kind name =>
    s!"int() argument must be a string, a bytes-like object or a real number, not '{name}'"
  | .undefined => "cannot convert float NaN to integer"
  | .infinite => "cannot convert float infinity to integer"
  | .tooLong => Text.limitMessage ++ Text.limitAdvice

/-- The integer a value stands for. It has to be one that can be written. -/
def portOfValue : Value → Except PortError Int
  | .int n => if Text.isTooLong n then .error .tooLong else .ok n
  | .bool b => .ok (if b then 1 else 0)
  | .text s => (Text.readInteger s).mapError .text
  | .float .nan => .error .undefined
  | .float x => match x.truncate? with
    | some n => .ok n
    | none => .error .infinite
  | .null => .error (.kind "NoneType")
  | .list _ => .error (.kind "list")
  | .record _ => .error (.kind "dict")

end Supergraph
