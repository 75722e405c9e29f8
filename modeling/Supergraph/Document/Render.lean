import Supergraph.Document.Basic
import Supergraph.Document.Json
import Supergraph.Yaml.Node

/-!
# Rendering of plan documents

Documents have no text for numbers that are not finite and show null in place of them.

## Main definitions

* `Document.plainValue` — a value as documents show it
* `Document.render` — the text of a plan document in a format
* `Document.renderNamed` — its text in the format of a name
-/

namespace Supergraph.Document

mutual

/-- A value with null in place of the numbers that documents have no text for. -/
def plainValue : Value → Value
  | .null => .null
  | .bool b => .bool b
  | .int n => .int n
  | .float x => if x.isFinite then .float x else .null
  | .text s => .text s
  | .list items => .list (plainValues items)
  | .record members => .record (plainMembers members)

/-- The items of a list as documents show them. -/
def plainValues : List Value → List Value
  | [] => []
  | v :: vs => plainValue v :: plainValues vs

/-- The members of a record as documents show them. -/
def plainMembers : List (String × Value) → List (String × Value)
  | [] => []
  | (name, v) :: rest => (name, plainValue v) :: plainMembers rest

end

/-- The text of the document of a plan. -/
def render (plan : Plan) : PlanFormat → String
  | .yaml => Yaml.Node.writeDocument (Yaml.Node.ofMembers (plainMembers (members plan)))
  | .json => Json.write (.record (plainMembers (members plan))) ++ "\n"

/-! ### Formats by name -/

/-- No format has the name that is asked for. -/
structure UnknownFormat where
  name : String
  deriving DecidableEq, Repr

/-- The wording of the error. -/
def UnknownFormat.message (e : UnknownFormat) : String :=
  s!"Unknown plan format '{e.name}', must be 'yaml' or 'json'"

/-- The text of the document of a plan in the format of a name. -/
def renderNamed (plan : Plan) (name : String) : Except UnknownFormat String :=
  match PlanFormat.ofName? name with
  | some format => .ok (render plan format)
  | none => .error ⟨name⟩

end Supergraph.Document
