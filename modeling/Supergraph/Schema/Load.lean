import Supergraph.Schema.Check
import Supergraph.Schema.OfDocument
import Supergraph.Sdl.Syntax

/-!
# Loading schemas

A schema is loaded from a text in four steps: the text is read as a document, the document is held
against the document rules, the schema it says is put together, and that is checked.

## Main definitions

* `Schema.LoadError` — why a text is no schema
* `Schema.load` — the schema of a text
-/

namespace Supergraph.Schema

/-- Why a text is no schema. -/
inductive LoadError where
  | grammar (fault : Sdl.SyntaxFault)
  | document (violations : List Sdl.Violation)
  | type (faults : List Fault)
  deriving Repr

/-- What there is to say about the error. The violations of a document are one item. -/
def LoadError.details : LoadError → List String
  | grammar fault => [fault.message]
  | document violations => [String.intercalate "\n\n" (violations.map Sdl.Violation.message)]
  | type faults => faults.map Fault.message

/-- The schema that a text says. -/
def load (text : String) : Except LoadError Schema := do
  let doc ← (Sdl.readDocument text).mapError .grammar
  let violations := Sdl.violations doc
  if !violations.isEmpty then throw (.document violations)
  let schema ← (ofDocument doc).mapError fun fault => .type [fault]
  let faults := schema.faults
  if !faults.isEmpty then throw (.type faults)
  return schema

end Supergraph.Schema
