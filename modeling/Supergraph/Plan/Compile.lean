import Supergraph.Plan.Declarations
import Supergraph.Plan.Entity
import Supergraph.Plan.RootFields

/-!
# Compiling plans

A plan is made of a federation: first the entities, then the root fields, then the declarations. The
warnings of the plan are those told while the entities were planned.

## Main definitions

* `Federation.compile` — the plan of a federation
* `compileText` — the plan of a supergraph that is given as a text
-/

namespace Supergraph

/-- The plan of a federation. -/
def Federation.compile (fed : Federation) : Traced Plan := do
  let planned := fed.planEntities
  let entities ← planned
  let rootFields ← fed.rootFields
  let declarations ← fed.declarations
  let plan : Plan := ⟨fed.subgraphs, entities, rootFields, declarations, planned.warnings⟩
  Traced.tell (.planMade plan)
  return plan

/-- The plan of the supergraph that a schema describes. -/
def compileSchema (schema : Schema) : Traced Plan := do
  (← Federation.ofSchema schema).compile

/-- The plan of a supergraph that is given as a text. -/
def compileText (text : String) : Traced Plan := do
  compileSchema (← loadSchema text)

end Supergraph
