import Supergraph.Document.Render
import Supergraph.Emit.PlanModule
import Supergraph.Emit.ServiceModule
import Supergraph.Emit.TypesModule

/-!
# The artifacts of a gateway

A gateway consists of four files: the types module, the query plan module, the service module and
the plan document.

## Main definitions

* `artifacts` — the names and texts of the files
-/

namespace Supergraph.Emit

/-- The name of the plan document's file. -/
def documentName (format : PlanFormat) : String :=
  s!"plan.{format.name}"

/-- The names of the files, in the order in which they are written. -/
def artifactNames (format : PlanFormat) : List String :=
  ["schema_types.py", "query_plan.py", "service.py", documentName format]

/-- The names and texts of the files, or the key of a root field's subgraph that is not
registered. -/
def artifacts (plan : Plan) (port : Int) (format : PlanFormat) :
    Except String (List (String × String)) := do
  let service ← serviceModule plan port
  return (artifactNames format).zip
    [typesModule plan, planModule plan, service, Document.render plan format]

end Supergraph.Emit
