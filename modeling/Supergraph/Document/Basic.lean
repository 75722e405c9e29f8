import Supergraph.Plan.Basic

/-!
# Plan documents

The serializable view of a plan: subgraphs, entities and root fields with rendered hints, and the
texts of the warnings.

## Main definitions

* `Document.ofPlan` — the document of a plan, as a record
* `PlanFormat` — the formats it is written in
-/

namespace Supergraph

/-- The formats of plan documents. -/
inductive PlanFormat where
  | yaml
  | json
  deriving DecidableEq, Repr, Inhabited

namespace PlanFormat

/-- The name of the format, which is also the extension of the document's file. -/
def name : PlanFormat → String
  | yaml => "yaml"
  | json => "json"

/-- The format of the given name. -/
def ofName? (name : String) : Option PlanFormat :=
  [yaml, json].find? fun f => f.name = name

/-- The names of all formats. -/
def names : List String := ["yaml", "json"]

end PlanFormat

namespace Document

/-- The entry of a subgraph. -/
def ofSubgraph (s : Subgraph) : Value :=
  .record [("enum_key", .text s.key), ("name", .text s.name), ("url", .text s.url)]

/-- The entry of a planned field. -/
def ofField (f : FieldPlan) : Value :=
  .record [("name", .text f.name), ("rendered_type", .text f.shape.hint),
    ("owning_subgraph", .text f.owner)]

/-- The entry of an entity. -/
def ofEntity (e : EntityPlan) : Value :=
  .record [("type_name", .text e.typeName),
    ("keys_by_subgraph", .record (e.keys.entries.map fun (graph, key) => (graph, .text key))),
    ("fields", .list (e.fields.map ofField))]

/-- The entry of an argument. -/
def ofArgument (a : ArgumentPlan) : Value :=
  .record [("name", .text a.name), ("rendered_type", .text a.shape.hint),
    ("default", a.default), ("has_default", .bool a.hasDefault)]

/-- The entry of a root field. -/
def ofRootField (f : RootField) : Value :=
  .record [("operation", .text f.operation.label), ("name", .text f.name),
    ("rendered_type", .text f.shape.hint), ("owning_subgraph", .text f.owner),
    ("arguments", .list (f.arguments.map ofArgument)),
    ("deprecation_reason", (f.deprecation.map Value.text).getD .null)]

/-- The members of the document of a plan. -/
def members (plan : Plan) : List (String × Value) :=
  [("subgraphs", .list (plan.subgraphs.values.map ofSubgraph)),
    ("query_plan", .list (plan.entities.values.map ofEntity)),
    ("root_fields", .list (plan.rootFields.map ofRootField)),
    ("warnings", .list (plan.warnings.map fun w => .text w.message))]

/-- The document of a plan, as a record. -/
def ofPlan (plan : Plan) : Value :=
  .record (members plan)

end Document

end Supergraph
