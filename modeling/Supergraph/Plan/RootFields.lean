import Supergraph.Federation
import Supergraph.Sdl.Meaning

/-!
# Routing of root fields

A root field is forwarded to the graph of its first claim that names one, or else to the first graph
that claims the root type.

## Main definitions

* `Federation.clientOf` — the graph that serves a root field
* `Federation.planRoot` — the root fields of one type
* `Federation.rootFields` — the root fields of the query and mutation types
-/

namespace Supergraph.Federation

/-- The first graph that the claims on a root field name, or else the first that the claims on its
type name. -/
def clientOf? (fed : Federation) (type field : String) : Except Failure (Option String) := do
  match (← fed.fieldClaims type field).findSome? Join.FieldClaim.graph with
  | some graph => return some graph
  | none => return (← fed.typeClaims type).findSome? Join.TypeClaim.graph

/-- The graph that serves a root field. -/
def clientOf (fed : Federation) (type field : String) : Except Failure String := do
  match ← fed.clientOf? type field with
  | some graph =>
    let _ ← fed.requireSubgraph graph s!"{type}.{field}"
    return graph
  | none => throw (.noClient field)

/-- The plan of an argument of a root field. The value of an argument without a default is null. -/
def planArgument (fed : Federation) (name : String) (argument : Schema.InputValue) :
    Except Failure ArgumentPlan := do
  if argument.isDefined then
    let default := argument.default?.map Sdl.Literal.value
    return ⟨name, ← fed.shapeOf argument.type, default.getD .null, default.isSome⟩
  else throw (.undefinedArgument name)

/-- The plan of a root field. -/
def planRootField (fed : Federation) (operation : RootOperation) (type name : String)
    (field : Schema.Field) : Except Failure RootField := do
  if field.applied?.isNone then throw (.undefinedField type name)
  -- The shape comes before the owner: of two failures the one about the type is told.
  let shape ← fed.shapeOf field.type
  let owner ← fed.clientOf type name
  let arguments ← field.arguments.entries.mapM fun (name, a) => fed.planArgument name a
  return ⟨operation, name, shape, owner, arguments, field.deprecation⟩

/-- The root fields of a type. -/
def planRoot (fed : Federation) (operation : RootOperation) (type : String) :
    Traced (List RootField) := do
  let fields ← Traced.check id (fed.fieldsOf type)
  let plans ← Traced.check id
    (fields.entries.mapM fun (name, field) => fed.planRootField operation type name field)
  Traced.tell (.rootRouted type plans.length)
  return plans

/-- The kind of operation of the schema whose fields are routed. -/
def rootKind : RootOperation → Sdl.OperationKind
  | .query => .query
  | .mutation => .mutation

/-- The root fields of the type for an operation, none if there is no such type. -/
def rootFieldsOf (fed : Federation) (operation : RootOperation) : Traced (List RootField) :=
  match fed.schema.root? (rootKind operation) with
  | some type => fed.planRoot operation type
  | none => return []

/-- The root fields of the query and mutation types. Without subgraphs there is nothing to route. -/
def rootFields (fed : Federation) : Traced (List RootField) := do
  if fed.subgraphs.isEmpty then
    Traced.tell .nothingToRoute
    return []
  else
    let queries ← fed.rootFieldsOf .query
    let mutations ← fed.rootFieldsOf .mutation
    return queries ++ mutations

end Supergraph.Federation
