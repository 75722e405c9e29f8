import Supergraph.Plan.Basic
import Supergraph.Shape.OfTypeRef

/-!
# Events

What happens while a plan is made, each event with the level and the channel on which it is
reported.

## Main definitions

* `Level` — how important an event is
* `Event` — the events
* `Event.line` — an event as it is reported
* `warningsIn` — the warnings among events
-/

namespace Supergraph

/-- How important an event is. -/
inductive Level where
  | debug
  | info
  | warning
  deriving DecidableEq, Repr

/-- The word for the level. -/
def Level.word : Level → String
  | debug => "DEBUG"
  | info => "INFO"
  | warning => "WARNING"

/-- The rank of the level: more important levels have greater ranks. -/
def Level.rank : Level → Nat
  | debug => 0
  | info => 1
  | warning => 2

/-- What happens while a plan is made. -/
inductive Event where
  | schemaRead (path : String)
  | schemaLoaded (types : Nat)
  | registryAbsent
  | registryRead (keys : List String)
  | keyInferred (type field : String) (graph : Option String)
  | fieldDropped (warning : Warning)
  | entityPlanned (entity : EntityPlan)
  | nothingToRoute
  | rootRouted (type : String) (fields : Nat)
  /-- A field without a shape is declared with the opaque hint. -/
  | opaqueField (type field : String) (cause : UnsupportedType)
  | declarationsRead (count : Nat)
  | planMade (plan : Plan)
  | fileWritten (path : String)
  | gatewayGenerated (project : String) (output : String)

namespace Event

/-- The level of the event. -/
def level : Event → Level
  | schemaRead _ | planMade _ | fileWritten _ | gatewayGenerated .. => .info
  | fieldDropped _ | opaqueField .. => .warning
  | _ => .debug

/-- The channel of the event. -/
def channel : Event → String
  | schemaRead _ | schemaLoaded _ => "gatewaygen.core.schema_loader"
  | registryAbsent | registryRead _ => "gatewaygen.core.directives"
  | keyInferred .. => "gatewaygen.core.keys"
  | fieldDropped _ | entityPlanned _ | planMade _ => "gatewaygen.core.builder"
  | nothingToRoute | rootRouted .. => "gatewaygen.core.operations"
  | opaqueField .. | declarationsRead _ => "gatewaygen.core.type_definitions"
  | fileWritten _ | gatewayGenerated .. => "gatewaygen.generator"

/-- Names as a literal list. -/
def nameList (names : List String) : String :=
  (Value.list (names.map Value.text)).literal

/-- What is said about the event. -/
def text : Event → String
  | schemaRead path => s!"Reading supergraph schema from {path}"
  | schemaLoaded types => s!"Loaded schema with {types} types"
  | registryAbsent => "No join__Graph enum in schema, registry is empty"
  | registryRead keys => s!"Read {keys.length} subgraphs: {nameList keys}"
  | keyInferred type field graph =>
    s!"{type}: inferred key '{field}' for " ++ graph.getD "None"
  | fieldDropped warning => s!"Dropping field from query plan: {warning.message}"
  | entityPlanned entity =>
    let keys := Value.record (entity.keys.entries.map fun (graph, key) => (graph, .text key))
    s!"{entity.typeName}: keys={keys.literal} fields={nameList entity.fieldNames}"
  | nothingToRoute => "No subgraphs declared, no root fields to route"
  | rootRouted type fields => s!"{type}: {fields} root fields"
  | opaqueField type field cause =>
    s!"{type}.{field}: {cause.message}, typed as {Shape.opaqueHint}"
  | declarationsRead count => s!"Read {count} type definitions"
  | planMade plan =>
    s!"Built query plan: {plan.subgraphs.size} subgraphs, {plan.entities.size} entities, "
      ++ s!"{plan.rootFields.length} root fields, {plan.declarations.length} type definitions, "
      ++ s!"{plan.warnings.length} warnings"
  | fileWritten path => s!"Wrote {path}"
  | gatewayGenerated project output => s!"Gateway '{project}' generated in {output}"

/-- The event as it is reported. -/
def line (e : Event) : String :=
  s!"{e.level.word} {e.channel}: {e.text}"

/-- The warning that the event is, if it is one about a dropped field. -/
def warning? : Event → Option Warning
  | fieldDropped warning => some warning
  | _ => none

end Event

/-- The warnings about dropped fields among events. -/
def warningsIn (events : List Event) : List Warning :=
  events.filterMap Event.warning?

end Supergraph
