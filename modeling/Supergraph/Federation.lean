import Supergraph.Entity
import Supergraph.Plan.Traced

/-!
# Federations

A federation is a schema together with the registry of the subgraphs that serve it.

## Main definitions

* `Federation` — a schema and its subgraphs
* `Federation.ofSchema` — the federation that a schema describes
* `Federation.entities` — the object types that get a plan
* `Federation.requireSubgraph`, `Federation.fieldsOf` — look-ups that must succeed
-/

namespace Supergraph

/-- A schema and the subgraphs that serve it. -/
structure Federation where
  schema : Schema
  subgraphs : Table Subgraph
  deriving Inhabited

/-- The schema of a text. -/
def loadSchema (text : String) : Traced Schema := do
  let schema ← Traced.check .schema (Schema.load text)
  Traced.tell (.schemaLoaded schema.types.size)
  return schema

namespace Federation

/-- The federation that a schema describes. -/
def ofSchema (schema : Schema) : Traced Federation := do
  match ← Traced.check .registry (Join.registry? schema) with
  | none =>
    Traced.tell .registryAbsent
    return ⟨schema, .empty⟩
  | some subgraphs =>
    Traced.tell (.registryRead subgraphs.keys)
    return ⟨schema, subgraphs⟩

/-- The names of the entities, in the order of the types. -/
def entities (fed : Federation) : List String :=
  (fed.schema.types.entries.filter fun (name, type) =>
    type.body.objectFields?.isSome && isEntityName name).map Prod.fst

/-- The subgraph of a key that is named at a place. -/
def requireSubgraph (fed : Federation) (key place : String) : Except Failure Subgraph :=
  match fed.subgraphs.get? key with
  | some s => .ok s
  | none => .error (.undeclaredGraph place key)

/-- The fields of an object type. -/
def fieldsOf (fed : Federation) (type : String) : Except Failure (Table Schema.Field) :=
  match fed.schema.fieldsOf? type with
  | some fields => .ok fields
  | none => .error (.notObject type)

/-- The shape of a type reference. -/
def shapeOf (fed : Federation) (type : TypeRef) : Except Failure Shape :=
  (Shape.ofTypeRef fed.schema type).mapError .unsupported

/-- The claims on an object type. -/
def typeClaims (fed : Federation) (type : String) : Except Failure (List Join.TypeClaim) :=
  (Join.typeClaims fed.schema type).mapError .wrongArgument

/-- The claims on a field of an object type. -/
def fieldClaims (fed : Federation) (type field : String) :
    Except Failure (List Join.FieldClaim) :=
  (Join.fieldClaims fed.schema type field).mapError .wrongArgument

/-- The subgraph that resolves a field of a type with the given claims. -/
def ownerOf? (fed : Federation) (type field : String) (claims : List Join.TypeClaim) :
    Except Failure (Option String) := do
  match Join.ownerOf? (← fed.fieldClaims type field) claims with
  | none => return none
  | some graph =>
    let _ ← fed.requireSubgraph graph s!"{type}.{field}"
    return some graph

end Federation

end Supergraph
