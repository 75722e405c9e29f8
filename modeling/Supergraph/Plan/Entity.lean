import Supergraph.Plan.Key

/-!
# Plans of entities

Every field of an entity is planned with its owner, or left to the keys, or dropped with a warning
because nobody owns it.

## Main definitions

* `Disposition` — what becomes of a field
* `Federation.disposition` — what becomes of a field with the given claims and keys
* `Federation.planEntity`, `Federation.planEntities` — the plans of one and of all entities
-/

namespace Supergraph

/-- What becomes of a field of an entity. -/
inductive Disposition where
  | planned (plan : FieldPlan)
  | key
  | unowned
  deriving DecidableEq, Repr

/-- The warning about a field that nobody owns. -/
def unownedWarning (type field : String) : Warning :=
  ⟨type, field, "no owning subgraph could be resolved"⟩

namespace Federation

/-- What becomes of a field. The owner's key field is no field of its own, and neither is a field
without owner that is a key for any graph. -/
def disposition (fed : Federation) (type : String) (claims : List Join.TypeClaim)
    (keys : Table String) (name : String) (field : Schema.Field) : Except Failure Disposition := do
  match ← fed.ownerOf? type name claims with
  -- Without an owner the field may still be the key of any graph.
  | none => return if keys.values.contains name then .key else .unowned
  | some owner =>
    if keys.get? owner = some name then return .key
    else if field.applied?.isNone then throw (.undefinedField type name)
    else return .planned ⟨name, ← fed.shapeOf field.type, owner⟩

/-- The plan of a field, if it has one of its own. -/
def planField (fed : Federation) (type : String) (claims : List Join.TypeClaim)
    (keys : Table String) (name : String) (field : Schema.Field) : Traced (Option FieldPlan) := do
  match ← Traced.check id (fed.disposition type claims keys name field) with
  | .planned plan => return some plan
  | .key => return none
  | .unowned =>
    Traced.tell (.fieldDropped (unownedWarning type name))
    return none

/-- The plan of an entity. -/
def planEntity (fed : Federation) (type : String) : Traced EntityPlan := do
  let claims ← Traced.check id (fed.typeClaims type)
  let keys ← fed.keysFor type claims
  let fields ← Traced.check id (fed.fieldsOf type)
  let plans ← fields.entries.mapM fun (name, field) => fed.planField type claims keys name field
  let entity : EntityPlan := ⟨type, keys, plans.filterMap id⟩
  Traced.tell (.entityPlanned entity)
  return entity

/-- The plans of all entities. -/
def planEntities (fed : Federation) : Traced (Table EntityPlan) := do
  return Table.ofList (← fed.entities.mapM fun type => do return (type, ← fed.planEntity type))

end Federation

end Supergraph
