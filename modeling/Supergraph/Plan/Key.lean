import Supergraph.Federation

/-!
# Keys of entities

Each subgraph that claims an entity knows it by a key field: the one that the claim names, or else
the first field of the type `ID`.

## Main definitions

* `Federation.keyFor` — the key field for one claim
* `Federation.keysFor` — the key fields for all claims, by graph
-/

namespace Supergraph.Federation

/-- The first of the fields that has a definition and the base type `ID`. A reference with no name
under its wrappers is passed over; the grammar gives none to a field. -/
def firstIdentifier? : List (String × Schema.Field) → Option String
  | [] => none
  | (name, field) :: rest =>
    if field.applied?.isSome && field.type.baseName? = some "ID" then some name
    else firstIdentifier? rest

/-- The key field of a type for a claim on it. -/
def keyFor (fed : Federation) (type : String) (claim : Join.TypeClaim) : Traced String := do
  match claim.key with
  | some key => return key
  | none =>
    let fields ← Traced.check id (fed.fieldsOf type)
    match firstIdentifier? fields.entries with
    | some field =>
      Traced.tell (.keyInferred type field claim.graph)
      return field
    | none => Traced.fail (.noKey type claim.graph)

/-- The graph of a claim, which the registry must have, with the key field for it. -/
def claimedKey (fed : Federation) (type : String) (claim : Join.TypeClaim) :
    Traced (String × String) := do
  match claim.graph with
  | none => Traced.fail (.claimWithoutGraph type)
  | some graph =>
    let _ ← Traced.check id (fed.requireSubgraph graph type)
    return (graph, ← fed.keyFor type claim)

/-- The key fields of a type for the claims on it, by graph. Of two claims of one graph the last
counts. -/
def keysFor (fed : Federation) (type : String) (claims : List Join.TypeClaim) :
    Traced (Table String) := do
  return Table.ofList (← claims.mapM (fed.claimedKey type))

end Supergraph.Federation
