/-!
# Claims and owners

Subgraphs claim types and fields. The owner of a field is the graph of its first claim that names
one and is not external; without such a claim it is the graph of the only claim on the type.

## Main definitions

* `TypeClaim`, `FieldClaim` — a claim on a type, a claim on a field
* `ownerOfFieldClaims?`, `ownerOfTypeClaims?` — the owners the claims yield
* `ownerOf?` — the owner of a field
-/

namespace Supergraph.Join

/-- A claim of a subgraph on a type, perhaps with the key field the subgraph knows it by. -/
structure TypeClaim where
  graph : Option String
  key : Option String
  deriving DecidableEq, Repr, Inhabited

/-- A claim of a subgraph on a field. An external field is known to the subgraph, not resolved. -/
structure FieldClaim where
  graph : Option String
  external : Bool
  deriving DecidableEq, Repr, Inhabited

/-- The graph of the first claim that names one and is not external. -/
def ownerOfFieldClaims? : List FieldClaim → Option String
  | [] => none
  | claim :: rest =>
    match claim.graph, claim.external with
    | some graph, false => some graph
    | _, _ => ownerOfFieldClaims? rest

/-- The graph of the only claim. -/
def ownerOfTypeClaims? : List TypeClaim → Option String
  | [claim] => claim.graph
  | _ => none

/-- The owner of a field with the given claims on it and on its type. -/
def ownerOf? (fieldClaims : List FieldClaim) (typeClaims : List TypeClaim) : Option String :=
  (ownerOfFieldClaims? fieldClaims).or (ownerOfTypeClaims? typeClaims)

end Supergraph.Join
