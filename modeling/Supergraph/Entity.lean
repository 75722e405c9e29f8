/-!
# Names of entities and declared types

Object types are entities unless they are root operation types or belong to introspection, which
their names tell. Types of the join and link namespaces have a double underscore in their names;
they are entities when they are objects, but no declared types.

## Main definitions

* `isEntityName`, `isDeclaredName` — the two classes of names
-/

namespace Supergraph

/-- The names of the root operation types. -/
def rootTypeNames : List String := ["Query", "Mutation", "Subscription"]

/-- Whether a type of the name may be an entity. -/
def isEntityName (name : String) : Bool :=
  !name.isEmpty && !rootTypeNames.contains name && !(['_', '_'].isPrefixOf name.toList)

/-- Whether two underscores stand next to each other. -/
def holdsDoubleUnderscore : List Char → Bool
  | '_' :: '_' :: _ => true
  | _ :: cs => holdsDoubleUnderscore cs
  | [] => false

/-- Whether a type of the name is declared in the types module. -/
def isDeclaredName (name : String) : Bool :=
  isEntityName name && !holdsDoubleUnderscore name.toList

end Supergraph
