/-!
# Type references

A field or an argument refers to a type by its name, wrapped any number of times as a list or as a
reference that is never null.

## Main definitions

* `TypeRef` — the references, with a case for a place where no reference stands
* `TypeRef.text` — a reference as it is written in a schema
* `TypeRef.baseName?` — the name under all wrappers
-/

namespace Supergraph

/-- A type reference. `absent` stands where a name or wrapper should be and is not. -/
inductive TypeRef where
  | named (name : String)
  | list (item : TypeRef)
  | nonNull (item : TypeRef)
  | absent
  deriving DecidableEq, Repr, Inhabited

namespace TypeRef

/-- The reference as it is written in a schema. -/
def text : TypeRef → String
  | named name => name
  | list item => "[" ++ item.text ++ "]"
  | nonNull item => item.text ++ "!"
  | absent => "None"

/-- The name under all wrappers. -/
def baseName? : TypeRef → Option String
  | named name => some name
  | list item => item.baseName?
  | nonNull item => item.baseName?
  | absent => none

/-- Whether the outermost wrapper is the one that excludes null. -/
def isNonNull : TypeRef → Bool
  | nonNull _ => true
  | _ => false

end TypeRef

end Supergraph
