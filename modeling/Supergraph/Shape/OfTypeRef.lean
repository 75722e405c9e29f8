import Supergraph.Schema.Basic
import Supergraph.Shape

/-!
# Shapes from type references

The references that have a shape are a name, a list of a name, and these with nulls excluded from
the items or the whole. A list of lists has none.

## Main definitions

* `UnsupportedType` — why a reference has no shape, with its wording
* `Shape.ofTypeRef` — the shape of a reference
* `TypeRef.baseName` — the name under all wrappers, which every complete reference has
-/

namespace Supergraph

/-- Why a type reference has no shape. -/
inductive UnsupportedType where
  /-- More wrappers than any reference with a shape has. -/
  | tooDeep
  | nonNullTwice
  | nestedList
  | unknown (name : String)
  | absent
  deriving DecidableEq, Repr

/-- The wrappers of the deepest reference with a shape: two that exclude null around and inside a
list. -/
def maxWrappers : Nat := 3

/-- The wording of the cause. -/
def UnsupportedType.message : UnsupportedType → String
  | tooDeep => s!"Type reference nested deeper than {maxWrappers} wrappers"
  | nonNullTwice => "Non-null wrapper applied twice"
  | nestedList => "Nested list types are not supported"
  | unknown name => s!"Unknown type '{name}'"
  | absent => "Unsupported type: None"

/-- The name under all wrappers. -/
def TypeRef.baseName (type : TypeRef) : Except UnsupportedType String :=
  match type.baseName? with
  | some name => .ok name
  | none => .error .absent

/-- The kind that a type has as the base of a shape. -/
def Schema.TypeBody.baseKind : Schema.TypeBody → BaseKind
  | scalar _ => .scalar
  | enum _ => .enum
  | _ => .object

/-- The kind of the type of a name. -/
def Schema.baseKind (schema : Schema) (name : String) : Except UnsupportedType BaseKind :=
  match schema.body? name with
  | some body => .ok body.baseKind
  | none => .error (.unknown name)

namespace Shape

/-- Walks down a reference below `depth` wrappers. `nullable` says whether the value looked at may
be null, `listNullable` whether the list around it may, if there is one. -/
def descend (schema : Schema) (depth : Nat) (nullable : Bool) (listNullable : Option Bool)
    (type : TypeRef) : Except UnsupportedType Shape :=
  if maxWrappers < depth then .error .tooDeep
  else match type with
    | .nonNull item =>
      if nullable then descend schema (depth + 1) false listNullable item
      else .error .nonNullTwice
    | .list item =>
      match listNullable with
      | some _ => .error .nestedList
      | none => descend schema (depth + 1) true (some nullable) item
    | .named name => do
      let kind ← schema.baseKind name
      return ⟨kind, name, nullable, listNullable.isSome, listNullable.getD false⟩
    | .absent => .error .absent

/-- The shape of a type reference. -/
def ofTypeRef (schema : Schema) (type : TypeRef) : Except UnsupportedType Shape :=
  descend schema 0 true none type

end Shape

end Supergraph
