/-!
# Shapes of type references

A plan keeps of a type reference the named type at its bottom, whether that is a scalar, an enum or
another type, whether it stands in a list, and what may be null. A shape is rendered as a type hint
of the emitted modules.

## Main definitions

* `BaseKind`, `Shape` — the kinds of named types, and the shapes
* `Shape.hint` — the type hint of a shape
* `Shape.nonNullHint` — the hint without the outermost `Optional`
-/

namespace Supergraph

/-- What a named type is, as far as hints distinguish. -/
inductive BaseKind where
  | scalar
  | object
  | enum
  deriving DecidableEq, Repr, Inhabited

namespace BaseKind

/-- The word for the kind. -/
def label : BaseKind → String
  | scalar => "scalar"
  | object => "object"
  | enum => "enum"

/-- The kind a word stands for. -/
def ofLabel? (label : String) : Option BaseKind :=
  [scalar, object, enum].find? fun k => k.label = label

end BaseKind

/-- The shape of a type reference. When `isList` is false, `listNullable` has no meaning. -/
structure Shape where
  kind : BaseKind
  name : String
  elementNullable : Bool
  isList : Bool
  listNullable : Bool
  deriving DecidableEq, Repr, Inhabited

namespace Shape

/-- Whether the outermost value may be null. -/
def nullable (s : Shape) : Bool :=
  if s.isList then s.listNullable else s.elementNullable

/-- The hints of the scalars that every schema has. -/
def scalarHints : List (String × String) :=
  [("Int", "int"), ("Float", "float"), ("Boolean", "bool"), ("ID", "str"), ("String", "str")]

/-- The hint of a value of which nothing is known. -/
def opaqueHint : String := "Any"

/-- The hint of the named type alone. -/
def baseHint (s : Shape) : String :=
  match s.kind with
  | .scalar => (scalarHints.lookup s.name).getD opaqueHint
  | .enum => "str"
  | .object => s.name

/-- A hint that allows null as well. -/
def optional (hint : String) : String :=
  "Optional[" ++ hint ++ "]"

/-- The hint of the value when it is not null. -/
def nonNullHint (s : Shape) : String :=
  if s.isList then
    "list[" ++ (if s.elementNullable then optional s.baseHint else s.baseHint) ++ "]"
  else s.baseHint

/-- The hint of the value. -/
def hint (s : Shape) : String :=
  if s.nullable then optional s.nonNullHint else s.nonNullHint

end Shape

end Supergraph
