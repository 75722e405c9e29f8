import Supergraph.Sdl.DocumentRules
import Supergraph.Table

/-!
# Schemas

A schema is the table of its named types with the names of the root types. A field, an argument or
an enum value remembers the directives that are applied to its definition; those by which schemas
describe themselves come from no definition.

## Main definitions

* `Schema.InputValue`, `Schema.Field`, `Schema.EnumValue` — the parts of types
* `Schema.NamedType` — a type with its description and the directives applied to it
* `Schema` — the types and the roots
* `Schema.fieldsOf?` — the fields of an object type
-/

namespace Supergraph

namespace Schema

/-- An argument, or a field of an input type. It is defined unless no definition is known. -/
structure InputValue where
  type : TypeRef
  default? : Option Sdl.Literal
  deprecation : Option String
  isDefined : Bool
  deriving Inhabited

/-- A field of an object type or interface, with the directives applied to its definition if that is
known. -/
structure Field where
  type : TypeRef
  arguments : Table InputValue
  deprecation : Option String
  applied? : Option (List Sdl.Application)
  deriving Inhabited

/-- A value of an enum, with the directives applied to its definition if that is known. -/
structure EnumValue where
  applied? : Option (List Sdl.Application)
  deriving Inhabited

/-- What a named type is. -/
inductive TypeBody where
  | scalar (isStandard : Bool)
  | object (interfaces : List String) (fields : Table Field)
  | interface (interfaces : List String) (fields : Table Field)
  | union (members : List String)
  | enum (values : Table EnumValue)
  | input (fields : Table InputValue) (oneOf : Bool)
  deriving Inhabited

/-- A named type. Directives that extensions apply do not count. -/
structure NamedType where
  description : Option String
  applied : List Sdl.Application
  body : TypeBody
  deriving Inhabited

/-- A directive that a schema defines. -/
structure Directive where
  name : String
  arguments : Table InputValue
  deriving Inhabited

end Schema

/-- A schema: its types in the order of their definitions, the root types that it names, and the
directives that it defines. -/
structure Schema where
  types : Table Schema.NamedType
  roots : List (Sdl.OperationKind × String)
  directives : List Schema.Directive
  deriving Inhabited

namespace Schema

/-- What the type of a name is. -/
def body? (schema : Schema) (name : String) : Option TypeBody :=
  (schema.types.get? name).map NamedType.body

/-- The name of the root type for an operation. -/
def root? (schema : Schema) (kind : Sdl.OperationKind) : Option String :=
  schema.roots.lookup kind

/-- The fields of an object type. -/
def TypeBody.objectFields? : TypeBody → Option (Table Field)
  | object _ fields => some fields
  | _ => none

/-- The fields of the object type of a name. -/
def fieldsOf? (schema : Schema) (name : String) : Option (Table Field) :=
  (schema.body? name).bind TypeBody.objectFields?

/-- Whether the type may stand where values are given back. -/
def TypeBody.isOutput : TypeBody → Bool
  | input .. => false
  | _ => true

/-- Whether the type may stand where values are taken. -/
def TypeBody.isInput : TypeBody → Bool
  | scalar _ | enum _ | input .. => true
  | _ => false

end Schema

end Supergraph
