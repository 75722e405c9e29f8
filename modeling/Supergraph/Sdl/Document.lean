import Supergraph.TypeRef

/-!
# Schema documents

What a schema text says, definition by definition: types and their extensions, directives, the
schema itself, and the executable definitions that may stand among them.

## Main definitions

* `Literal` — values as they are written
* `Application` — a directive where it is applied
* `TypeDef`, `SchemaDef`, `DirectiveDef`, `ExecutableDef` — the definitions
* `Definition` — all of them
-/

namespace Supergraph.Sdl

/-- A value as it is written. Numbers keep their text; a word that is no truth value and not null is
the name of an enum value. -/
inductive Literal where
  | null
  | bool (b : Bool)
  | int (text : String)
  | float (text : String)
  | string (value : String)
  | enum (name : String)
  | list (items : List Literal)
  | object (members : List (String × Literal))
  | variable (name : String)
  deriving Repr, Inhabited

/-- A directive where it is applied, with its arguments. -/
structure Application where
  name : String
  arguments : List (String × Literal)
  deriving Repr, Inhabited

/-- An argument of a field or directive, or a field of an input type. -/
structure InputDef where
  name : String
  description : Option String
  type : TypeRef
  default? : Option Literal
  directives : List Application
  deriving Repr, Inhabited

/-- A field of an object type or interface. -/
structure FieldDef where
  name : String
  description : Option String
  arguments : List InputDef
  type : TypeRef
  directives : List Application
  deriving Repr, Inhabited

/-- A value of an enum. -/
structure EnumValueDef where
  name : String
  description : Option String
  directives : List Application
  deriving Repr, Inhabited

/-- What a type definition says beside its name. -/
inductive TypeBody where
  | scalar
  | object (interfaces : List String) (fields : List FieldDef)
  | interface (interfaces : List String) (fields : List FieldDef)
  | union (members : List String)
  | enum (values : List EnumValueDef)
  | input (fields : List InputDef)
  deriving Repr, Inhabited

/-- The kinds of types. -/
inductive TypeKind where
  | scalar
  | object
  | interface
  | union
  | enum
  | input
  deriving DecidableEq, Repr

/-- The word for the kind. -/
def TypeKind.word : TypeKind → String
  | scalar => "scalar"
  | object => "object"
  | interface => "interface"
  | union => "union"
  | enum => "enum"
  | input => "input object"

/-- The kind of type that is defined. -/
def TypeBody.kind : TypeBody → TypeKind
  | scalar => .scalar
  | object .. => .object
  | interface .. => .interface
  | union _ => .union
  | enum _ => .enum
  | input _ => .input

/-- A type definition, or an extension of one. -/
structure TypeDef where
  name : String
  description : Option String
  directives : List Application
  body : TypeBody
  deriving Repr, Inhabited

/-- The operations a schema may offer. -/
inductive OperationKind where
  | query
  | mutation
  | subscription
  deriving DecidableEq, Repr, Inhabited

namespace OperationKind

/-- The word for the operation. -/
def word : OperationKind → String
  | query => "query"
  | mutation => "mutation"
  | subscription => "subscription"

/-- The operation a word stands for. -/
def ofWord? (word : String) : Option OperationKind :=
  [query, mutation, subscription].find? fun k => k.word = word

end OperationKind

/-- The definition of the schema itself, or an extension of it: its root types. -/
structure SchemaDef where
  directives : List Application
  operations : List (OperationKind × String)
  deriving Repr, Inhabited

/-- The places where directives are applied. -/
inductive Location where
  | query
  | mutation
  | subscription
  | field
  | fragmentDefinition
  | fragmentSpread
  | inlineFragment
  | variableDefinition
  | schema
  | scalar
  | object
  | fieldDefinition
  | argumentDefinition
  | interface
  | union
  | enum
  | enumValue
  | inputObject
  | inputFieldDefinition
  | directiveDefinition
  deriving DecidableEq, Repr, Inhabited

namespace Location

/-- All places. -/
def all : List Location :=
  [query, mutation, subscription, field, fragmentDefinition, fragmentSpread, inlineFragment,
    variableDefinition, schema, scalar, object, fieldDefinition, argumentDefinition, interface,
    union, enum, enumValue, inputObject, inputFieldDefinition, directiveDefinition]

/-- The place as messages name it. -/
def words : Location → String
  | query => "query"
  | mutation => "mutation"
  | subscription => "subscription"
  | field => "field"
  | fragmentDefinition => "fragment definition"
  | fragmentSpread => "fragment spread"
  | inlineFragment => "inline fragment"
  | variableDefinition => "variable definition"
  | schema => "schema"
  | scalar => "scalar"
  | object => "object"
  | fieldDefinition => "field definition"
  | argumentDefinition => "argument definition"
  | interface => "interface"
  | union => "union"
  | enum => "enum"
  | enumValue => "enum value"
  | inputObject => "input object"
  | inputFieldDefinition => "input field definition"
  | directiveDefinition => "directive definition"

/-- The place as schemas name it. -/
def keyword (l : Location) : String :=
  String.ofList (l.words.toList.map fun c => if c == ' ' then '_' else c.toUpper)

/-- The place a schema names. -/
def ofKeyword? (keyword : String) : Option Location :=
  all.find? fun l => l.keyword = keyword

end Location

/-- The definition of a directive. -/
structure DirectiveDef where
  name : String
  arguments : List InputDef
  repeatable : Bool
  locations : List Location
  deriving Repr, Inhabited

/-- What an operation or fragment selects. -/
inductive Selection where
  | field (arguments : List (String × Literal)) (directives : List Application)
      (selections : List Selection)
  | spread (directives : List Application)
  | inline (typeCondition : Option String) (directives : List Application)
      (selections : List Selection)
  deriving Repr, Inhabited

/-- A variable of an operation. -/
structure VariableDef where
  type : TypeRef
  default? : Option Literal
  directives : List Application
  deriving Repr, Inhabited

/-- An operation, or a fragment when it has a type condition. Schemas pass over them. -/
structure ExecutableDef where
  location : Location
  parameters : List VariableDef
  typeCondition : Option String
  directives : List Application
  selections : List Selection
  deriving Repr, Inhabited

/-- A definition. -/
inductive Definition where
  | schema (d : SchemaDef)
  | schemaExtension (d : SchemaDef)
  | type (t : TypeDef)
  | typeExtension (t : TypeDef)
  | directive (d : DirectiveDef)
  | executable (d : ExecutableDef)
  deriving Repr, Inhabited

/-- A document: its definitions in order. -/
abbrev Document := List Definition

namespace Document

/-- The type definitions of a document, without the extensions. -/
def types (doc : Document) : List TypeDef :=
  doc.filterMap fun
    | .type t => some t
    | _ => none

/-- The extensions of types. -/
def typeExtensions (doc : Document) : List TypeDef :=
  doc.filterMap fun
    | .typeExtension t => some t
    | _ => none

/-- The definitions of directives. -/
def directives (doc : Document) : List DirectiveDef :=
  doc.filterMap fun
    | .directive d => some d
    | _ => none

/-- The definitions of the schema itself, without the extensions. -/
def schemas (doc : Document) : List SchemaDef :=
  doc.filterMap fun
    | .schema d => some d
    | _ => none

end Document

end Supergraph.Sdl
