import Supergraph.Shape
import Supergraph.Table
import Supergraph.Value

/-!
# Plans

What a supergraph compiles to: the registry of subgraphs, for each entity its keys and the owners of
its fields, the routing of the root fields, the declarations of the schema's own types, and a
warning for each field that was left out.

## Main definitions

* `Subgraph`, `FieldPlan`, `EntityPlan`, `RootField`, `Declaration`, `Warning` — the parts
* `Plan` — all of them
-/

namespace Supergraph

/-- A subgraph service: the key that stands for it in annotations, its name and its address. -/
structure Subgraph where
  key : String
  name : String
  url : String
  deriving DecidableEq, Repr, Inhabited

/-- A field of an entity together with the key of the subgraph that resolves it. -/
structure FieldPlan where
  name : String
  shape : Shape
  owner : String
  deriving DecidableEq, Repr, Inhabited

/-- The plan of one entity: the key field in each subgraph that claims it, and its planned fields.
-/
structure EntityPlan where
  typeName : String
  keys : Table String
  fields : List FieldPlan
  deriving DecidableEq, Inhabited

namespace EntityPlan

/-- The names of the planned fields, in order. -/
def fieldNames (e : EntityPlan) : List String :=
  e.fields.map FieldPlan.name

/-- The first planned field of a name. -/
def field? (e : EntityPlan) (name : String) : Option FieldPlan :=
  e.fields.find? fun f => f.name = name

end EntityPlan

/-- A field that was left out of the plan, and why. -/
structure Warning where
  typeName : String
  fieldName : String
  reason : String
  deriving DecidableEq, Repr, Inhabited

/-- The wording of a warning. -/
def Warning.message (w : Warning) : String :=
  s!"[{w.typeName}.{w.fieldName}] {w.reason}"

/-- The operations whose root fields are routed. -/
inductive RootOperation where
  | query
  | mutation
  deriving DecidableEq, Repr, Inhabited

/-- The word for the operation. -/
def RootOperation.label : RootOperation → String
  | query => "query"
  | mutation => "mutation"

/-- An argument of a root field. Whether it has a default is told apart from the value, since a
default may be null. -/
structure ArgumentPlan where
  name : String
  shape : Shape
  default : Value
  hasDefault : Bool
  deriving Inhabited

/-- The default of an argument that has one. -/
def ArgumentPlan.default? (a : ArgumentPlan) : Option Value :=
  if a.hasDefault then some a.default else none

/-- A field of a root type together with the key of the subgraph it is forwarded to. -/
structure RootField where
  operation : RootOperation
  name : String
  shape : Shape
  owner : String
  arguments : List ArgumentPlan
  deprecation : Option String
  deriving Inhabited

/-- A field of a declared type with its hint. -/
structure FieldHint where
  name : String
  hint : String
  deriving DecidableEq, Repr, Inhabited

/-- The kinds of declared types. -/
inductive DeclarationKind where
  | scalar
  | enum
  | input
  | interface
  | object
  | union
  deriving DecidableEq, Repr, Inhabited

/-- The word for the kind. -/
def DeclarationKind.label : DeclarationKind → String
  | scalar => "scalar"
  | enum => "enum"
  | input => "input"
  | interface => "interface"
  | object => "object"
  | union => "union"

/-- A named type that the schema declares itself. Inputs, interfaces and objects have fields; enums
and unions have members. -/
structure Declaration where
  kind : DeclarationKind
  name : String
  fields : List FieldHint
  members : List String
  description : Option String
  deriving DecidableEq, Repr, Inhabited

/-- Everything that one supergraph compiles to. -/
structure Plan where
  subgraphs : Table Subgraph
  entities : Table EntityPlan
  rootFields : List RootField
  declarations : List Declaration
  warnings : List Warning
  deriving Inhabited

end Supergraph
