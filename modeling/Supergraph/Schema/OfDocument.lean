import Supergraph.Schema.Fault
import Supergraph.Schema.Introspection

/-!
# Schemas of documents

A document that follows the document rules says a schema: definitions come in the order of the text,
extensions are merged into the types they extend, and the standard types join them.

## Main definitions

* `Schema.ofDocument` — the schema that a document says
-/

namespace Supergraph.Schema

open Sdl

/-! ### Directives that every schema understands -/

/-- The first application of a directive. -/
def applied? (applied : List Application) (name : String) : Option Application :=
  applied.find? fun a => a.name = name

/-- Why a definition is deprecated, if it is. The `owner` is the type around a field. -/
def deprecationOf (owner : Option String) (applied : List Application) :
    Except Fault (Option String) :=
  match applied? applied "deprecated" with
  | none => .ok none
  | some a =>
    match a.arguments.lookup "reason" with
    | none => .ok (some "No longer supported")
    | some .null => .ok none
    | some (.string reason) => .ok (some reason)
    | some value => .error (.wrongDirectiveArgument owner "reason" (some value))

/-- Checks the address of the specification of a scalar type, if it is given. -/
def checkSpecification (applied : List Application) : Except Fault Unit :=
  match applied? applied "specifiedBy" with
  | none => .ok ()
  | some a =>
    match a.arguments.lookup "url" with
    | some (.string _) => .ok ()
    | value => .error (.wrongDirectiveArgument none "url" value)

/-! ### Parts of types -/

/-- An argument, or a field of an input type, by its definition. -/
def inputValueOf (owner : Option String) (d : InputDef) : Except Fault (String × InputValue) := do
  return (d.name, ⟨d.type, d.default?, ← deprecationOf owner d.directives, true⟩)

/-- Arguments, or the fields of an input type, by their definitions. -/
def inputTable (owner : Option String) (ds : List InputDef) : Except Fault (Table InputValue) := do
  return Table.ofList (← ds.mapM (inputValueOf owner))

/-- A field by its definition. -/
def fieldOf (owner : String) (d : FieldDef) : Except Fault (String × Field) := do
  let arguments ← inputTable owner d.arguments
  return (d.name, ⟨d.type, arguments, ← deprecationOf owner d.directives, d.directives⟩)

/-- The fields of a type by their definitions. -/
def fieldTable (owner : String) (ds : List FieldDef) : Except Fault (Table Field) := do
  return Table.ofList (← ds.mapM (fieldOf owner))

/-- The interfaces that a definition or extension of a type names. -/
def interfacesOf (t : TypeDef) : List String :=
  match t.body with
  | .object interfaces _ | .interface interfaces _ => interfaces
  | _ => []

/-- The members that a definition or extension of a union names. -/
def membersOf (t : TypeDef) : List String :=
  match t.body with
  | .union members => members
  | _ => []

/-- The values that a definition or extension of an enum lists. -/
def valuesOf (t : TypeDef) : List EnumValueDef :=
  match t.body with
  | .enum values => values
  | _ => []

/-- The fields that a definition or extension of an input type lists. -/
def inputFieldsOf (t : TypeDef) : List InputDef :=
  match t.body with
  | .input fields => fields
  | _ => []

/-- Checks what is settled before any fields are looked at. What a definition says under the name of
a standard type does not matter. -/
def checkDefinition (t : TypeDef) (extensions : List TypeDef) : Except Fault Unit :=
  if (standardType? t.name).isSome then .ok ()
  else match t.body with
  | .scalar => checkSpecification t.directives
  | .enum _ =>
    ((t :: extensions).flatMap valuesOf).forM fun v => do
      let _ ← deprecationOf none v.directives
  | _ => .ok ()

/-- What a type is by its definition and the extensions of it. -/
def bodyOf (t : TypeDef) (extensions : List TypeDef) : Except Fault TypeBody := do
  let parts := t :: extensions
  match t.body with
  | .scalar => return .scalar false
  | .object .. =>
    return .object (parts.flatMap interfacesOf)
      (← fieldTable t.name (parts.flatMap TypeDef.outputFields))
  | .interface .. =>
    return .interface (parts.flatMap interfacesOf)
      (← fieldTable t.name (parts.flatMap TypeDef.outputFields))
  | .union _ => return .union (parts.flatMap membersOf)
  | .enum _ =>
    return .enum (Table.ofList ((parts.flatMap valuesOf).map fun v => (v.name, ⟨v.directives⟩)))
  | .input _ =>
    return .input (← inputTable t.name (parts.flatMap inputFieldsOf))
      (applied? t.directives "oneOf").isSome

/-- A type by its definition and the extensions of it. The name of a standard type keeps its
standard meaning. -/
def typeOf (extensions : List TypeDef) (t : TypeDef) : Except Fault (String × NamedType) := do
  match standardType? t.name with
  | some standard => return (t.name, standard)
  | none =>
    let own := extensions.filter fun e => e.name = t.name
    return (t.name, ⟨t.description, t.directives, ← bodyOf t own⟩)

/-! ### The whole schema -/

/-- The names of the types that a type refers to in its fields and their arguments. -/
def TypeBody.referenced : TypeBody → List String
  | .object _ fields | .interface _ fields =>
    fields.values.flatMap fun f =>
      (f.type :: f.arguments.values.map InputValue.type).filterMap TypeRef.baseName?
  | .input fields _ => (fields.values.map InputValue.type).filterMap TypeRef.baseName?
  | _ => []

/-- The standard types that belong to a schema with the given types and directives: the
introspection types with the scalars they use, and the other standard scalars that are referred to.
-/
def standardNames (types : List NamedType) (directives : List Directive) : List String :=
  let referenced := types.flatMap (fun t => t.body.referenced)
    ++ directives.flatMap fun d =>
      (d.arguments.values.map InputValue.type).filterMap TypeRef.baseName?
  let needed := "String" :: "Boolean" :: referenced
  standardScalars.filter needed.contains ++ introspectionTypes

/-- The root types: those that the schema definition and its extensions name, or, when there is no
schema definition, the types with the usual names. -/
def rootsOf (doc : Document) (types : Table NamedType) : List (OperationKind × String) :=
  let named := doc.schemaParts.flatMap SchemaDef.operations
  if doc.schemas.isEmpty then
    let usual := [OperationKind.query, .mutation, .subscription].map fun k => (k, rootTitle k)
    usual.filter (fun r => types.contains r.2) ++ named
  else named

/-- A directive by its definition. -/
def directiveOf (d : DirectiveDef) : Except Fault Directive := do
  return ⟨d.name, ← inputTable none d.arguments⟩

/-- The schema that a document says. -/
def ofDocument (doc : Document) : Except Fault Schema := do
  doc.types.forM fun t => checkDefinition t (doc.typeExtensions.filter fun e => e.name = t.name)
  let directives ← doc.directives.mapM directiveOf
  let defined ← doc.types.mapM (typeOf doc.typeExtensions)
  let standard := (standardNames (defined.map Prod.snd) directives).filterMap fun name =>
    (standardType? name).map fun t => (name, t)
  let types := Table.ofList (defined ++ standard)
  return ⟨types, rootsOf doc types, directives⟩

end Supergraph.Schema
