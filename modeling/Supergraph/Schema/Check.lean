import Supergraph.Schema.Fault
import Supergraph.Schema.Basic

/-!
# Checking schemas

The rules of the type system: which root types there have to be, what types must contain, how names
are spelled, and when a type implements an interface. Faults are listed in the order of the roots,
the directives and the types.

## Main definitions

* `Schema.isSubtype` — when one type reference may stand for another
* `Schema.faults` — all faults of a schema
-/

namespace Supergraph.Schema

open Sdl

/-! ### Subtypes -/

/-- Whether the first type is a member of the second, or implements it. -/
def covers (schema : Schema) (narrow wide : String) : Bool :=
  match schema.body? wide, schema.body? narrow with
  | some (.union members), _ => members.contains narrow
  | some (.interface ..), some (.object interfaces _)
  | some (.interface ..), some (.interface interfaces _) => interfaces.contains wide
  | _, _ => false

/-- Whether a field of the first type may stand where one of the second is asked for. -/
def isSubtype (schema : Schema) : TypeRef → TypeRef → Bool
  | .nonNull a, .nonNull b => isSubtype schema a b
  | _, .nonNull _ => false
  | .nonNull a, b => isSubtype schema a b
  | .list a, .list b => isSubtype schema a b
  | .named a, .named b => a = b || schema.covers a b
  | _, _ => false

/-! ### Roots and names -/

/-- The fault of a root type, if it has one. -/
def rootFaults (schema : Schema) (kind : OperationKind) : List Fault :=
  match schema.root? kind with
  | none => if kind = .query then [.noQuery] else []
  | some name =>
    match schema.fieldsOf? name with
    | some _ => []
    | none => [.rootNotObject kind name]

/-- The fault of a name that is kept for the standard types. -/
def nameFaults (name : String) : List Fault :=
  if ['_', '_'].isPrefixOf name.toList then [.reservedName name] else []

/-- Whether a reference leads to a type with the property. -/
def leadsTo (schema : Schema) (property : TypeBody → Bool) (type : TypeRef) : Bool :=
  (type.baseName?.bind schema.body?).any property

/-- The faults of the default of an argument or of a field, which messages call `place`. -/
def defaultFaults (schema : Schema) (place : String) (v : InputValue) : List Fault :=
  v.default?.toList.flatMap fun value =>
    (schema.misfits v.type value).map fun (steps, misfit) => .invalidDefault place steps misfit

/-- The faults of an argument, which messages call `place`. -/
def argumentFaults (schema : Schema) (place : String → String) (a : String × InputValue) :
    List Fault :=
  nameFaults a.1
    ++ (if schema.leadsTo TypeBody.isInput a.2.type then []
      else [.notInput (place a.1) a.2.type])
    ++ (if a.2.isRequired && a.2.deprecation.isSome then [.deprecatedArgument (place a.1)] else [])
    ++ schema.defaultFaults (place a.1) a.2

/-- The faults of a directive. -/
def directiveFaults (schema : Schema) (d : Directive) : List Fault :=
  nameFaults d.name
    ++ d.arguments.entries.flatMap (schema.argumentFaults fun a => s!"@{d.name}({a}:)")

/-! ### Fields and interfaces -/

/-- The faults of a field of the type. -/
def fieldFaults (schema : Schema) (type : String) (f : String × Field) : List Fault :=
  let place := s!"{type}.{f.1}"
  nameFaults f.1
    ++ (if schema.leadsTo TypeBody.isOutput f.2.type then [] else [.notOutput place f.2.type])
    ++ f.2.arguments.entries.flatMap (schema.argumentFaults fun a => s!"{place}({a}:)")

/-- The faults of the fields of an object type or interface. -/
def fieldsFaults (schema : Schema) (type : String) (fields : Table Field) : List Fault :=
  (if fields.isEmpty then [.noFields type] else [])
    ++ fields.entries.flatMap (schema.fieldFaults type)

/-- The faults of the arguments of a field beside those that the interface asks for. -/
def implementedArgumentFaults (place interfacePlace : String) (asked own : Table InputValue) :
    List Fault :=
  (asked.entries.flatMap fun (name, a) =>
    match own.get? name with
    | none => [.missingArgument s!"{interfacePlace}({name}:)" place]
    | some b =>
      if a.type = b.type then []
      else [.argumentMismatch s!"{interfacePlace}({name}:)" a.type s!"{place}({name}:)" b.type])
    ++ own.entries.flatMap fun (name, b) =>
      if !asked.contains name && b.isRequired then
        [.extraArgument place name interfacePlace]
      else []

/-- The faults of the fields of a type beside those of an interface. -/
def implementedFaults (schema : Schema) (type : String) (fields : Table Field) (interface : String)
    (asked : Table Field) : List Fault :=
  asked.entries.flatMap fun (name, a) =>
    let interfacePlace := s!"{interface}.{name}"
    let place := s!"{type}.{name}"
    match fields.get? name with
    | none => [.missingField interfacePlace type]
    | some f =>
      (if schema.isSubtype f.type a.type then []
        else [.fieldMismatch interfacePlace a.type place f.type])
        ++ implementedArgumentFaults place interfacePlace a.arguments f.arguments

/-- The faults of the ancestors of an interface that a type has to implement as well. -/
def ancestorFaults (type : String) (interfaces : List String) (interface : String)
    (ancestors : List String) : List Fault :=
  (ancestors.filter fun a => !interfaces.contains a).map fun a =>
    if a = type then .circularInterfaces type interface
    else .missingInterface type a interface

/-- The faults of the interfaces that a type implements, where `seen` have come before. -/
def interfaceFaults (schema : Schema) (type : String) (all : List String) (fields : Table Field)
    (seen : List String) : List String → List Fault
  | [] => []
  | name :: rest =>
    match schema.body? name with
    | some (.interface ancestors asked) =>
      if name = type then
        .implementsItself type :: interfaceFaults schema type all fields seen rest
      else if seen.contains name then
        .implementsTwice type name :: interfaceFaults schema type all fields seen rest
      else
        ancestorFaults type all name ancestors
          ++ schema.implementedFaults type fields name asked
          ++ interfaceFaults schema type all fields (name :: seen) rest
    | _ => .notInterface type name :: interfaceFaults schema type all fields seen rest

/-! ### Unions, enums and input types -/

/-- The faults of the members of a union, where `seen` have come before. -/
def memberFaults (schema : Schema) (union : String) (seen : List String) :
    List String → List Fault
  | [] => []
  | name :: rest =>
    if (schema.fieldsOf? name).isNone then
      .memberNotObject union name :: memberFaults schema union seen rest
    else if seen.contains name then
      .memberTwice union name :: memberFaults schema union seen rest
    else memberFaults schema union (name :: seen) rest

/-- The faults of a field of an input type. -/
def inputFieldFaults (schema : Schema) (type : String) (oneOf : Bool) (f : String × InputValue) :
    List Fault :=
  let place := s!"{type}.{f.1}"
  nameFaults f.1
    ++ (if schema.leadsTo TypeBody.isInput f.2.type then [] else [.notInput place f.2.type])
    ++ (if f.2.isRequired && f.2.deprecation.isSome then [.deprecatedInputField place] else [])
    ++ schema.defaultFaults place f.2
    ++ (if oneOf && f.2.type.isNonNull then [.oneOfNotNullable place] else [])
    ++ (if oneOf && f.2.default?.isSome then [.oneOfDefault place] else [])

/-- The faults of the fields of an input type. -/
def inputFaults (schema : Schema) (type : String) (fields : Table InputValue) (oneOf : Bool) :
    List Fault :=
  (if fields.isEmpty then [.noInputFields type] else [])
    ++ fields.entries.flatMap (schema.inputFieldFaults type oneOf)

/-- The fields of an input type that lead to another input type and may not be null. -/
def insistentFields (schema : Schema) (type : String) : List (String × String) :=
  match schema.body? type with
  | some (.input fields _) =>
    fields.entries.filterMap fun (name, f) =>
      match f.type with
      | .nonNull (.named next) =>
        match schema.body? next with
        | some (.input ..) => some (name, next)
        | _ => none
      | _ => none
  | _ => none.toList

/-- The walk through input types that insist on one another. `visited` are the types that have been
entered, `path` the fields that led here with the types they belong to, outermost first, and the
work is the fields still to be followed from `type`. The number of types bounds the depth. -/
def endlessFrom (schema : Schema) (path : List (String × String)) (type : String) :
    Nat → StateM (List String) (List Fault)
  | 0 => return []
  | depth + 1 => do
    if (← get).contains type then return []
    modify (type :: ·)
    let found ← (schema.insistentFields type).mapM fun (field, next) => do
      let path := path ++ [(type, field)]
      -- The cycle begins where the path first left the type that it comes back to.
      let cycle := path.dropWhile fun step => step.1 ≠ next
      if cycle.isEmpty then endlessFrom schema path next depth
      else return [Fault.endlessInput next (cycle.map Prod.snd)]
    return found.flatten

/-! ### All faults -/

/-- The faults of a type, with the walk through input types continued. -/
def typeFaults (schema : Schema) (name : String) (body : TypeBody) :
    StateM (List String) (List Fault) := do
  let spelled := if introspectionTypes.contains name then [] else nameFaults name
  match body with
  | .scalar _ => return spelled
  | .object interfaces fields | .interface interfaces fields =>
    return spelled ++ schema.fieldsFaults name fields
      ++ schema.interfaceFaults name interfaces fields [] interfaces
  | .union members =>
    return spelled ++ (if members.isEmpty then [.noMembers name] else [])
      ++ schema.memberFaults name [] members
  | .enum values =>
    return spelled ++ (if values.isEmpty then [.noValues name] else [])
      ++ values.keys.flatMap nameFaults
  | .input fields oneOf =>
    let endless ← schema.endlessFrom [] name (schema.types.size + 1)
    return spelled ++ schema.inputFaults name fields oneOf ++ endless

/-- The faults of a schema. -/
def faults (schema : Schema) : List Fault :=
  let types := schema.types.entries.mapM fun (name, type) => schema.typeFaults name type.body
  [OperationKind.query, .mutation, .subscription].flatMap schema.rootFaults
    ++ schema.directives.flatMap schema.directiveFaults
    ++ (types.run []).1.flatten

end Supergraph.Schema
