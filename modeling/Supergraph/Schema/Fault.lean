import Supergraph.Schema.DefaultValue

/-!
# Faults of schemas

What may be wrong with a schema whose document follows the document rules.

## Main definitions

* `Schema.Fault` — the faults
* `Schema.Fault.message` — the wording
-/

namespace Supergraph.Schema

/-- A fault of a schema. A `place` is a field, an argument or a member as messages name it. -/
inductive Fault where
  | noQuery
  | rootNotObject (kind : Sdl.OperationKind) (name : String)
  | reservedName (name : String)
  | noFields (type : String)
  | noInputFields (type : String)
  | noMembers (type : String)
  | noValues (type : String)
  | notOutput (place : String) (type : TypeRef)
  | notInput (place : String) (type : TypeRef)
  | deprecatedArgument (place : String)
  | deprecatedInputField (place : String)
  | invalidDefault (place : String) (steps : List PartStep) (misfit : Misfit)
  | notInterface (type other : String)
  | implementsItself (type : String)
  | implementsTwice (type interface : String)
  | circularInterfaces (type interface : String)
  | missingInterface (type ancestor interface : String)
  | missingField (interfacePlace type : String)
  | fieldMismatch (interfacePlace : String) (expected : TypeRef) (place : String) (type : TypeRef)
  | missingArgument (interfacePlace place : String)
  | argumentMismatch (interfacePlace : String) (expected : TypeRef) (place : String)
      (type : TypeRef)
  | extraArgument (place argument interfacePlace : String)
  | memberTwice (union member : String)
  | memberNotObject (union member : String)
  | oneOfNotNullable (place : String)
  | oneOfDefault (place : String)
  | endlessInput (type : String) (path : List String)
  | wrongDirectiveArgument (owner : Option String) (argument : String)
      (value : Option Sdl.Literal)
  deriving Repr

/-- The word for an operation at the beginning of a sentence. -/
def rootTitle : Sdl.OperationKind → String
  | .query => "Query"
  | .mutation => "Mutation"
  | .subscription => "Subscription"

/-- The wording of the fault. -/
def Fault.message : Fault → String
  | noQuery => "Query root type must be provided."
  | rootNotObject kind name =>
    let condition := if kind = .query then "" else " if provided"
    s!"{rootTitle kind} root type must be Object type{condition}, it cannot be {name}."
  | reservedName name =>
    s!"Name '{name}' must not begin with '__', which is reserved by GraphQL introspection."
  | noFields type => s!"Type {type} must define one or more fields."
  | noInputFields type => s!"Input Object type {type} must define one or more fields."
  | noMembers type => s!"Union type {type} must define one or more member types."
  | noValues type => s!"Enum type {type} must define one or more values."
  | notOutput place type => s!"The type of {place} must be Output Type but got: {type.text}."
  | notInput place type => s!"The type of {place} must be Input Type but got: {type.text}."
  | deprecatedArgument place => s!"Required argument {place} cannot be deprecated."
  | deprecatedInputField place => s!"Required input field {place} cannot be deprecated."
  | invalidDefault place steps misfit =>
    s!"{place} has invalid default value{placeText steps}: {misfit.message}"
  | notInterface type other =>
    s!"Type {type} must only implement Interface types, it cannot implement {other}."
  | implementsItself type =>
    s!"Type {type} cannot implement itself because it would create a circular reference."
  | implementsTwice type interface => s!"Type {type} can only implement {interface} once."
  | circularInterfaces type interface =>
    s!"Type {type} cannot implement {interface} because it would create a circular reference."
  | missingInterface type ancestor interface =>
    s!"Type {type} must implement {ancestor} because it is implemented by {interface}."
  | missingField interfacePlace type =>
    s!"Interface field {interfacePlace} expected but {type} does not provide it."
  | fieldMismatch interfacePlace expected place type =>
    s!"Interface field {interfacePlace} expects type {expected.text} but {place} is type {type.text}."
  | missingArgument interfacePlace place =>
    s!"Interface field argument {interfacePlace} expected but {place} does not provide it."
  | argumentMismatch interfacePlace expected place type =>
    s!"Interface field argument {interfacePlace} expects type {expected.text} but "
      ++ s!"{place} is type {type.text}."
  | extraArgument place argument interfacePlace =>
    s!"Object field {place} includes required argument {argument} that is missing from the "
      ++ s!"Interface field {interfacePlace}."
  | memberTwice union member => s!"Union type {union} can only include type {member} once."
  | memberNotObject union member =>
    s!"Union type {union} can only include Object types, it cannot include {member}."
  | oneOfNotNullable place => s!"OneOf input field {place} must be nullable."
  | oneOfDefault place => s!"OneOf input field {place} cannot have a default value."
  | endlessInput type path =>
    s!"Cannot reference Input Object '{type}' within itself through a series of non-null fields: "
      ++ "'" ++ String.intercalate "." path ++ "'."
  | wrongDirectiveArgument owner argument value =>
    let place := (owner.map fun o => s!"{o} fields cannot be resolved. ").getD ""
    place ++ match value with
      | none => s!"Argument '{argument}' of required type 'String!' was not provided."
      | some .null => s!"Argument '{argument}' of non-null type 'String!' must not be null."
      | some value => s!"Argument '{argument}' has invalid value {literalText value}."

end Supergraph.Schema
