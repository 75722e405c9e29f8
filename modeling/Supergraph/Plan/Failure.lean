import Supergraph.Join.Registry
import Supergraph.Schema.Load
import Supergraph.Shape.OfTypeRef

/-!
# Failures of planning

Why a supergraph has no plan. A failure is invalid input, a plan that cannot be made of valid input,
or a type reference without a shape.

## Main definitions

* `Failure` — the causes
* `Failure.kind`, `Failure.messages`, `Failure.typeName?` — what is reported of them
* `Failure.message` — the wording
-/

namespace Supergraph

/-- Why a supergraph has no plan. -/
inductive Failure where
  | schema (cause : Schema.LoadError)
  | registry (cause : Join.RegistryError)
  | wrongArgument (cause : Join.WrongArgument)
  /-- A graph that the registry does not have is named at a place. -/
  | undeclaredGraph (place graph : String)
  | claimWithoutGraph (type : String)
  | notObject (type : String)
  | noKey (type : String) (graph : Option String)
  | undefinedField (type field : String)
  | undefinedArgument (argument : String)
  | noClient (field : String)
  | unsupported (cause : UnsupportedType)
  deriving Repr

/-- The kinds of failures. -/
inductive FailureKind where
  | validation
  | generation
  | unsupported
  deriving DecidableEq, Repr

namespace Failure

/-- The kind of the failure. -/
def kind : Failure → FailureKind
  | schema _ | registry _ | wrongArgument _ | undeclaredGraph .. | claimWithoutGraph _ => .validation
  | notObject _ | noKey .. | undefinedField .. | undefinedArgument _ | noClient _ => .generation
  | unsupported _ => .unsupported

/-- The type that the failure is about, if it is about one. -/
def typeName? : Failure → Option String
  | noKey type _ | undefinedField type _ => some type
  | _ => none

/-- What there is to say about the failure, leaving out the type that it is about. -/
def messages : Failure → List String
  | schema cause => "Error occurred while parsing the GraphQL schema" :: cause.details
  | registry cause => cause.messages
  | wrongArgument cause => [cause.message]
  | undeclaredGraph place graph => [s!"{place}: graph '{graph}' is not declared in join__Graph"]
  | claimWithoutGraph type => [s!"{type}: @join__type missing 'graph' argument"]
  | notObject type => [s!"'{type}' is not an object type"]
  | noKey _ graph => ["no key for graph '" ++ graph.getD "None" ++ "'"]
  | undefinedField _ field => [s!"field '{field}' has no definition"]
  | undefinedArgument argument => [s!"argument '{argument}' has no definition"]
  | noClient field => [s!"No client name found: {field}"]
  | unsupported cause => [cause.message]

/-- The wording of the failure, which begins with the type that it is about. -/
def message (f : Failure) : String :=
  let text := String.intercalate "; " f.messages
  match f.typeName? with
  | none => text
  | some type => s!"{type}: {text}"

end Failure

end Supergraph
