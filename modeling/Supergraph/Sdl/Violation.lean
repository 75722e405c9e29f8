import Supergraph.Sdl.Document
import Supergraph.Sdl.Suggestion

/-!
# Violations of the document rules

A document that follows the grammar may still contradict itself: it defines something twice, extends
what it does not define, or refers to types and directives it does not know.

## Main definitions

* `Violation` — what a document may do wrong
* `Violation.message` — the wording
-/

namespace Supergraph.Sdl

/-- What a document does wrong. Unknown names come with the known names that are written alike. -/
inductive Violation where
  | secondSchema
  | repeatedOperation (kind : OperationKind)
  | repeatedType (name : String)
  | repeatedEnumValue (typeName value : String)
  | repeatedField (typeName field : String)
  | repeatedArgumentDef (owner argument : String)
  | repeatedDirectiveDef (name : String)
  | unknownType (name : String) (alike : List String)
  | unknownDirective (name : String)
  | misplacedDirective (name : String) (location : Location)
  | repeatedDirective (name : String)
  | extensionOfOtherKind (name : String) (kind : TypeKind)
  | extensionOfUnknown (name : String) (alike : List String)
  | unknownArgument (directive argument : String) (alike : List String)
  | repeatedArgument (name : String)
  | repeatedMember (name : String)
  | missingArgument (directive argument : String) (type : TypeRef)
  deriving DecidableEq, Repr

/-- The wording of the violation. -/
def Violation.message : Violation → String
  | secondSchema => "Must provide only one schema definition."
  | repeatedOperation kind => s!"There can be only one {kind.word} type in schema."
  | repeatedType name => s!"There can be only one type named '{name}'."
  | repeatedEnumValue typeName value =>
    s!"Enum value '{typeName}.{value}' can only be defined once."
  | repeatedField typeName field => s!"Field '{typeName}.{field}' can only be defined once."
  | repeatedArgumentDef owner argument =>
    s!"Argument '{owner}({argument}:)' can only be defined once."
  | repeatedDirectiveDef name => s!"There can be only one directive named '@{name}'."
  | unknownType name alike => s!"Unknown type '{name}'." ++ didYouMean alike
  | unknownDirective name => s!"Unknown directive '@{name}'."
  | misplacedDirective name location =>
    s!"Directive '@{name}' may not be used on {location.words}."
  | repeatedDirective name => s!"The directive '@{name}' can only be used once at this location."
  | extensionOfOtherKind name kind => s!"Cannot extend non-{kind.word} type '{name}'."
  | extensionOfUnknown name alike =>
    s!"Cannot extend type '{name}' because it is not defined." ++ didYouMean alike
  | unknownArgument directive argument alike =>
    s!"Unknown argument '{argument}' on directive '@{directive}'." ++ didYouMean alike
  | repeatedArgument name => s!"There can be only one argument named '{name}'."
  | repeatedMember name => s!"There can be only one input field named '{name}'."
  | missingArgument directive argument type =>
    s!"Directive '@{directive}' argument '{argument}' of type '{type.text}' is required, "
      ++ "but it was not provided."

end Supergraph.Sdl
