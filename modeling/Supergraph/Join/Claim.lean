import Supergraph.Join.Ownership
import Supergraph.Schema.Basic

/-!
# Reading claims

Subgraphs, claims on types and claims on fields are written as directives of the join namespace. An
argument that is absent or null says nothing; one of another kind than it should be is refused.

## Main definitions

* `WrongArgument` — an argument of the wrong kind, with its wording
* `enumArgument`, `textArgument`, `truthArgument` — arguments by their kinds
* `typeClaims`, `fieldClaims` — the claims on a type and on a field
-/

namespace Supergraph.Join

/-- The kinds of arguments. -/
inductive ArgumentKind where
  | enumValue
  | text
  | truth
  deriving DecidableEq, Repr

/-- The words for the kind. -/
def ArgumentKind.words : ArgumentKind → String
  | enumValue => "an enum value"
  | text => "a string"
  | truth => "a boolean"

/-- An argument that is not of the kind it has to be. -/
structure WrongArgument where
  directive : String
  argument : String
  kind : ArgumentKind
  deriving DecidableEq, Repr

/-- The wording of the error. -/
def WrongArgument.message (e : WrongArgument) : String :=
  s!"@{e.directive} argument '{e.argument}' must be {e.kind.words}"

/-- The first argument of a name. -/
def argument? (a : Sdl.Application) (name : String) : Option Sdl.Literal :=
  a.arguments.lookup name

/-- The enum value that an argument gives. -/
def enumArgument (a : Sdl.Application) (name : String) : Except WrongArgument (Option String) :=
  match argument? a name with
  | none | some .null => .ok none
  | some (.enum value) => .ok (some value)
  | some _ => .error ⟨a.name, name, .enumValue⟩

/-- The text that an argument gives. -/
def textArgument (a : Sdl.Application) (name : String) : Except WrongArgument (Option String) :=
  match argument? a name with
  | none | some .null => .ok none
  | some (.string value) => .ok (some value)
  | some _ => .error ⟨a.name, name, .text⟩

/-- The truth value that an argument gives, false if it gives none. -/
def truthArgument (a : Sdl.Application) (name : String) : Except WrongArgument Bool :=
  match argument? a name with
  | none | some .null => .ok false
  | some (.bool value) => .ok value
  | some _ => .error ⟨a.name, name, .truth⟩

/-- The directives of a name among those that are applied. -/
def appliedAs (name : String) (applied : List Sdl.Application) : List Sdl.Application :=
  applied.filter fun a => a.name = name

/-- The claim that a directive makes on its type. -/
def typeClaim (a : Sdl.Application) : Except WrongArgument TypeClaim := do
  let graph ← enumArgument a "graph"
  let key ← textArgument a "key"
  return ⟨graph, key⟩

/-- The claim that a directive makes on its field. -/
def fieldClaim (a : Sdl.Application) : Except WrongArgument FieldClaim := do
  let graph ← enumArgument a "graph"
  let external ← truthArgument a "external"
  return ⟨graph, external⟩

/-- The claims among the directives that are applied to a type. -/
def typeClaimsOf (applied : List Sdl.Application) : Except WrongArgument (List TypeClaim) :=
  (appliedAs "join__type" applied).mapM typeClaim

/-- The claims among the directives that are applied to a field. -/
def fieldClaimsOf (applied : List Sdl.Application) : Except WrongArgument (List FieldClaim) :=
  (appliedAs "join__field" applied).mapM fieldClaim

/-- The claims on an object type. Other types have none. -/
def typeClaims (schema : Schema) (type : String) : Except WrongArgument (List TypeClaim) :=
  match schema.types.get? type with
  | some ⟨_, applied, .object ..⟩ => typeClaimsOf applied
  | _ => .ok []

/-- The claims on a field of an object type. -/
def fieldClaims (schema : Schema) (type field : String) :
    Except WrongArgument (List FieldClaim) :=
  match (schema.fieldsOf? type).bind fun fields => fields.get? field with
  | some f => fieldClaimsOf (f.applied?.getD [])
  | none => .ok []

end Supergraph.Join
