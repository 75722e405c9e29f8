import Supergraph.Join.Claim
import Supergraph.Plan.Basic

/-!
# The registry of subgraphs

The values of the enum `join__Graph` stand for the subgraphs; a directive on each value gives the
name and the address.

## Main definitions

* `RegistryFault` — what may be wrong with a value of the enum
* `RegistryError` — why there is no registry
* `registry` — the subgraphs of a schema
-/

namespace Supergraph.Join

/-- The enum whose values stand for the subgraphs. -/
def graphEnum : String := "join__Graph"

/-- What is wrong with a value of the enum. -/
inductive RegistryFault where
  | undefinedValue (key : String)
  | noDirective (key : String)
  | noArgument (key argument : String)
  deriving DecidableEq, Repr

/-- The wording of the fault. -/
def RegistryFault.message : RegistryFault → String
  | undefinedValue key => s!"{graphEnum}.{key}: enum value definition cannot be null"
  | noDirective key => s!"{graphEnum}.{key}: missing @join__graph"
  | noArgument key argument => s!"{graphEnum}.{key}: missing '{argument}' argument"

/-- Why there is no registry. -/
inductive RegistryError where
  /-- The type of the name is no enum. -/
  | notEnum
  | faults (list : List RegistryFault)
  | wrongArgument (cause : WrongArgument)
  deriving DecidableEq, Repr

/-- The messages of the error, one for each fault. -/
def RegistryError.messages : RegistryError → List String
  | notEnum => [s!"{graphEnum} must be an enum type"]
  | faults list => list.map RegistryFault.message
  | wrongArgument cause => [cause.message]

/-- The subgraph that a value of the enum stands for, or the faults of the value. -/
def subgraphOf (key : String) (value : Schema.EnumValue) :
    Except WrongArgument (Except (List RegistryFault) Subgraph) :=
  match value.applied? with
  | none => .ok (.error [.undefinedValue key])
  | some applied =>
    match appliedAs "join__graph" applied with
    | [] => .ok (.error [.noDirective key])
    -- Further directives of the name on the same value say nothing.
    | a :: _ => do
      let name ← textArgument a "name"
      let url ← textArgument a "url"
      match name, url with
      | some name, some url => return .ok ⟨key, name, url⟩
      | none, some _ => return .error [.noArgument key "name"]
      | some _, none => return .error [.noArgument key "url"]
      | none, none => return .error [.noArgument key "name", .noArgument key "url"]

/-- The subgraphs of the values of the enum. An argument of the wrong kind ends the reading; other
faults are collected. -/
def registryOf (values : Table Schema.EnumValue) : Except RegistryError (Table Subgraph) := do
  let read ← (values.entries.mapM fun (key, value) => subgraphOf key value).mapError .wrongArgument
  let faults := read.flatMap fun
    | .error faults => faults
    | .ok _ => []
  if faults.isEmpty then
    return Table.ofList (read.filterMap fun
      | .ok s => some (s.key, s)
      | .error _ => none)
  else throw (.faults faults)

/-- The subgraphs of a schema, none if it has no registry. -/
def registry? (schema : Schema) : Except RegistryError (Option (Table Subgraph)) :=
  match schema.body? graphEnum with
  | none => .ok none
  | some (.enum values) => (registryOf values).map some
  | some _ => .error .notEnum

end Supergraph.Join
