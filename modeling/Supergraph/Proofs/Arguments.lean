import Supergraph.Join.Claim
import Supergraph.Proofs.Traced

/-!
# What directives claim

A directive of the join namespace makes a claim when its arguments are of the right kinds. The claim
then says what the arguments say, and an argument that is absent or null says nothing.

## Main definitions

* `Join.ArgumentKind.Admits` — the arguments of a kind
* `Join.TypeClaim.ofApplication`, `Join.FieldClaim.ofApplication` — what directives claim
* `Join.FitsType`, `Join.FitsField` — directives whose arguments are of the right kinds

## Main results

* `Join.typeClaimsOf_eq_ok_iff`, `Join.fieldClaimsOf_eq_ok_iff` — when claims are read, and which
-/

namespace Supergraph.Join

/-! ### Arguments -/

/-- The kind that a literal is of, if it is of one. -/
def ArgumentKind.ofLiteral? : Sdl.Literal → Option ArgumentKind
  | .enum _ => some .enumValue
  | .string _ => some .text
  | .bool _ => some .truth
  | _ => none

/-- An argument of a kind is absent, or null, or a literal of the kind. -/
def ArgumentKind.Admits (kind : ArgumentKind) (argument : Option Sdl.Literal) : Prop :=
  ∀ l ∈ argument, l = .null ∨ ofLiteral? l = some kind

/-- The enum value that an argument says, if it is one. -/
def enumValue? (a : Sdl.Application) (name : String) : Option String :=
  match argument? a name with
  | some (.enum value) => some value
  | _ => none

/-- The text that an argument says, if it is one. -/
def textValue? (a : Sdl.Application) (name : String) : Option String :=
  match argument? a name with
  | some (.string value) => some value
  | _ => none

/-- The truth value that an argument says, false if it is none. -/
def truthValue (a : Sdl.Application) (name : String) : Bool :=
  match argument? a name with
  | some (.bool value) => value
  | _ => false

section Argument

variable {a : Sdl.Application} {name : String}

theorem enumArgument_eq_ok_iff {value : Option String} :
    enumArgument a name = .ok value ↔
      ArgumentKind.enumValue.Admits (argument? a name) ∧ enumValue? a name = value := by
  rw [enumArgument, enumValue?]
  cases argument? a name with
  | none => simp [ArgumentKind.Admits]
  | some l => cases l <;> simp [ArgumentKind.Admits, ArgumentKind.ofLiteral?]

theorem textArgument_eq_ok_iff {value : Option String} :
    textArgument a name = .ok value ↔
      ArgumentKind.text.Admits (argument? a name) ∧ textValue? a name = value := by
  rw [textArgument, textValue?]
  cases argument? a name with
  | none => simp [ArgumentKind.Admits]
  | some l => cases l <;> simp [ArgumentKind.Admits, ArgumentKind.ofLiteral?]

theorem truthArgument_eq_ok_iff {value : Bool} :
    truthArgument a name = .ok value ↔
      ArgumentKind.truth.Admits (argument? a name) ∧ truthValue a name = value := by
  rw [truthArgument, truthValue]
  cases argument? a name with
  | none => simp [ArgumentKind.Admits]
  | some l => cases l <;> simp [ArgumentKind.Admits, ArgumentKind.ofLiteral?]

end Argument

/-! ### Claims -/

/-- What a directive claims of its type. -/
def TypeClaim.ofApplication (a : Sdl.Application) : TypeClaim :=
  ⟨enumValue? a "graph", textValue? a "key"⟩

/-- What a directive claims of its field. -/
def FieldClaim.ofApplication (a : Sdl.Application) : FieldClaim :=
  ⟨enumValue? a "graph", truthValue a "external"⟩

/-- The arguments of a directive that claims a type are of the right kinds. -/
structure FitsType (a : Sdl.Application) : Prop where
  graph : ArgumentKind.enumValue.Admits (argument? a "graph")
  key : ArgumentKind.text.Admits (argument? a "key")

/-- The arguments of a directive that claims a field are of the right kinds. -/
structure FitsField (a : Sdl.Application) : Prop where
  graph : ArgumentKind.enumValue.Admits (argument? a "graph")
  external : ArgumentKind.truth.Admits (argument? a "external")

theorem typeClaim_eq_ok_iff {a : Sdl.Application} {claim : TypeClaim} :
    typeClaim a = .ok claim ↔ FitsType a ∧ claim = .ofApplication a := by
  simp only [typeClaim, bind_except_eq_ok_iff, enumArgument_eq_ok_iff, textArgument_eq_ok_iff]
  constructor
  · rintro ⟨_, ⟨graph, rfl⟩, _, ⟨key, rfl⟩, last⟩
    exact ⟨⟨graph, key⟩, (Except.ok.inj last).symm⟩
  · rintro ⟨⟨graph, key⟩, rfl⟩
    exact ⟨_, ⟨graph, rfl⟩, _, ⟨key, rfl⟩, rfl⟩

theorem fieldClaim_eq_ok_iff {a : Sdl.Application} {claim : FieldClaim} :
    fieldClaim a = .ok claim ↔ FitsField a ∧ claim = .ofApplication a := by
  simp only [fieldClaim, bind_except_eq_ok_iff, enumArgument_eq_ok_iff, truthArgument_eq_ok_iff]
  constructor
  · rintro ⟨_, ⟨graph, rfl⟩, _, ⟨external, rfl⟩, last⟩
    exact ⟨⟨graph, external⟩, (Except.ok.inj last).symm⟩
  · rintro ⟨⟨graph, external⟩, rfl⟩
    exact ⟨_, ⟨graph, rfl⟩, _, ⟨external, rfl⟩, rfl⟩

variable {applied : List Sdl.Application}

/-- The claims on a type are read when the arguments of all of them are of the right kinds. -/
theorem typeClaimsOf_eq_ok_iff {claims : List TypeClaim} :
    typeClaimsOf applied = .ok claims ↔
      (∀ a ∈ appliedAs "join__type" applied, FitsType a) ∧
        claims = (appliedAs "join__type" applied).map .ofApplication := by
  simp only [typeClaimsOf, mapM_except_eq_ok_iff, typeClaim_eq_ok_iff, forall₂_map_iff]

/-- The claims on a field are read when the arguments of all of them are of the right kinds. -/
theorem fieldClaimsOf_eq_ok_iff {claims : List FieldClaim} :
    fieldClaimsOf applied = .ok claims ↔
      (∀ a ∈ appliedAs "join__field" applied, FitsField a) ∧
        claims = (appliedAs "join__field" applied).map .ofApplication := by
  simp only [fieldClaimsOf, mapM_except_eq_ok_iff, fieldClaim_eq_ok_iff, forall₂_map_iff]

end Supergraph.Join
