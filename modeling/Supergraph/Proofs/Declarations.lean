import Supergraph.Plan.Declarations
import Supergraph.Proofs.Schema.Loaded

/-!
# Which types are declared

The declarations of a plan are those of the types with names for declared types, in the order of the
types and each once; only standard scalars have none. The declaration of a type lists the fields of
the type with their hints, or its members.

## Main definitions

* `Schema.TypeBody.isStandardScalar` — the types without a declaration
* `Schema.TypeBody.declaredFields`, `Schema.TypeBody.declaredMembers` — what a type is declared with

## Main results

* `Federation.names_declarations` — the names of the declarations, in order
* `Federation.count_names_declarations` — a type is declared once or not at all
* `Federation.describes_of_mem_declarations` — what a declaration says of its type
-/

namespace Supergraph

namespace Schema.TypeBody

/-- Whether the type is a scalar that every schema has. -/
def isStandardScalar : TypeBody → Bool
  | scalar isStandard => isStandard
  | _ => false

/-- The fields that a type is declared with, and their types. -/
def declaredFields : TypeBody → List (String × TypeRef)
  | object _ fields | interface _ fields => fields.entries.map fun f => (f.1, f.2.type)
  | input fields _ => fields.entries.map fun f => (f.1, f.2.type)
  | _ => []

/-- The members that a type is declared with. -/
def declaredMembers : TypeBody → List String
  | union members => members
  | enum values => values.keys
  | _ => []

/-- The kind of declaration of a type. -/
def declarationKind : TypeBody → DeclarationKind
  | scalar _ => .scalar
  | object .. => .object
  | interface .. => .interface
  | union _ => .union
  | enum _ => .enum
  | input .. => .input

end Schema.TypeBody

namespace Federation

variable {fed : Federation}

/-- The hint of a type reference: that of its shape, or the opaque one. -/
def hintFor (fed : Federation) (ref : TypeRef) : String :=
  match Shape.ofTypeRef fed.schema ref with
  | .ok shape => shape.hint
  | .error _ => Shape.opaqueHint

/-- A declaration gives the kind, the fields and the members of a type. -/
structure Describes (fed : Federation) (d : Declaration) (body : Schema.TypeBody) : Prop where
  kind : d.kind = body.declarationKind
  fields : d.fields = body.declaredFields.map fun f => ⟨f.1, fed.hintFor f.2⟩
  members : d.members = body.declaredMembers

theorem result_hintOf (fed : Federation) (type field : String) (ref : TypeRef) :
    (fed.hintOf type field ref).result = .ok (fed.hintFor ref) := by
  rw [hintOf, hintFor]
  cases Shape.ofTypeRef fed.schema ref <;> rfl

theorem fieldHint_of_result {type field : String} {isDefined : Bool} {ref : TypeRef}
    {hint : FieldHint} (made : (fed.fieldHint type field isDefined ref).result = .ok hint) :
    hint = ⟨field, fed.hintFor ref⟩ := by
  rw [fieldHint] at made
  cases isDefined with
  | false => cases made
  | true =>
    obtain ⟨_, rendered, last⟩ := Traced.bind_eq_ok_iff.1 made
    rw [result_hintOf] at rendered
    cases rendered
    cases last
    rfl

/-- Fields are declared in their order, each with the hint of its type. -/
theorem hints_of_result {α : Type} {type : String} (isDefined : α → Bool) (ref : α → TypeRef)
    {fields : List (String × α)} {hints : List FieldHint}
    (made : (fields.mapM fun (name, f) =>
      fed.fieldHint type name (isDefined f) (ref f)).result = .ok hints) :
    hints = (fields.map fun f => (f.1, ref f.2)).map fun f => ⟨f.1, fed.hintFor f.2⟩ := by
  have paired := Traced.mapM_eq_ok_iff.1 made
  clear made
  induction paired with
  | nil => rfl
  | cons first _ ih =>
    rw [fieldHint_of_result first, ih]
    rfl

/-- A type is declared under its name, as it is; only standard scalars are not declared. -/
theorem describes_of_declarationOf? {name : String} {type : Schema.NamedType}
    {outcome : Option Declaration}
    (made : (fed.declarationOf? name type).result = .ok outcome) :
    if type.body.isStandardScalar then outcome = none
    else ∃ d, outcome = some d ∧ d.name = name ∧ fed.Describes d type.body := by
  obtain ⟨description, applied, body⟩ := type
  have hinted : ∀ {fields : Table Schema.Field} {hints : List FieldHint},
      (fed.fieldHints name fields).result = .ok hints →
        hints = (fields.entries.map fun f => (f.1, f.2.type)).map
          fun f => ⟨f.1, fed.hintFor f.2⟩ :=
    fun read => hints_of_result (fun f : Schema.Field => f.applied?.isSome) Schema.Field.type read
  cases body with
  | scalar isStandard =>
    cases isStandard with
    | true => exact (Except.ok.inj made).symm
    | false => exact ⟨_, (Except.ok.inj made).symm, rfl, rfl, rfl, rfl⟩
  | union => exact ⟨_, (Except.ok.inj made).symm, rfl, rfl, rfl, rfl⟩
  | enum => exact ⟨_, (Except.ok.inj made).symm, rfl, rfl, rfl, rfl⟩
  | input fields =>
    obtain ⟨hints, read, last⟩ := Traced.bind_eq_ok_iff.1 made
    exact ⟨_, (Except.ok.inj last).symm, rfl, rfl,
      hints_of_result Schema.InputValue.isDefined Schema.InputValue.type read, rfl⟩
  | interface _ fields =>
    obtain ⟨hints, read, last⟩ := Traced.bind_eq_ok_iff.1 made
    exact ⟨_, (Except.ok.inj last).symm, rfl, rfl, hinted read, rfl⟩
  | object _ fields =>
    obtain ⟨hints, read, last⟩ := Traced.bind_eq_ok_iff.1 made
    exact ⟨_, (Except.ok.inj last).symm, rfl, rfl, hinted read, rfl⟩

/-! ### All declarations -/

/-- The types that are declared, in their order. -/
def declaredTypes (fed : Federation) : List (String × Schema.NamedType) :=
  fed.schema.types.entries.filter fun t => !t.2.body.isStandardScalar && isDeclaredName t.1

theorem forall₂_declared {types : List (String × Schema.NamedType)}
    {found : List (Option Declaration)}
    (paired : List.Forall₂ (fun t outcome =>
      (fed.declarationOf? t.1 t.2).result = .ok outcome) types found) :
    List.Forall₂ (fun t d => d.name = t.1 ∧ fed.Describes d t.2.body)
      (types.filter fun t => !t.2.body.isStandardScalar) (found.filterMap id) := by
  induction paired with
  | nil => exact .nil
  | @cons t outcome _ _ first _ ih =>
    have declared := describes_of_declarationOf? first
    rw [List.filter_cons]
    cases standard : t.2.body.isStandardScalar with
    | true =>
      rw [standard, if_pos rfl] at declared
      subst declared
      exact ih
    | false =>
      rw [standard, if_neg (by simp)] at declared
      obtain ⟨d, rfl, named, describes⟩ := declared
      exact .cons ⟨named, describes⟩ ih

/-- The declarations are those of the declared types, one after the other. -/
theorem forall₂_declarations {ds : List Declaration} (made : fed.declarations.result = .ok ds) :
    List.Forall₂ (fun t d => d.name = t.1 ∧ fed.Describes d t.2.body) fed.declaredTypes ds := by
  obtain ⟨found, read, made⟩ := Traced.bind_eq_ok_iff.1 made
  obtain ⟨_, _, last⟩ := Traced.bind_eq_ok_iff.1 made
  cases last
  have paired := forall₂_declared (Traced.mapM_eq_ok_iff.1 read)
  rwa [List.filter_filter] at paired

theorem names_declarations {ds : List Declaration} (made : fed.declarations.result = .ok ds) :
    ds.map Declaration.name = fed.declaredTypes.map Prod.fst := by
  have paired := forall₂_declarations made
  clear made
  generalize fed.declaredTypes = types at paired
  induction paired with
  | nil => rfl
  | cons first _ ih => rw [List.map_cons, List.map_cons, first.1, ih]

theorem nodup_names_declarations {ds : List Declaration}
    (made : fed.declarations.result = .ok ds) : (ds.map Declaration.name).Nodup := by
  rw [names_declarations made]
  exact (List.filter_sublist.map Prod.fst).nodup fed.schema.types.nodup_names

theorem mem_declaredTypes_iff {name : String} :
    name ∈ fed.declaredTypes.map Prod.fst ↔ isDeclaredName name ∧
      ∃ body, fed.schema.body? name = some body ∧ body.isStandardScalar = false := by
  simp only [declaredTypes, List.mem_map, List.mem_filter, Bool.and_eq_true, Bool.not_eq_true',
    Prod.exists, exists_and_right, exists_eq_right, Schema.body?_eq_some_iff]
  constructor
  · rintro ⟨type, member, other, declared⟩
    exact ⟨declared, type.body, ⟨type, member, rfl⟩, other⟩
  · rintro ⟨declared, _, ⟨type, member, rfl⟩, other⟩
    exact ⟨type, member, other, declared⟩

/-- A type of the schema that is no standard scalar is declared once if its name is one of declared
types, and otherwise not at all. -/
theorem count_names_declarations {ds : List Declaration}
    (made : fed.declarations.result = .ok ds) {name : String} {body : Schema.TypeBody}
    (present : fed.schema.body? name = some body) (other : body.isStandardScalar = false) :
    (ds.map Declaration.name).count name = if isDeclaredName name then 1 else 0 := by
  rw [(nodup_names_declarations made).count, names_declarations made]
  simp only [mem_declaredTypes_iff]
  simp [present, other]

/-- A declaration describes the type of its name. -/
theorem describes_of_mem_declarations {ds : List Declaration}
    (made : fed.declarations.result = .ok ds) {d : Declaration} (member : d ∈ ds) :
    ∃ body, fed.schema.body? d.name = some body ∧ fed.Describes d body := by
  obtain ⟨t, among, named, describes⟩ := exists_left_of_forall₂ (forall₂_declarations made) member
  refine ⟨t.2.body, Schema.body?_eq_some_iff.2 ⟨t.2, ?_, rfl⟩, describes⟩
  rw [named]
  exact List.mem_of_mem_filter among

end Federation

end Supergraph
