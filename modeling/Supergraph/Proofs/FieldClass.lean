import Supergraph.Plan.Entity
import Supergraph.Proofs.Traced

/-!
# The classes of the fields of an entity

A field of an entity is planned, or a key, or unowned. Which of them it is depends on its owner and
on the keys of the entity alone, and it decides what planning the field gives and warns of.

## Main definitions

* `FieldClass`, `HasClass` — the three classes, and when a field belongs to each
* `Federation.resolvedOwner?` — the owner of a field by the claims on it and on its type
* `Federation.fieldsOfClass` — the fields of an entity that belong to a class

## Main results

* `exists_unique_class` — a field belongs to exactly one class
* `Federation.disposition_eq_ok_iff` — what becomes of a field, by its owner and the keys
* `Federation.planField_eq_ok_iff`, `Federation.warnings_planField` — planning the field
-/

namespace Supergraph

/-- The classes of the fields of an entity. -/
inductive FieldClass where
  | planned
  | key
  | unowned
  deriving DecidableEq, Repr

/-- When a field of a name and an owner belongs to a class, among the given keys. -/
inductive HasClass (keys : Table String) (name : String) : Option String → FieldClass → Prop
  | planned {graph : String} (other : keys.get? graph ≠ some name) :
      HasClass keys name (some graph) .planned
  | ownKey {graph : String} (own : keys.get? graph = some name) :
      HasClass keys name (some graph) .key
  | sharedKey (shared : name ∈ keys.values) : HasClass keys name none .key
  | unowned (absent : name ∉ keys.values) : HasClass keys name none .unowned

/-- The class of a field of a name and an owner, among the given keys. -/
def classOf (keys : Table String) (name : String) : Option String → FieldClass
  | some graph => if keys.get? graph = some name then .key else .planned
  | none => if name ∈ keys.values then .key else .unowned

section HasClass

variable {keys : Table String} {name : String} {owner : Option String} {c : FieldClass}

theorem hasClass_iff : HasClass keys name owner c ↔ classOf keys name owner = c := by
  constructor
  · rintro (other | own | shared | absent)
    · exact if_neg other
    · exact if_pos own
    · exact if_pos shared
    · exact if_neg absent
  · rintro rfl
    cases owner with
    | some graph =>
      rw [classOf]
      split
      next own => exact .ownKey own
      next other => exact .planned other
    | none =>
      rw [classOf]
      split
      next shared => exact .sharedKey shared
      next absent => exact .unowned absent

/-- A field belongs to exactly one class. -/
theorem exists_unique_class (keys : Table String) (name : String) (owner : Option String) :
    ∃! c, HasClass keys name owner c :=
  ⟨classOf keys name owner, hasClass_iff.2 rfl, fun _ belongs => (hasClass_iff.1 belongs).symm⟩

end HasClass

namespace Disposition

/-- The class that a field has been put into. -/
def fieldClass : Disposition → FieldClass
  | planned _ => .planned
  | key => .key
  | unowned => .unowned

/-- The plan of a field, if it has been planned. -/
def plan? : Disposition → Option FieldPlan
  | planned plan => some plan
  | _ => none

/-- The warnings about a field, of which there is one if nobody owns it. -/
def warnings (type name : String) : Disposition → List Warning
  | unowned => [unownedWarning type name]
  | _ => []

end Disposition

namespace Federation

/-- The owner of a field by the claims on the field and on its type. -/
def resolvedOwner? (fed : Federation) (type field : String) : Except Failure (Option String) := do
  fed.ownerOf? type field (← fed.typeClaims type)

/-- The names of the fields of an object type, none for another type. -/
def fieldNames (fed : Federation) (type : String) : List String :=
  ((fed.schema.fieldsOf? type).map Table.keys).getD []

/-- Whether a field of an entity belongs to a class. -/
def isOfClass (fed : Federation) (entity : EntityPlan) (c : FieldClass) (field : String) : Bool :=
  match fed.resolvedOwner? entity.typeName field with
  | .ok owner => classOf entity.keys field owner = c
  | .error _ => false

/-- The fields of an entity that belong to a class, in the order of the type. -/
def fieldsOfClass (fed : Federation) (entity : EntityPlan) (c : FieldClass) : List String :=
  (fed.fieldNames entity.typeName).filter (fed.isOfClass entity c)

variable {fed : Federation} {type name : String} {claims : List Join.TypeClaim}
  {keys : Table String} {field : Schema.Field}

theorem resolvedOwner?_eq (claimed : fed.typeClaims type = .ok claims) (field : String) :
    fed.resolvedOwner? type field = fed.ownerOf? type field claims := by
  rw [resolvedOwner?, claimed]
  rfl

theorem fieldsOf_eq_ok_iff {fields : Table Schema.Field} :
    fed.fieldsOf type = .ok fields ↔ fed.schema.fieldsOf? type = some fields := by
  rw [fieldsOf]
  cases fed.schema.fieldsOf? type <;> simp

theorem fieldNames_eq {fields : Table Schema.Field} (declared : fed.fieldsOf type = .ok fields) :
    fed.fieldNames type = fields.keys := by
  rw [fieldNames, fieldsOf_eq_ok_iff.1 declared]
  rfl

/-- What becomes of a field of a name and an owner, among the given keys. A planned field is defined
and its type has a shape. -/
inductive Disposed (fed : Federation) (keys : Table String) (name : String)
    (field : Schema.Field) : Option String → Disposition → Prop
  | planned {graph : String} {shape : Shape} (other : keys.get? graph ≠ some name)
      (defined : field.applied?.isSome) (shaped : fed.shapeOf field.type = .ok shape) :
      Disposed fed keys name field (some graph) (.planned ⟨name, shape, graph⟩)
  | ownKey {graph : String} (own : keys.get? graph = some name) :
      Disposed fed keys name field (some graph) .key
  | sharedKey (shared : name ∈ keys.values) : Disposed fed keys name field none .key
  | unowned (absent : name ∉ keys.values) : Disposed fed keys name field none .unowned

theorem Disposed.hasClass {owner : Option String} {d : Disposition}
    (disposed : fed.Disposed keys name field owner d) :
    HasClass keys name owner d.fieldClass := by
  cases disposed with
  | planned other _ _ => exact .planned other
  | ownKey own => exact .ownKey own
  | sharedKey shared => exact .sharedKey shared
  | unowned absent => exact .unowned absent

theorem disposition_of_no_owner (unowned : fed.ownerOf? type name claims = .ok none) :
    fed.disposition type claims keys name field =
      .ok (if name ∈ keys.values then .key else .unowned) := by
  rw [disposition, unowned]
  change Except.ok _ = Except.ok _
  simp only [List.contains_iff_mem]

theorem disposition_of_owner {graph : String}
    (owned : fed.ownerOf? type name claims = .ok (some graph)) :
    fed.disposition type claims keys name field =
      if keys.get? graph = some name then .ok .key
      else if field.applied?.isNone then .error (.undefinedField type name)
      else (fed.shapeOf field.type).map fun shape => .planned ⟨name, shape, graph⟩ := by
  rw [disposition, owned]
  change (if _ then _ else _) = _
  congr 2

/-- A field is disposed of as its owner and the keys of its type say. -/
theorem disposition_eq_ok_iff {d : Disposition} :
    fed.disposition type claims keys name field = .ok d ↔
      ∃ owner, fed.ownerOf? type name claims = .ok owner ∧
        fed.Disposed keys name field owner d := by
  constructor
  · intro made
    cases owned : fed.ownerOf? type name claims with
    | error e => simp [disposition, owned, bind, Except.bind] at made
    | ok owner =>
      refine ⟨owner, rfl, ?_⟩
      cases owner with
      | none =>
        -- Nobody owns the field, so the keys of all graphs count.
        rw [disposition_of_no_owner owned, Except.ok.injEq] at made
        subst made
        split
        next shared => exact .sharedKey shared
        next absent => exact .unowned absent
      | some graph =>
        -- Only the key of the owning graph counts, whatever the keys of the others are.
        rw [disposition_of_owner owned] at made
        split at made
        next own =>
          cases made
          exact .ownKey own
        next other =>
          split at made
          next => cases made
          next defined =>
            cases shaped : fed.shapeOf field.type with
            | error e => simp [shaped, Except.map] at made
            | ok shape =>
              simp only [shaped, Except.map, Except.ok.injEq] at made
              subst made
              exact .planned other (by simpa [← Option.isSome_iff_ne_none] using defined) shaped
  · rintro ⟨owner, owned, disposed⟩
    cases disposed with
    | planned other defined shaped =>
      have present : field.applied? ≠ none := Option.isSome_iff_ne_none.1 defined
      rw [disposition_of_owner owned, if_neg other, if_neg (by simp [present]), shaped]
      rfl
    | ownKey own => rw [disposition_of_owner owned, if_pos own]
    | sharedKey shared => rw [disposition_of_no_owner owned, if_pos shared]
    | unowned absent => rw [disposition_of_no_owner owned, if_neg absent]

/-- Planning a field succeeds when it is known what becomes of the field. -/
theorem planField_eq_ok_iff {outcome : Option FieldPlan} :
    (fed.planField type claims keys name field).result = .ok outcome ↔
      ∃ d, fed.disposition type claims keys name field = .ok d ∧ outcome = d.plan? := by
  rw [planField, Traced.bind_eq_ok_iff]
  constructor
  · rintro ⟨d, checked, rest⟩
    refine ⟨d, Traced.result_check_eq_ok_iff.1 checked, ?_⟩
    cases d <;> exact (Except.ok.inj rest).symm
  · rintro ⟨d, disposed, rfl⟩
    refine ⟨d, Traced.result_check_eq_ok_iff.2 disposed, ?_⟩
    cases d <;> rfl

/-- Planning a field warns of it when nobody owns it. -/
theorem warnings_planField {d : Disposition}
    (disposed : fed.disposition type claims keys name field = .ok d) :
    (fed.planField type claims keys name field).warnings = d.warnings type name := by
  rw [planField, Traced.warnings_bind (Traced.result_check_eq_ok_iff.2 disposed)]
  cases d <;> rfl

end Federation

end Supergraph
