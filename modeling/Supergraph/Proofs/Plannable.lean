import Supergraph.Proofs.Arguments
import Supergraph.Proofs.Independence
import Supergraph.Proofs.Keys
import Supergraph.Proofs.PlannerHistory

/-!
# When planning fails

Whether the entities can be planned is told by their declarations alone. Every claim has to have
arguments of the right kinds, every claim on the type has to name a registered graph and to come
with a key or an identifier, owners have to be registered, and a field that is planned needs a
definition and a shape. Nothing is asked of the shape of a field that nobody owns or that is the key
of its owner.

## Main definitions

* `Federation.claimsOn`, `Schema.Field.claims` — the directives that claim a type and a field
* `Federation.claimedKeys`, `Federation.claimedOwner?` — the keys and the owners that they yield
* `Federation.IsPlannable` — what is asked of the declaration of an entity

## Main results

* `Federation.exists_disposition_iff` — when it is known what becomes of a field
* `Federation.exists_planEntity_iff` — an object type is planned when it is plannable
* `planning_fails_iff` — the entities cannot be planned when one of them is not plannable
-/

namespace Supergraph

/-- The directives that claim a field. -/
def Schema.Field.claims (field : Schema.Field) : List Sdl.Application :=
  Join.appliedAs "join__field" (field.applied?.getD [])

namespace Federation

/-- The directives that claim a type. -/
def claimsOn (fed : Federation) (type : String) : List Sdl.Application :=
  Join.appliedAs "join__type" ((fed.schema.appliedTo? type).getD [])

/-- What the directives claim of a type. -/
def statedClaims (fed : Federation) (type : String) : List Join.TypeClaim :=
  (fed.claimsOn type).map .ofApplication

/-- The keys of a type that its claims yield. -/
def claimedKeys (fed : Federation) (type : String) : Table String :=
  Table.ofList ((fed.statedClaims type).filterMap (fed.keyPair? type))

/-- The owner of a field that its claims and those of its type yield. -/
def claimedOwner? (fed : Federation) (type : String) (field : Schema.Field) : Option String :=
  Join.ownerOf? (field.claims.map .ofApplication) (fed.statedClaims type)

/-- What is asked of the declaration of an entity for it to be planned. -/
structure IsPlannable (fed : Federation) (type : String) : Prop where
  /-- The arguments of all claims are of the right kinds. -/
  arguments : (∀ a ∈ fed.claimsOn type, Join.FitsType a) ∧
    ∀ f ∈ fed.fieldsIn type, ∀ a ∈ f.2.claims, Join.FitsField a
  /-- Every claim on the type names a registered graph, and comes with a key or an identifier. -/
  keyed : ∀ a ∈ fed.claimsOn type,
    (∃ graph ∈ fed.subgraphs.keys, Join.enumValue? a "graph" = some graph) ∧
      ((Join.textValue? a "key").isSome ∨ ∃ f ∈ fed.fieldsIn type, f.2.IsIdentifier)
  /-- The owners of fields are registered. -/
  registered : ∀ f ∈ fed.fieldsIn type, ∀ graph, fed.claimedOwner? type f.2 = some graph →
    graph ∈ fed.subgraphs.keys
  /-- A field that has an owner and is not its key is defined and has a shape. -/
  shaped : ∀ f ∈ fed.fieldsIn type, ∀ graph, fed.claimedOwner? type f.2 = some graph →
    (fed.claimedKeys type).get? graph ≠ some f.1 →
      f.2.applied?.isSome ∧ ∃ shape, fed.shapeOf f.2.type = .ok shape

variable {fed : Federation} {type name graph : String} {claim : Join.TypeClaim}
  {claims : List Join.TypeClaim} {keys : Table String} {field : Schema.Field}
  {fields : Table Schema.Field}

/-! ### Claims -/

theorem typeClaims_eq_ok_iff (object : (fed.schema.fieldsOf? type).isSome) :
    fed.typeClaims type = .ok claims ↔
      (∀ a ∈ fed.claimsOn type, Join.FitsType a) ∧ claims = fed.statedClaims type := by
  cases found : fed.schema.appliedTo? type with
  | none =>
    have absent := Option.map_eq_none_iff.1 found
    rw [Schema.fieldsOf?, Schema.body?, absent] at object
    cases object
  | some applied =>
    rw [typeClaims, typeClaims_of_object object found, mapError_eq_ok_iff,
      Join.typeClaimsOf_eq_ok_iff, statedClaims, claimsOn, found, Option.getD_some]

theorem fieldClaims_eq_ok_iff {made : List Join.FieldClaim}
    (declared : fed.fieldsOf type = .ok fields) (member : (name, field) ∈ fields.entries) :
    fed.fieldClaims type name = .ok made ↔
      (∀ a ∈ field.claims, Join.FitsField a) ∧ made = field.claims.map .ofApplication := by
  rw [fieldClaims, mapError_eq_ok_iff, Join.fieldClaims, fieldsOf_eq_ok_iff.1 declared,
    Option.bind_some, Table.get?_eq_some_iff.2 member]
  exact Join.fieldClaimsOf_eq_ok_iff

/-! ### Fields -/

/-- It is known what becomes of a field when its owner is found and, unless the field is the key of
the owner, the field is defined and has a shape. -/
theorem exists_disposition_iff :
    (∃ fate, fed.disposition type claims keys name field = .ok fate) ↔
      ∃ owner, fed.ownerOf? type name claims = .ok owner ∧
        ∀ graph ∈ owner, keys.get? graph ≠ some name →
          field.applied?.isSome ∧ ∃ shape, fed.shapeOf field.type = .ok shape := by
  simp only [disposition_eq_ok_iff]
  rw [exists_comm]
  refine exists_congr fun owner => ?_
  rw [exists_and_left]
  refine and_congr_right fun _ => ⟨?_, fun shaped => ?_⟩
  · rintro ⟨fate, disposed⟩ graph owned other
    cases disposed with
    | planned _ defined shape => exact ⟨defined, _, shape⟩
    | ownKey own =>
      obtain rfl := Option.some.inj owned
      exact absurd own other
    | sharedKey | unowned => cases owned
  · cases owner with
    | none =>
      -- Without an owner the type of the field is not looked at.
      by_cases shared : name ∈ keys.values
      · exact ⟨_, .sharedKey shared⟩
      · exact ⟨_, .unowned shared⟩
    | some graph =>
      -- Neither is it when the field is the key of its owner.
      by_cases own : keys.get? graph = some name
      · exact ⟨_, .ownKey own⟩
      · obtain ⟨defined, shape, shape⟩ := shaped graph rfl own
        exact ⟨_, .planned own defined shape⟩

/-- It is known what becomes of a field with its claims when they are of the right kinds, its owner
is registered and, unless the field is its key, the field is defined and has a shape. -/
theorem exists_disposition_iff_of_mem (declared : fed.fieldsOf type = .ok fields)
    (member : (name, field) ∈ fields.entries) :
    (∃ fate, fed.disposition type (fed.statedClaims type) keys name field = .ok fate) ↔
      (∀ a ∈ field.claims, Join.FitsField a) ∧
        ∀ graph, fed.claimedOwner? type field = some graph → graph ∈ fed.subgraphs.keys ∧
          (keys.get? graph ≠ some name →
            field.applied?.isSome ∧ ∃ shape, fed.shapeOf field.type = .ok shape) := by
  simp only [exists_disposition_iff, ownerOf?_eq_ok_iff, fieldClaims_eq_ok_iff declared member]
  constructor
  · rintro ⟨owner, ⟨_, ⟨fitting, rfl⟩, rfl, registered⟩, shaped⟩
    exact ⟨fitting, fun graph owned => ⟨registered graph owned, shaped graph owned⟩⟩
  · rintro ⟨fitting, each⟩
    exact ⟨_, ⟨_, ⟨fitting, rfl⟩, rfl, fun graph owned => (each graph owned).1⟩,
      fun graph owned => (each graph owned).2⟩

/-! ### Entities -/

theorem exists_planEntity_iff_exists_reading :
    (∃ entity, (fed.planEntity type).result = .ok entity) ↔
      ∃ claims keys fields, fed.typeClaims type = .ok claims ∧
        (fed.keysFor type claims).result = .ok keys ∧ fed.fieldsOf type = .ok fields ∧
        ∀ f ∈ fields.entries, ∃ fate, fed.disposition type claims keys f.1 f.2 = .ok fate := by
  simp only [planEntity_eq_ok_iff, ← exists_forall₂_iff]
  constructor
  · rintro ⟨_, claims, keys, fields, fates, ⟨claimed, keyed, declared, disposed⟩, _⟩
    exact ⟨claims, keys, fields, claimed, keyed, declared, fates, disposed⟩
  · rintro ⟨claims, keys, fields, claimed, keyed, declared, fates, disposed⟩
    exact ⟨_, claims, keys, fields, fates, ⟨claimed, keyed, declared, disposed⟩, rfl⟩

/-- An object type is planned when it is plannable. -/
theorem exists_planEntity_iff (object : (fed.schema.fieldsOf? type).isSome) :
    (∃ entity, (fed.planEntity type).result = .ok entity) ↔ fed.IsPlannable type := by
  obtain ⟨fields, found⟩ := Option.isSome_iff_exists.1 object
  have declared := fieldsOf_eq_ok_iff.2 found
  have listed := fieldsIn_eq declared
  rw [exists_planEntity_iff_exists_reading]
  simp only [typeClaims_eq_ok_iff object, keysFor_eq_ok_iff, exists_keyPair?_iff]
  constructor
  · rintro ⟨_, _, _, ⟨fitting, rfl⟩, ⟨keyed, rfl⟩, declaredToo, disposed⟩
    -- The claims and the keys are those of the declaration, and the rest is asked of each field.
    obtain rfl := Except.ok.inj (declared.symm.trans declaredToo)
    have each := fun f member =>
      (exists_disposition_iff_of_mem declared member).1 (disposed f member)
    rw [← listed] at each
    exact ⟨⟨fitting, fun f member => (each f member).1⟩, List.forall_mem_map.1 keyed,
      fun f member graph owned => ((each f member).2 graph owned).1,
      fun f member graph owned => ((each f member).2 graph owned).2⟩
  · rintro ⟨⟨fitting, fittingFields⟩, keyed, registered, shaped⟩
    refine ⟨_, _, fields, ⟨fitting, rfl⟩, ⟨List.forall_mem_map.2 keyed, rfl⟩, declared, ?_⟩
    intro f member
    refine (exists_disposition_iff_of_mem declared member).2 ?_
    rw [← listed] at member
    exact ⟨fittingFields f member, fun graph owned =>
      ⟨registered f member graph owned, shaped f member graph owned⟩⟩

/-! ### Unsupported types -/

section Unsupported

variable {cause : UnsupportedType}

theorem typeClaims_ne_unsupported : fed.typeClaims type ≠ .error (.unsupported cause) := by
  intro failed
  obtain ⟨_, _, same⟩ := mapError_eq_error_iff.1 failed
  cases same

theorem fieldClaims_ne_unsupported : fed.fieldClaims type name ≠ .error (.unsupported cause) := by
  intro failed
  obtain ⟨_, _, same⟩ := mapError_eq_error_iff.1 failed
  cases same

theorem requireSubgraph_ne_unsupported {place : String} :
    fed.requireSubgraph graph place ≠ .error (.unsupported cause) := by
  rw [requireSubgraph]
  split <;> simp

theorem fieldsOf_ne_unsupported : fed.fieldsOf type ≠ .error (.unsupported cause) := by
  rw [fieldsOf]
  split <;> simp

theorem keyFor_ne_unsupported :
    (fed.keyFor type claim).result ≠ .error (.unsupported cause) := by
  intro failed
  rw [keyFor] at failed
  split at failed
  · cases failed
  · rcases Traced.bind_eq_error_iff.1 failed with failed | ⟨fields, _, failed⟩
    · exact fieldsOf_ne_unsupported (Traced.result_check_id_eq_error_iff.1 failed)
    · split at failed <;> cases failed

theorem claimedKey_ne_unsupported :
    (fed.claimedKey type claim).result ≠ .error (.unsupported cause) := by
  intro failed
  rw [claimedKey] at failed
  split at failed
  · cases failed
  · rcases Traced.bind_eq_error_iff.1 failed with failed | ⟨_, _, failed⟩
    · exact requireSubgraph_ne_unsupported (Traced.result_check_id_eq_error_iff.1 failed)
    · rcases Traced.bind_eq_error_iff.1 failed with failed | ⟨_, _, failed⟩
      · exact keyFor_ne_unsupported failed
      · cases failed

/-- No shape is asked for to find the keys. -/
theorem keysFor_ne_unsupported :
    (fed.keysFor type claims).result ≠ .error (.unsupported cause) := by
  intro failed
  rcases Traced.bind_eq_error_iff.1 failed with failed | ⟨_, _, failed⟩
  · obtain ⟨_, _, _, _, _, failed⟩ := Traced.exists_first_error failed
    exact claimedKey_ne_unsupported failed
  · cases failed

/-- No shape is asked for to find an owner. -/
theorem ownerOf?_ne_unsupported : fed.ownerOf? type name claims ≠ .error (.unsupported cause) := by
  intro failed
  rcases bind_except_eq_error_iff.1 failed with failed | ⟨_, _, failed⟩
  · exact fieldClaims_ne_unsupported failed
  · split at failed
    · cases failed
    · rcases bind_except_eq_error_iff.1 failed with failed | ⟨_, _, failed⟩
      · exact requireSubgraph_ne_unsupported failed
      · cases failed

/-- A field without a shape is refused only when it has an owner and is not its key. -/
theorem owned_of_disposition_unsupported
    (failed : fed.disposition type claims keys name field = .error (.unsupported cause)) :
    ∃ graph, fed.ownerOf? type name claims = .ok (some graph) ∧ keys.get? graph ≠ some name ∧
      fed.shapeOf field.type = .error (.unsupported cause) := by
  cases owned : fed.ownerOf? type name claims with
  | error e =>
    rw [disposition, owned] at failed
    cases failed
    exact absurd owned ownerOf?_ne_unsupported
  | ok owner =>
    cases owner with
    | none =>
      rw [disposition_of_no_owner owned] at failed
      cases failed
    | some graph =>
      rw [disposition_of_owner owned] at failed
      split at failed
      next => cases failed
      next other =>
        split at failed
        next => cases failed
        next =>
          refine ⟨graph, rfl, other, ?_⟩
          cases shaped : fed.shapeOf field.type with
          | ok shape => simp [shaped, Except.map] at failed
          | error e => simpa [shaped, Except.map] using failed

theorem exists_field_of_planEntity_unsupported (object : (fed.schema.fieldsOf? type).isSome)
    (failed : (fed.planEntity type).result = .error (.unsupported cause)) :
    ∃ f ∈ fed.fieldsIn type, ∃ graph, fed.claimedOwner? type f.2 = some graph ∧
      (fed.claimedKeys type).get? graph ≠ some f.1 ∧
      fed.shapeOf f.2.type = .error (.unsupported cause) := by
  -- Claims, keys and owners are found without looking at types, so that a field is left to stop at.
  have stops := entityStops_of_planEntity failed
  generalize (fed.planEntity type).warnings = told at stops
  cases stops with
  | claims unclaimed => exact absurd unclaimed typeClaims_ne_unsupported
  | keys _ unkeyed => exact absurd unkeyed keysFor_ne_unsupported
  | fields _ _ undeclared => exact absurd undeclared fieldsOf_ne_unsupported
  | @field claims keys fields before after f fates claimed keyed declared listed _ failed =>
    obtain ⟨graph, owned, other, shapeless⟩ := owned_of_disposition_unsupported failed
    obtain ⟨_, rfl⟩ := (typeClaims_eq_ok_iff object).1 claimed
    obtain ⟨_, rfl⟩ := keysFor_eq_ok_iff.1 keyed
    have member : f ∈ fields.entries := by
      rw [listed]
      exact List.mem_append_right _ List.mem_cons_self
    obtain ⟨_, read, yields, _⟩ := ownerOf?_eq_ok_iff.1 owned
    obtain ⟨_, rfl⟩ := (fieldClaims_eq_ok_iff declared member).1 read
    exact ⟨f, fieldsIn_eq declared ▸ member, graph, yields.symm, other, shapeless⟩

end Unsupported

end Federation

/-! ### All entities -/

/-- The entities cannot be planned exactly when one of them is not plannable. When the reason is a
type without a shape, it is the type of a field that has an owner and is not its key. -/
theorem planning_fails_iff (p : Planner) :
    ((∃ e, p.planEntities.1 = .error e) ↔
      ∃ type ∈ p.fed.entities, ¬p.fed.IsPlannable type) ∧
    ∀ cause, p.planEntities.1 = .error (.unsupported cause) →
      ∃ type ∈ p.fed.entities, ∃ f ∈ p.fed.fieldsIn type, ∃ graph,
        p.fed.claimedOwner? type f.2 = some graph ∧
        (p.fed.claimedKeys type).get? graph ≠ some f.1 ∧
        p.fed.shapeOf f.2.type = .error (.unsupported cause) := by
  constructor
  · rw [exists_error_iff, Planner.planEntities, Planner.after, Federation.exists_planEntities_iff,
      not_forall]
    refine exists_congr fun type => ?_
    rw [Classical.not_imp]
    refine and_congr_right fun member => ?_
    rw [Federation.exists_planEntity_iff (Federation.mem_entities_iff.1 member).1]
  · intro cause failed
    obtain ⟨_, type, _, _, listed, _, failed, _⟩ := Federation.planEntities_stops failed
    have member : type ∈ p.fed.entities := by
      rw [listed]
      exact List.mem_append_right _ List.mem_cons_self
    exact ⟨type, member, Federation.exists_field_of_planEntity_unsupported
      (Federation.mem_entities_iff.1 member).1 failed⟩

/-- Grids that two subgraphs know by their rows. The rows are a list of lists, and so are the notes,
which nobody owns; the cells are owned and refer to the given type. -/
def gridPlanner (cells : TypeRef) : Planner :=
  let nested : TypeRef := .list (.list (.named "Int"))
  .ofFederation {
    schema := {
      types := Table.ofList
        [("Grid", ⟨none, [keyedClaim "STORE" "rows", keyedClaim "VIEW" "rows"],
            .object [] (Table.ofList
              [("rows", claimedField nested ["STORE"]), ("notes", claimedField nested []),
                ("cells", claimedField cells ["VIEW"])])⟩),
          ("Int", ⟨none, [], .scalar true⟩)]
      roots := []
      directives := [] }
    subgraphs := Table.ofList
      [("STORE", ⟨"STORE", "store", "http://store"⟩), ("VIEW", ⟨"VIEW", "view", "http://view"⟩)] }

/-- The cells have to have a shape, while the rows and the notes need none. -/
theorem gridPlanner_fails_for_cells :
    (∃ table, (gridPlanner (.named "Int")).planEntities.1 = .ok table) ∧
      ∃ p, p = gridPlanner (.list (.list (.named "Int"))) ∧
        p.planEntities.1 = .error (.unsupported .nestedList) ∧
        (∃ type ∈ p.fed.entities, ¬p.fed.IsPlannable type) ∧
        ∃ type ∈ p.fed.entities, ∃ f ∈ p.fed.fieldsIn type, ∃ graph,
          p.fed.claimedOwner? type f.2 = some graph ∧
          (p.fed.claimedKeys type).get? graph ≠ some f.1 ∧
          p.fed.shapeOf f.2.type = .error (.unsupported .nestedList) := by
  have failed : (gridPlanner (.list (.list (.named "Int")))).planEntities.1 =
      .error (.unsupported .nestedList) := rfl
  obtain ⟨fails, reason⟩ := planning_fails_iff (gridPlanner (.list (.list (.named "Int"))))
  exact ⟨⟨_, rfl⟩, _, rfl, failed, fails.1 ⟨_, failed⟩, reason _ failed⟩

end Supergraph
