import Supergraph.Plan.Compile
import Supergraph.Proofs.FieldClass
import Supergraph.Proofs.Table

/-!
# How plans are made

Planning an entity succeeds when its claims, its keys and its fields can be read and it is known
what becomes of each field; the plan lists what becomes of the fields in their order. All entities
are planned in the order of the types, and the plan of the federation collects them.

## Main results

* `Federation.planEntity_eq_ok_iff`, `Federation.warnings_planEntity` — one entity
* `Federation.planEntities_eq_ok_iff`, `Federation.warnings_planEntities` — all entities
* `Federation.compile_eq_ok_iff`, `Federation.planEntity_of_compile` — the whole plan
-/

namespace Supergraph.Federation

variable {fed : Federation} {type : String} {claims : List Join.TypeClaim} {keys : Table String}
  {fields : Table Schema.Field} {entity : EntityPlan}

/-! ### Keys -/

theorem warnings_keyFor (fed : Federation) (type : String) (claim : Join.TypeClaim) :
    (fed.keyFor type claim).warnings = [] := by
  rw [keyFor]
  split
  · rfl
  · refine Traced.warnings_bind_eq_nil rfl fun fields => ?_
    split <;> rfl

theorem warnings_claimedKey (fed : Federation) (type : String) (claim : Join.TypeClaim) :
    (fed.claimedKey type claim).warnings = [] := by
  rw [claimedKey]
  split
  · rfl
  · exact Traced.warnings_bind_eq_nil rfl fun _ =>
      Traced.warnings_bind_eq_nil (fed.warnings_keyFor type claim) fun _ => rfl

/-- Finding the keys warns of nothing. -/
theorem warnings_keysFor (fed : Federation) (type : String) (claims : List Join.TypeClaim) :
    (fed.keysFor type claims).warnings = [] :=
  Traced.warnings_bind_eq_nil
    (Traced.warnings_mapM_eq_nil (fed.warnings_claimedKey type) claims) fun _ => rfl

/-! ### Entities -/

/-- What becomes of some fields of a type, one after the other. -/
abbrev AllDisposed (fed : Federation) (type : String) (claims : List Join.TypeClaim)
    (keys : Table String) : List (String × Schema.Field) → List Disposition → Prop :=
  List.Forall₂ fun f fate => fed.disposition type claims keys f.1 f.2 = .ok fate

/-- What planning an entity reads before its fields, and what becomes of the fields. -/
structure EntityReading (fed : Federation) (type : String) (claims : List Join.TypeClaim)
    (keys : Table String) (fields : Table Schema.Field) (fates : List Disposition) : Prop where
  claimed : fed.typeClaims type = .ok claims
  keyed : (fed.keysFor type claims).result = .ok keys
  declared : fed.fieldsOf type = .ok fields
  disposed : fed.AllDisposed type claims keys fields.entries fates

theorem mapM_planField_eq_ok_iff {plans : List (Option FieldPlan)}
    {fs : List (String × Schema.Field)} :
    (fs.mapM fun (name, field) => fed.planField type claims keys name field).result = .ok plans ↔
      ∃ fates, fed.AllDisposed type claims keys fs fates ∧
        plans = fates.map Disposition.plan? := by
  rw [Traced.mapM_eq_ok_iff]
  induction fs generalizing plans with
  | nil => simp
  | cons f fs ih =>
    rw [List.forall₂_cons_left_iff]
    constructor
    · rintro ⟨outcome, rest, first, others, rfl⟩
      obtain ⟨fate, disposed, rfl⟩ := planField_eq_ok_iff.1 first
      obtain ⟨fates, disposedRest, rfl⟩ := ih.1 others
      exact ⟨fate :: fates, .cons disposed disposedRest, rfl⟩
    · rintro ⟨_, disposed, rfl⟩
      obtain ⟨fate, fates, first, others, rfl⟩ := List.forall₂_cons_left_iff.1 disposed
      exact ⟨fate.plan?, fates.map Disposition.plan?, planField_eq_ok_iff.2 ⟨fate, first, rfl⟩,
        ih.2 ⟨fates, others, rfl⟩, rfl⟩

/-- The plan of an entity lists what becomes of its fields in their order. -/
theorem planEntity_eq_ok_iff :
    (fed.planEntity type).result = .ok entity ↔
      ∃ claims keys fields fates, fed.EntityReading type claims keys fields fates ∧
        entity = ⟨type, keys, fates.filterMap Disposition.plan?⟩ := by
  constructor
  · intro made
    obtain ⟨claims, claimed, made⟩ := Traced.bind_eq_ok_iff.1 made
    obtain ⟨keys, keyed, made⟩ := Traced.bind_eq_ok_iff.1 made
    obtain ⟨fields, declared, made⟩ := Traced.bind_eq_ok_iff.1 made
    obtain ⟨plans, planned, made⟩ := Traced.bind_eq_ok_iff.1 made
    obtain ⟨fates, disposed, rfl⟩ := mapM_planField_eq_ok_iff.1 planned
    refine ⟨claims, keys, fields, fates, ⟨Traced.result_check_eq_ok_iff.1 claimed, keyed,
      Traced.result_check_eq_ok_iff.1 declared, disposed⟩, ?_⟩
    rw [← Except.ok.inj made, List.filterMap_map, Function.id_comp]
  · rintro ⟨claims, keys, fields, fates, reading, rfl⟩
    refine Traced.bind_eq_ok_iff.2 ⟨claims, Traced.result_check_eq_ok_iff.2 reading.claimed, ?_⟩
    refine Traced.bind_eq_ok_iff.2 ⟨keys, reading.keyed, ?_⟩
    refine Traced.bind_eq_ok_iff.2 ⟨fields, Traced.result_check_eq_ok_iff.2 reading.declared, ?_⟩
    refine Traced.bind_eq_ok_iff.2
      ⟨_, mapM_planField_eq_ok_iff.2 ⟨fates, reading.disposed, rfl⟩, ?_⟩
    rw [List.filterMap_map, Function.id_comp]
    rfl

/-- Planning fields one after the other warns of those that nobody owns. -/
theorem flatMap_warnings_planField {fs : List (String × Schema.Field)} {fates : List Disposition}
    (disposed : fed.AllDisposed type claims keys fs fates) :
    (fs.flatMap fun f => (fed.planField type claims keys f.1 f.2).warnings) =
      (fs.zip fates).flatMap fun (f, fate) => fate.warnings type f.1 := by
  induction disposed with
  | nil => rfl
  | cons first _ ih =>
    rw [List.flatMap_cons, warnings_planField first, ih, List.zip_cons_cons, List.flatMap_cons]

/-- Planning an entity warns of its fields in their order, and of nothing else. -/
theorem warnings_planEntity {fates : List Disposition}
    (reading : fed.EntityReading type claims keys fields fates) :
    (fed.planEntity type).warnings =
      (fields.entries.zip fates).flatMap fun (f, fate) => fate.warnings type f.1 := by
  obtain ⟨claimed, keyed, declared, disposed⟩ := reading
  have planned := mapM_planField_eq_ok_iff.2 ⟨fates, disposed, rfl⟩
  rw [planEntity, Traced.warnings_bind (Traced.result_check_eq_ok_iff.2 claimed),
    Traced.warnings_bind keyed, Traced.warnings_bind (Traced.result_check_eq_ok_iff.2 declared),
    Traced.warnings_bind planned, Traced.warnings_mapM planned, warnings_keysFor]
  -- What is told after the fields is no warning.
  change [] ++ ([] ++ ([] ++ (_ ++ []))) = _
  rw [List.nil_append, List.nil_append, List.nil_append, List.append_nil]
  exact flatMap_warnings_planField disposed

/-! ### All entities -/

theorem nodup_entities (fed : Federation) : fed.entities.Nodup :=
  (List.filter_sublist.map Prod.fst).nodup fed.schema.types.nodup_names

theorem planNamed_eq_ok_iff {entry : String × EntityPlan} :
    (do return (type, ← fed.planEntity type) : Traced (String × EntityPlan)).result = .ok entry ↔
      entry.1 = type ∧ (fed.planEntity type).result = .ok entry.2 := by
  obtain ⟨name, entity⟩ := entry
  rw [Traced.bind_eq_ok_iff]
  constructor
  · rintro ⟨_, made, last⟩
    cases last
    exact ⟨rfl, made⟩
  · rintro ⟨rfl, made⟩
    exact ⟨entity, made, rfl⟩

theorem names_of_forall₂ {α : Type} {P : String → String × α → Prop} {names : List String}
    {entries : List (String × α)}
    (paired : List.Forall₂ (fun name entry => entry.1 = name ∧ P name entry) names entries) :
    entries.map Prod.fst = names := by
  induction paired with
  | nil => rfl
  | cons first _ ih => rw [List.map_cons, first.1, ih]

/-- The plans of all entities stand in the order of the entities. -/
theorem planEntities_eq_ok_iff {table : Table EntityPlan} :
    fed.planEntities.result = .ok table ↔
      List.Forall₂ (fun type (entry : String × EntityPlan) =>
        entry.1 = type ∧ (fed.planEntity type).result = .ok entry.2)
        fed.entities table.entries := by
  rw [planEntities, Traced.bind_eq_ok_iff]
  simp only [Traced.mapM_eq_ok_iff, planNamed_eq_ok_iff, Traced.result_pure, Except.ok.injEq]
  constructor
  · rintro ⟨entries, made, rfl⟩
    -- The names of entities are distinct, so that collecting the plans in a table loses none.
    have distinct : (entries.map Prod.fst).Nodup := by
      rw [names_of_forall₂ made]
      exact fed.nodup_entities
    rwa [Table.entries_ofList distinct]
  · intro made
    exact ⟨table.entries, made, Table.ext (Table.entries_ofList table.nodup_names)⟩

/-- Planning all entities warns of each of them, one after the other. -/
theorem warnings_planEntities {table : Table EntityPlan}
    (made : fed.planEntities.result = .ok table) :
    fed.planEntities.warnings =
      fed.entities.flatMap fun type => (fed.planEntity type).warnings := by
  obtain ⟨entries, named, last⟩ := Traced.bind_eq_ok_iff.1 made
  rw [planEntities, Traced.warnings_bind named, Traced.warnings_mapM named]
  -- Collecting the plans warns of nothing.
  change _ ++ [] = _
  rw [List.append_nil]
  refine List.flatMap_congr fun type member => ?_
  obtain ⟨entry, _, planned⟩ := exists_right_of_forall₂ (Traced.mapM_eq_ok_iff.1 named) member
  obtain ⟨entity, made, _⟩ := Traced.bind_eq_ok_iff.1 planned
  rw [Traced.warnings_bind made]
  exact List.append_nil _

/-! ### The whole plan -/

theorem compile_eq_ok_iff {plan : Plan} :
    fed.compile.result = .ok plan ↔
      ∃ entities rootFields declarations, fed.planEntities.result = .ok entities ∧
        fed.rootFields.result = .ok rootFields ∧ fed.declarations.result = .ok declarations ∧
        plan = ⟨fed.subgraphs, entities, rootFields, declarations, fed.planEntities.warnings⟩ := by
  constructor
  · intro made
    obtain ⟨entities, planned, made⟩ := Traced.bind_eq_ok_iff.1 made
    obtain ⟨rootFields, routed, made⟩ := Traced.bind_eq_ok_iff.1 made
    obtain ⟨declarations, declared, made⟩ := Traced.bind_eq_ok_iff.1 made
    exact ⟨entities, rootFields, declarations, planned, routed, declared, (Except.ok.inj made).symm⟩
  · rintro ⟨entities, rootFields, declarations, planned, routed, declared, rfl⟩
    exact Traced.bind_eq_ok_iff.2 ⟨entities, planned, Traced.bind_eq_ok_iff.2
      ⟨rootFields, routed, Traced.bind_eq_ok_iff.2 ⟨declarations, declared, rfl⟩⟩⟩

/-- The plan of each entity is part of the whole plan. -/
theorem planEntity_of_compile {plan : Plan} (made : fed.compile.result = .ok plan)
    (found : plan.entities.get? type = some entity) :
    (fed.planEntity type).result = .ok entity := by
  obtain ⟨table, _, _, planned, _, _, rfl⟩ := compile_eq_ok_iff.1 made
  obtain ⟨name, _, named, one⟩ := exists_left_of_forall₂ (planEntities_eq_ok_iff.1 planned)
    (Table.get?_eq_some_iff.1 found)
  rwa [← named] at one

end Supergraph.Federation
