import Supergraph.Proofs.Declarations
import Supergraph.Proofs.Registered

/-!
# Root types among the entities

Whether a type is an entity is told by its name, while the schema says which types are its roots. So
a root type is left out when it has one of the usual names, and only then: under another name it is
planned as an entity and declared, and every field that is planned for it is a root field as well.

## Main results

* `Federation.mem_entities_iff`, `keys_entities_of_compile` — which types are planned
* `exists_rootField_of_mem_fields` — planned fields of a root type are root fields
* `root_type_is_entity_iff` — when a root type is an entity
-/

namespace Supergraph

variable {fed : Federation} {plan : Plan} {type : String}

/-- The entities are the object types with names for entities. -/
theorem Federation.mem_entities_iff :
    type ∈ fed.entities ↔ (fed.schema.fieldsOf? type).isSome ∧ isEntityName type := by
  simp only [Federation.entities, List.mem_map, List.mem_filter, Bool.and_eq_true, Prod.exists,
    exists_and_right, exists_eq_right, Schema.fieldsOf?, Option.isSome_bind]
  constructor
  · rintro ⟨t, member, object, named⟩
    rw [Schema.body?_eq_some_iff.2 ⟨t, member, rfl⟩]
    exact ⟨object, named⟩
  · rintro ⟨object, named⟩
    cases present : fed.schema.body? type with
    | none => simp [present] at object
    | some body =>
      obtain ⟨t, member, rfl⟩ := Schema.body?_eq_some_iff.1 present
      rw [present] at object
      exact ⟨t, member, object, named⟩

/-- A plan that is made has the entities of the federation, in their order. -/
theorem keys_entities_of_compile (made : fed.compile.result = .ok plan) :
    plan.entities.keys = fed.entities := by
  obtain ⟨table, _, _, planned, _, _, rfl⟩ := Federation.compile_eq_ok_iff.1 made
  exact Federation.names_of_forall₂ (Federation.planEntities_eq_ok_iff.1 planned)

/-- An object type is declared in a plan that is made when its name is one of declared types. -/
theorem mem_names_declarations_iff (made : fed.compile.result = .ok plan)
    (object : (fed.schema.fieldsOf? type).isSome) :
    type ∈ plan.declarations.map Declaration.name ↔ isDeclaredName type := by
  obtain ⟨_, _, declarations, _, _, declared, rfl⟩ := Federation.compile_eq_ok_iff.1 made
  rw [Federation.names_declarations declared, Federation.mem_declaredTypes_iff]
  obtain ⟨fields, found⟩ := Option.isSome_iff_exists.1 object
  obtain ⟨body, present, _⟩ := Option.bind_eq_some_iff.1 found
  cases body with
  | object => simp [present, Schema.TypeBody.isStandardScalar]
  | _ => contradiction

/-- A field that is planned for a root type is a root field as well, of the same shape. -/
theorem exists_rootField_of_mem_fields (made : fed.compile.result = .ok plan)
    {operation : RootOperation}
    (root : fed.schema.root? (Federation.rootKind operation) = some type)
    {entity : EntityPlan} (found : plan.entities.get? type = some entity) {f : FieldPlan}
    (member : f ∈ entity.fields) :
    ∃ r ∈ plan.rootFields, r.operation = operation ∧ r.name = f.name ∧ r.shape = f.shape := by
  obtain ⟨claims, keys, fields, fates, reading, rfl⟩ :=
    Federation.planEntity_eq_ok_iff.1 (Federation.planEntity_of_compile made found)
  obtain ⟨table, rootFields, _, _, routed, _, rfl⟩ := Federation.compile_eq_ok_iff.1 made
  obtain ⟨owned, field, declared, shaped⟩ := Federation.described_of_mem_fields reading member
  -- The field has an owner, so that there are subgraphs and root fields are routed at all.
  have registered := Federation.mem_keys_of_ownerOf? owned
  obtain ⟨fs, ofRoot, among⟩ := Federation.exists_rootFieldsOf routed registered operation
  rw [Federation.rootFieldsOf, root] at ofRoot
  obtain ⟨listed, same, paired⟩ := Federation.planRoot_eq_ok_iff.1 ofRoot
  obtain rfl := Except.ok.inj (same.symm.trans reading.declared)
  obtain ⟨r, inside, routes⟩ := exists_right_of_forall₂ paired (Table.get?_eq_some_iff.1 declared)
  obtain ⟨_, shape, _, _, shapedToo, _, _, rfl⟩ := Federation.planRootField_eq_ok_iff.1 routes
  exact ⟨_, among _ inside, rfl, rfl, Except.ok.inj (shapedToo.symm.trans shaped)⟩

/-! ### A text -/

/-- A supergraph whose root type for queries has not the usual name. -/
def pingText : String :=
  "schema \x7b query: Root \x7d\n"
    ++ "type Root \x7b ping: Int @join__field(graph: A) \x7d\n"
    ++ "enum join__Graph \x7b A @join__graph(name: \"a\", url: \"b\") \x7d\n"
    ++ "directive @join__field(graph: Int) on FIELD_DEFINITION\n"
    ++ "directive @join__graph(name: Int, url: Int) on ENUM_VALUE\n"

theorem exists_plan_pingText : ∃ p plan, Planner.ofText? pingText = some p ∧
    p.compile.1 = .ok plan ∧ p.fed.schema.root? .query = some "Root" ∧
    (plan.entities.get? "Root").map EntityPlan.fieldNames = some ["ping"] ∧
    plan.rootFields.map (fun r => (r.operation, r.name)) = [(.query, "ping")] := by
  have computed : ((Planner.ofText? pingText).any fun p => p.compile.1.toOption.any fun plan =>
      p.fed.schema.root? .query = some "Root" ∧
      (plan.entities.get? "Root").map EntityPlan.fieldNames = some ["ping"] ∧
      plan.rootFields.map (fun r => (r.operation, r.name)) = [(.query, "ping")]) = true := by
    -- The characters are taken line by line, so that no long text is decoded.
    rewrite [Planner.ofText?, loadSchema, Schema.load, Sdl.readDocument, Sdl.Reading.ofText,
      Sdl.tokens]
    delta pingText
    simp only [String.toList_append, -String.reduceAppend]
    decide +kernel
  obtain ⟨p, plan, made, compiled, facts⟩ := Planner.exists_plan_of_any computed
  exact ⟨p, plan, made, compiled, of_decide_eq_true facts⟩

/-! ### Root types -/

/-- A root type of a schema that is loaded is an entity, and planned, exactly when its name is one
of entities, and it is declared exactly when its name is one of declared types. Of a root type that
is planned every planned field is a root field as well. -/
theorem root_type_is_entity_iff (p : Planner) (loaded : p.fed.schema.IsLoaded)
    (kind : Sdl.OperationKind) (type : String) (root : p.fed.schema.root? kind = some type) :
    (type ∈ p.fed.entities ↔ isEntityName type) ∧
      ∀ plan, p.compile.1 = .ok plan →
        (type ∈ plan.entities.keys ↔ isEntityName type) ∧
        (type ∈ plan.declarations.map Declaration.name ↔ isDeclaredName type) ∧
        ∀ operation, Federation.rootKind operation = kind →
          ∀ entity, plan.entities.get? type = some entity → ∀ f ∈ entity.fields,
            ∃ r ∈ plan.rootFields, r.operation = operation ∧ r.name = f.name ∧
              r.shape = f.shape := by
  have object := loaded.isSound.roots kind type root
  have planned : type ∈ p.fed.entities ↔ isEntityName type := by
    rw [Federation.mem_entities_iff]
    exact and_iff_right object
  refine ⟨planned, fun plan made => ⟨?_, mem_names_declarations_iff made object, ?_⟩⟩
  · rwa [keys_entities_of_compile made]
  · rintro operation rfl entity found f member
    exact exists_rootField_of_mem_fields made root found member

theorem pingText_root_is_entity : ∃ p plan, Planner.ofText? pingText = some p ∧
    p.fed.schema.IsLoaded ∧ p.fed.schema.root? .query = some "Root" ∧ p.compile.1 = .ok plan ∧
    "Root" ∈ p.fed.entities ∧ "Root" ∈ plan.entities.keys ∧
    "Root" ∈ plan.declarations.map Declaration.name := by
  obtain ⟨p, plan, made, compiled, root, _, _⟩ := exists_plan_pingText
  have loaded := Planner.isLoaded_of_ofText? made
  obtain ⟨entity, planned⟩ := root_type_is_entity_iff p loaded .query "Root" root
  obtain ⟨listed, declared, _⟩ := planned plan compiled
  exact ⟨p, plan, made, loaded, root, compiled, entity.2 (by decide), listed.2 (by decide),
    declared.2 (by decide)⟩

/-- The field of the root type is both a root field and a field of an entity. -/
theorem pingText_lists_field_twice : ∃ p plan, Planner.ofText? pingText = some p ∧
    p.fed.schema.root? .query = some "Root" ∧ p.compile.1 = .ok plan ∧
    (∃ r ∈ plan.rootFields, r.operation = .query ∧ r.name = "ping") ∧
    ∃ entity, plan.entities.get? "Root" = some entity ∧ "ping" ∈ entity.fieldNames := by
  obtain ⟨p, plan, made, compiled, root, planned, routed⟩ := exists_plan_pingText
  have listed : (RootOperation.query, "ping") ∈
      plan.rootFields.map fun r => (r.operation, r.name) := by
    rw [routed]
    exact List.mem_singleton_self _
  obtain ⟨r, member, same⟩ := List.mem_map.1 listed
  obtain ⟨operation, name⟩ := Prod.mk.inj same
  obtain ⟨entity, found, names⟩ := Option.map_eq_some_iff.1 planned
  exact ⟨p, plan, made, root, compiled, ⟨r, member, operation, name⟩, entity, found,
    names ▸ List.mem_singleton_self _⟩

end Supergraph
