import Supergraph.Proofs.Conservation
import Supergraph.Proofs.Keys
import Supergraph.Proofs.ServiceModule

/-!
# Registered graphs

Keys, owners and routes of a plan name graphs. In a plan that is made all of them are registered, so
that its service module is made as well.

## Main definitions

* `Plan.RefersToRegistered` — all graphs that a plan names are registered

## Main results

* `Federation.mem_keys_of_keysFor`, `Federation.mem_keys_of_ownerOf?` — keys and owners
* `compile_refers_to_registered` — plans that are made, and service modules
-/

namespace Supergraph

/-- The graphs that a plan names are registered. -/
structure Plan.RefersToRegistered (plan : Plan) : Prop where
  keys : ∀ entity ∈ plan.entities.values, ∀ graph ∈ entity.keys.keys, graph ∈ plan.subgraphs.keys
  owners : ∀ entity ∈ plan.entities.values, ∀ f ∈ entity.fields, f.owner ∈ plan.subgraphs.keys
  routes : ∀ f ∈ plan.rootFields, f.owner ∈ plan.subgraphs.keys

namespace Federation

variable {fed : Federation} {type name graph : String} {claims : List Join.TypeClaim}
  {keys : Table String} {entity : EntityPlan}

/-- The graphs that know a type by a key are registered. -/
theorem mem_keys_of_keysFor (made : (fed.keysFor type claims).result = .ok keys)
    (keyed : graph ∈ keys.keys) : graph ∈ fed.subgraphs.keys := by
  obtain ⟨each, rfl⟩ := keysFor_eq_ok_iff.1 made
  obtain ⟨entry, member, rfl⟩ := List.mem_map.1 (Table.mem_keys_ofList.1 keyed)
  obtain ⟨claim, among, yields⟩ := List.mem_filterMap.1 member
  obtain ⟨same, yieldsToo, registered⟩ := each claim among
  rwa [← Option.some.inj (yieldsToo.symm.trans yields)]

/-- The owner of a field is registered. -/
theorem mem_keys_of_ownerOf? (owned : fed.ownerOf? type name claims = .ok (some graph)) :
    graph ∈ fed.subgraphs.keys := by
  obtain ⟨_, _, _, registered⟩ := ownerOf?_eq_ok_iff.1 owned
  exact registered graph rfl

/-- The plan of an entity names registered graphs only. -/
theorem mem_keys_of_planEntity (made : (fed.planEntity type).result = .ok entity) :
    (∀ graph ∈ entity.keys.keys, graph ∈ fed.subgraphs.keys) ∧
      ∀ f ∈ entity.fields, f.owner ∈ fed.subgraphs.keys := by
  obtain ⟨claims, keys, fields, fates, reading, rfl⟩ := planEntity_eq_ok_iff.1 made
  constructor
  · intro graph keyed
    exact mem_keys_of_keysFor reading.keyed keyed
  · intro f member
    exact mem_keys_of_ownerOf? (described_of_mem_fields reading member).1

end Federation

theorem refersToRegistered_of_compile {fed : Federation} {plan : Plan}
    (made : fed.compile.result = .ok plan) : plan.RefersToRegistered := by
  obtain ⟨table, rootFields, _, planned, routed, _, rfl⟩ := Federation.compile_eq_ok_iff.1 made
  have one : ∀ entity ∈ table.values, (∀ graph ∈ entity.keys.keys, graph ∈ fed.subgraphs.keys) ∧
      ∀ f ∈ entity.fields, f.owner ∈ fed.subgraphs.keys := by
    intro entity member
    obtain ⟨entry, among, rfl⟩ := List.mem_map.1 member
    obtain ⟨type, _, _, made⟩ :=
      exists_left_of_forall₂ (Federation.planEntities_eq_ok_iff.1 planned) among
    exact Federation.mem_keys_of_planEntity made
  refine ⟨fun entity among => (one entity among).1, fun entity among => (one entity among).2, ?_⟩
  intro f member
  exact Federation.owner_mem_keys_of_mem_rootFields routed member

/-- In a plan that is made every graph is registered, and there is a service module for it. For any
plan there is none exactly when the graph of some root field is not registered. -/
theorem compile_refers_to_registered :
    (∀ (p : Planner) (plan : Plan), p.compile.1 = .ok plan →
      plan.RefersToRegistered ∧ ∀ port, ∃ text, Emit.serviceModule plan port = .ok text) ∧
    ∀ (plan : Plan) (port : Int), (∃ key, Emit.serviceModule plan port = .error key) ↔
      ∃ f ∈ plan.rootFields, f.owner ∉ plan.subgraphs.keys := by
  refine ⟨fun p plan made => ?_, Emit.exists_error_serviceModule_iff⟩
  have referring : plan.RefersToRegistered := refersToRegistered_of_compile made
  exact ⟨referring, fun port => ⟨_, Emit.serviceModule_of_registered port referring.routes⟩⟩

theorem storePlanner_refers_to_registered :
    ∃ plan, (storePlanner "inventory" "reviews").compile.1 = .ok plan ∧
      plan.RefersToRegistered ∧ plan.subgraphs.keys = ["INVENTORY", "REVIEWS"] ∧
      (plan.rootFields.map RootField.owner = ["INVENTORY"]) ∧
      ∃ text, Emit.serviceModule plan 8000 = .ok text := by
  obtain ⟨referring, written⟩ :=
    compile_refers_to_registered.1 (storePlanner "inventory" "reviews") _ rfl
  exact ⟨_, rfl, referring, rfl, rfl, written 8000⟩

end Supergraph
