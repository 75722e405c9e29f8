import Supergraph.Proofs.Plannable
import Supergraph.Schema.Detach

/-!
# The order of the claims on a type

The claims on a type are read twice: for the keys, of which each graph keeps the last, and for the
owner of the fields that have no claims of their own, which is the graph of the only claim. While the
claims name distinct graphs, neither depends on their order, except that the keys are listed in it.

## Main definitions

* `Schema.reapply`, `Federation.reapply` — other directives applied to a type
* `Federation.ReordersClaims` — two federations that differ in the order of the claims on a type

## Main results

* `Federation.ReordersClaims.exists_planEntity` — the type is planned for both, with the same fields
  and warnings
* `claim_order_is_irrelevant` — reordering the claims on an entity
-/

namespace Supergraph

/-- The owner by the claims on the type does not depend on their order. -/
theorem Join.ownerOfTypeClaims?_eq_of_perm {claims reordered : List Join.TypeClaim}
    (perm : claims.Perm reordered) :
    Join.ownerOfTypeClaims? claims = Join.ownerOfTypeClaims? reordered := by
  match claims with
  | [] => rw [perm.nil_eq]
  | [claim] => rw [List.singleton_perm.1 perm]
  | _ :: _ :: _ =>
    -- Several claims remain several in every order.
    match reordered with
    | [] | [_] => simpa using perm.length_eq
    | _ :: _ :: _ => rfl

namespace Schema

variable {schema : Schema} {type : String} {applied : List Sdl.Application}

/-- The schema with the given directives applied to a type. -/
def reapply (schema : Schema) (type : String) (applied : List Sdl.Application) : Schema :=
  schema.modifyType type fun t => { t with applied := applied }

@[simp] theorem body?_reapply (name : String) :
    (schema.reapply type applied).body? name = schema.body? name := by
  rw [body?, body?, reapply, modifyType, Table.get?_modify, Option.map_map]
  congr 1
  funext t
  simp only [Function.comp]
  split <;> rfl

theorem appliedTo?_reapply (present : (schema.body? type).isSome) :
    (schema.reapply type applied).appliedTo? type = some applied := by
  obtain ⟨body, found⟩ := Option.isSome_iff_exists.1 present
  obtain ⟨t, found, _⟩ := Option.map_eq_some_iff.1 found
  rw [appliedTo?, reapply, modifyType, Table.get?_modify, found]
  simp

end Schema

namespace Federation

/-- The federation with the given directives applied to a type. -/
def reapply (fed : Federation) (type : String) (applied : List Sdl.Application) : Federation :=
  { fed with schema := fed.schema.reapply type applied }

/-- The graphs that the claims on a type name, in their order. -/
def claimingGraphs (fed : Federation) (type : String) : List String :=
  (fed.claimsOn type).filterMap fun a => Join.enumValue? a "graph"

/-- Two federations have the same subgraphs and the same types, and the same claims on one of them,
which name distinct graphs, in some order. -/
structure ReordersClaims (fed other : Federation) (type : String) : Prop where
  bodies : ∀ name, fed.schema.body? name = other.schema.body? name
  subgraphs : fed.subgraphs = other.subgraphs
  claims : (fed.claimsOn type).Perm (other.claimsOn type)
  distinct : (fed.claimingGraphs type).Nodup

variable {fed other : Federation} {type name : String} {keys reordered : Table String}
  {claims otherClaims : List Join.TypeClaim} {field : Schema.Field}

theorem claimsOn_reapply {applied : List Sdl.Application}
    (object : (fed.schema.fieldsOf? type).isSome) :
    (fed.reapply type applied).claimsOn type = Join.appliedAs "join__type" applied := by
  have present : (fed.schema.body? type).isSome := Option.isSome_of_isSome_bind object
  rw [claimsOn, reapply, Schema.appliedTo?_reapply present, Option.getD_some]

namespace ReordersClaims

theorem symm (reorders : fed.ReordersClaims other type) : other.ReordersClaims fed type where
  bodies name := (reorders.bodies name).symm
  subgraphs := reorders.subgraphs.symm
  claims := reorders.claims.symm
  distinct := ((reorders.claims.filterMap _).nodup_iff).1 reorders.distinct

variable (reorders : fed.ReordersClaims other type)

include reorders

theorem fieldsOf?_eq (name : String) :
    fed.schema.fieldsOf? name = other.schema.fieldsOf? name := by
  rw [Schema.fieldsOf?, Schema.fieldsOf?, reorders.bodies]

theorem statedClaims_perm : (fed.statedClaims type).Perm (other.statedClaims type) :=
  reorders.claims.map _

theorem keyPair?_eq : fed.keyPair? type = other.keyPair? type := by
  funext claim
  rw [keyPair?, keyPair?, keyName?, keyName?, fieldsIn, fieldsIn, reorders.fieldsOf?_eq]

theorem shapeOf_eq (ref : TypeRef) : fed.shapeOf ref = other.shapeOf ref := by
  rw [shapeOf, shapeOf, Shape.ofTypeRef, Shape.ofTypeRef, Shape.descend_congr]
  intro base _
  rw [Schema.baseKind, Schema.baseKind, reorders.bodies]

theorem ownerOf?_eq (perm : claims.Perm otherClaims) (name : String) :
    fed.ownerOf? type name claims = other.ownerOf? type name otherClaims := by
  have read : fed.fieldClaims type name = other.fieldClaims type name := by
    rw [fieldClaims, fieldClaims, Join.fieldClaims, Join.fieldClaims, reorders.fieldsOf?_eq]
  rw [ownerOf?, ownerOf?, read]
  refine bind_congr fun fieldClaims => ?_
  rw [Join.ownerOf?, Join.ownerOf?, Join.ownerOfTypeClaims?_eq_of_perm perm]
  simp only [requireSubgraph, reorders.subgraphs]

/-- What becomes of a field depends on what is found among the keys, and not on their order. -/
theorem disposition_eq (perm : claims.Perm otherClaims)
    (same : ∀ graph, keys.get? graph = reordered.get? graph) (name : String)
    (field : Schema.Field) :
    fed.disposition type claims keys name field =
      other.disposition type otherClaims reordered name field := by
  have values : keys.values.contains name = reordered.values.contains name := by
    rw [Bool.eq_iff_iff, List.contains_iff_mem, List.contains_iff_mem, Table.mem_values_iff,
      Table.mem_values_iff]
    simp only [same]
  rw [disposition, disposition, reorders.ownerOf?_eq perm, values]
  simp only [same, reorders.shapeOf_eq]

end ReordersClaims

/-- The keys for claims of distinct graphs are listed in the order of the claims. -/
theorem entries_of_keysFor (distinct : (fed.claimingGraphs type).Nodup)
    (keyed : (fed.keysFor type (fed.statedClaims type)).result = .ok keys) :
    keys.entries = (fed.statedClaims type).filterMap (fed.keyPair? type) ∧
      keys.keys = fed.claimingGraphs type := by
  obtain ⟨each, rfl⟩ := keysFor_eq_ok_iff.1 keyed
  have graphs : ((fed.statedClaims type).filterMap (fed.keyPair? type)).map Prod.fst =
      fed.claimingGraphs type := by
    rw [List.map_filterMap, claimingGraphs, statedClaims, List.filterMap_map]
    refine List.filterMap_congr fun a member => ?_
    obtain ⟨entry, made, _⟩ := each _ (List.mem_map_of_mem member)
    obtain ⟨graph, named, keyed⟩ := Option.bind_eq_some_iff.1 made
    obtain ⟨key, _, rfl⟩ := Option.map_eq_some_iff.1 keyed
    simp only [Function.comp, made]
    exact named.symm
  -- Distinct graphs are stored in the order in which they come.
  rw [← graphs] at distinct ⊢
  have entries := Table.entries_ofList distinct
  exact ⟨entries, congrArg (List.map Prod.fst) entries⟩

namespace ReordersClaims

variable (reorders : fed.ReordersClaims other type)

include reorders

/-- Keys are found for the claims in either order, the same for each graph. -/
theorem exists_keysFor (keyed : (fed.keysFor type (fed.statedClaims type)).result = .ok keys) :
    ∃ reordered, (other.keysFor type (other.statedClaims type)).result = .ok reordered ∧
      ∀ graph, keys.get? graph = reordered.get? graph := by
  have perm := reorders.statedClaims_perm
  have each := (keysFor_eq_ok_iff.1 keyed).1
  rw [reorders.keyPair?_eq, reorders.subgraphs] at each
  have keyedToo := keysFor_eq_ok_iff.2
    ⟨fun claim member => each claim (perm.mem_iff.2 member), rfl⟩
  refine ⟨_, keyedToo, Table.get?_eq_of_perm ?_⟩
  rw [(entries_of_keysFor reorders.distinct keyed).1,
    (entries_of_keysFor reorders.symm.distinct keyedToo).1, reorders.keyPair?_eq]
  exact perm.filterMap _

/-- A type is planned for claims in either order, with the same fields, warnings and keys. -/
theorem exists_planEntity (object : (fed.schema.fieldsOf? type).isSome) {entity : EntityPlan}
    (made : (fed.planEntity type).result = .ok entity) :
    ∃ reordered, (other.planEntity type).result = .ok { entity with keys := reordered } ∧
      (∀ graph, entity.keys.get? graph = reordered.get? graph) ∧
      (fed.planEntity type).warnings = (other.planEntity type).warnings := by
  obtain ⟨claims, keys, fields, fates, reading, rfl⟩ := planEntity_eq_ok_iff.1 made
  obtain ⟨claimed, keyed, declared, disposed⟩ := reading
  obtain ⟨fitting, rfl⟩ := (typeClaims_eq_ok_iff object).1 claimed
  obtain ⟨reordered, keyedToo, same⟩ := reorders.exists_keysFor keyed
  -- The fields stand in their own order, so that the same becomes of each of them.
  rw [reorders.fieldsOf?_eq] at object
  have readingToo : other.EntityReading type (other.statedClaims type) reordered fields fates :=
    { claimed := (typeClaims_eq_ok_iff object).2
        ⟨fun a member => fitting a (reorders.claims.mem_iff.2 member), rfl⟩
      keyed := keyedToo
      declared := by rwa [fieldsOf, ← reorders.fieldsOf?_eq]
      disposed := disposed.imp fun f fate first => by
        rwa [← reorders.disposition_eq reorders.statedClaims_perm same] }
  refine ⟨reordered, planEntity_eq_ok_iff.2 ⟨_, _, _, _, readingToo, rfl⟩, same, ?_⟩
  rw [warnings_planEntity readingToo,
    warnings_planEntity ⟨claimed, keyed, declared, disposed⟩]

end ReordersClaims

theorem keys_of_planEntity (object : (fed.schema.fieldsOf? type).isSome)
    (distinct : (fed.claimingGraphs type).Nodup) {entity : EntityPlan}
    (made : (fed.planEntity type).result = .ok entity) :
    entity.keys.keys = fed.claimingGraphs type := by
  obtain ⟨claims, keys, fields, fates, reading, rfl⟩ := planEntity_eq_ok_iff.1 made
  obtain ⟨_, rfl⟩ := (typeClaims_eq_ok_iff object).1 reading.claimed
  exact (entries_of_keysFor distinct reading.keyed).2

end Federation

/-- Reordering the claims on an entity, which name distinct graphs, leaves the registry as it is.
The entity can be planned for one order when it can for the other, and then it has the same fields,
the same key for each graph and the same warnings; its keys are listed in the order of the claims. -/
theorem claim_order_is_irrelevant (p q : Planner) (type : String) (applied : List Sdl.Application)
    (entity : type ∈ p.fed.entities) (distinct : (p.fed.claimingGraphs type).Nodup)
    (perm : (p.fed.claimsOn type).Perm (Join.appliedAs "join__type" applied))
    (reordered : q.fed = p.fed.reapply type applied) :
    ((Federation.ofSchema p.fed.schema).result = .ok p.fed →
      (Federation.ofSchema q.fed.schema).result = .ok q.fed) ∧
    ((∃ first, (p.planEntity type).1 = .ok first) ↔
      ∃ second, (q.planEntity type).1 = .ok second) ∧
    ∀ first second, (p.planEntity type).1 = .ok first → (q.planEntity type).1 = .ok second →
      first.fields = second.fields ∧
      (∀ graph, first.keys.get? graph = second.keys.get? graph) ∧
      first.keys.keys = p.fed.claimingGraphs type ∧
      second.keys.keys = q.fed.claimingGraphs type ∧
      ∃ told, (p.planEntity type).2.warnings = p.warnings ++ told ∧
        (q.planEntity type).2.warnings = q.warnings ++ told := by
  have object := (Federation.mem_entities_iff.1 entity).1
  have reorders : p.fed.ReordersClaims q.fed type := by
    rw [reordered]
    refine ⟨fun name => (Schema.body?_reapply name).symm, rfl, ?_, distinct⟩
    rwa [Federation.claimsOn_reapply object]
  have objectToo : (q.fed.schema.fieldsOf? type).isSome := by rwa [← reorders.fieldsOf?_eq]
  refine ⟨fun read => ?registry, ⟨?forth, ?back⟩, fun first second made madeToo => ?same⟩
  case registry =>
    rw [reordered]
    refine Federation.result_ofSchema_of_registry ?_ read
    simp only [Join.registry?, Federation.reapply, Schema.body?_reapply]
  case forth =>
    rintro ⟨first, made⟩
    obtain ⟨_, madeToo, _⟩ := reorders.exists_planEntity object made
    exact ⟨_, madeToo⟩
  case back =>
    rintro ⟨second, made⟩
    obtain ⟨_, madeToo, _⟩ := reorders.symm.exists_planEntity objectToo made
    exact ⟨_, madeToo⟩
  case same =>
    obtain ⟨keys, planned, found, warned⟩ := reorders.exists_planEntity object made
    obtain rfl := Except.ok.inj (planned.symm.trans madeToo)
    exact ⟨rfl, found, Federation.keys_of_planEntity object distinct made,
      Federation.keys_of_planEntity objectToo reorders.symm.distinct madeToo, _, rfl,
      congrArg (q.warnings ++ ·) warned.symm⟩

/-- The products of the store with the claim of the reviews first are planned as before, with the
keys listed the other way. -/
theorem storePlanner_reorders_claims :
    ∃ q : Planner, q.fed = (storePlanner "inventory" "reviews").fed.reapply "Product"
        [keyedClaim "REVIEWS" "upc", keyedClaim "INVENTORY" "upc"] ∧
      (Federation.ofSchema q.fed.schema).result = .ok q.fed ∧
      ∃ first second, ((storePlanner "inventory" "reviews").planEntity "Product").1 = .ok first ∧
        (q.planEntity "Product").1 = .ok second ∧ first.fields = second.fields ∧
        first.keys.keys = ["INVENTORY", "REVIEWS"] ∧ second.keys.keys = ["REVIEWS", "INVENTORY"] ∧
        first.keys.get? "REVIEWS" = second.keys.get? "REVIEWS" ∧
        (q.planEntity "Product").2.warnings = [unownedWarning "Product" "weight"] := by
  have swapped : ((storePlanner "inventory" "reviews").fed.claimsOn "Product").Perm
      (Join.appliedAs "join__type" [keyedClaim "REVIEWS" "upc", keyedClaim "INVENTORY" "upc"]) :=
    List.Perm.swap ..
  obtain ⟨read, both, same⟩ := claim_order_is_irrelevant (storePlanner "inventory" "reviews")
    (.ofFederation ((storePlanner "inventory" "reviews").fed.reapply "Product" _)) "Product" _
    (by decide) (by decide) swapped rfl
  have made : ∃ first,
      ((storePlanner "inventory" "reviews").planEntity "Product").1 = .ok first := ⟨_, rfl⟩
  obtain ⟨first, made⟩ := made
  obtain ⟨second, madeToo⟩ := both.1 ⟨first, made⟩
  obtain ⟨fields, found, graphs, graphsToo, told, warned, warnedToo⟩ :=
    same first second made madeToo
  obtain rfl := warned
  exact ⟨_, rfl, read rfl, first, second, made, madeToo, fields, graphs, graphsToo, found _,
    warnedToo⟩

end Supergraph
