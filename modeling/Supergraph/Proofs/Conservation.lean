import Mathlib.Data.List.Nodup
import Supergraph.Plan.Planner
import Supergraph.Proofs.EntityPlan

/-!
# Conservation of fields

A plan accounts for every field of every entity. Each field belongs to exactly one class; the plan
of the entity lists the planned ones in their order, with owner and shape, and the warnings of the
whole plan are about the unowned ones.

## Main definitions

* `Federation.AccountsFor` — the plan of an entity accounts for the fields of its type

## Main results

* `compile_accounts_for_fields` — every plan that is made accounts for all fields
-/

namespace Supergraph

namespace EntityPlan

variable {e : EntityPlan} {f : FieldPlan} {name : String}

/-- A name finds nothing exactly when no planned field has it. -/
theorem field?_eq_none_iff : e.field? name = none ↔ name ∉ e.fieldNames := by
  simp [field?, fieldNames]

/-- Among planned fields of distinct names a name finds the only field that has it. -/
theorem field?_eq_some_iff (distinct : e.fieldNames.Nodup) :
    e.field? name = some f ↔ f ∈ e.fields ∧ f.name = name := by
  constructor
  · intro found
    exact ⟨List.mem_of_find?_eq_some found, by simpa using List.find?_some found⟩
  · rintro ⟨member, rfl⟩
    exact find?_name_of_nodup distinct member

end EntityPlan

namespace Federation

/-- The plan of an entity accounts for the fields of its type: each belongs to one class, the
planned ones are listed in their order with owner and shape, and they are what is found by name. -/
structure AccountsFor (fed : Federation) (entity : EntityPlan) : Prop where
  object : (fed.schema.fieldsOf? entity.typeName).isSome
  classified : ∀ name ∈ fed.fieldNames entity.typeName, ∃ owner,
    fed.resolvedOwner? entity.typeName name = .ok owner ∧ ∃! c, HasClass entity.keys name owner c
  listed : entity.fieldNames = fed.fieldsOfClass entity .planned
  distinct : entity.fieldNames.Nodup
  described : ∀ f ∈ entity.fields,
    fed.resolvedOwner? entity.typeName f.name = .ok (some f.owner) ∧
      ∃ declared, (fed.schema.fieldsOf? entity.typeName).bind (·.get? f.name) = some declared ∧
        fed.shapeOf declared.type = .ok f.shape
  found : ∀ f ∈ entity.fields, entity.field? f.name = some f
  missing : ∀ name ∉ fed.fieldsOfClass entity .planned, entity.field? name = none

variable {fed : Federation} {entity : EntityPlan} {c : FieldClass} {name : String}

theorem isOfClass_iff :
    fed.isOfClass entity c name ↔ ∃ owner, fed.resolvedOwner? entity.typeName name = .ok owner ∧
      HasClass entity.keys name owner c := by
  rw [isOfClass]
  cases fed.resolvedOwner? entity.typeName name with
  | ok owner => simp [hasClass_iff]
  | error e => simp

/-- A field of a class is a field of the type that belongs to the class by its owner. -/
theorem mem_fieldsOfClass_iff :
    name ∈ fed.fieldsOfClass entity c ↔ name ∈ fed.fieldNames entity.typeName ∧
      ∃ owner, fed.resolvedOwner? entity.typeName name = .ok owner ∧
        HasClass entity.keys name owner c := by
  rw [fieldsOfClass, List.mem_filter, isOfClass_iff]

theorem nodup_fieldNames (fed : Federation) (type : String) : (fed.fieldNames type).Nodup := by
  rw [fieldNames]
  cases fed.schema.fieldsOf? type with
  | none => exact List.nodup_nil
  | some fields => exact fields.nodup_keys

/-! ### One entity -/

variable {type : String} {claims : List Join.TypeClaim} {keys : Table String}
  {fields : Table Schema.Field} {fates : List Disposition}

/-- Which class a field belongs to is decided by what becomes of it. -/
theorem isOfClass_of_disposition {field : Schema.Field} {fate : Disposition}
    (claimed : fed.typeClaims entity.typeName = .ok claims)
    (disposed : fed.disposition entity.typeName claims entity.keys name field = .ok fate)
    (c : FieldClass) : fed.isOfClass entity c name = decide (fate.fieldClass = c) := by
  obtain ⟨owner, owned, disposed⟩ := disposition_eq_ok_iff.1 disposed
  rw [isOfClass, resolvedOwner?_eq claimed, owned, ← hasClass_iff.1 disposed.hasClass]

theorem Disposed.name_eq {field : Schema.Field} {owner : Option String} {fate : Disposition}
    (disposed : fed.Disposed keys name field owner fate) :
    fate.plan?.map FieldPlan.name = if fate.fieldClass = .planned then some name else none := by
  cases disposed <;> rfl

theorem names_filterMap_plan? (claimed : fed.typeClaims entity.typeName = .ok claims)
    {fs : List (String × Schema.Field)}
    (disposed : fed.AllDisposed entity.typeName claims entity.keys fs fates) :
    (fates.filterMap Disposition.plan?).map FieldPlan.name =
      (fs.map Prod.fst).filter (fed.isOfClass entity .planned) := by
  induction disposed with
  | nil => rfl
  | @cons f fate _ _ first _ ih =>
    have planned := isOfClass_of_disposition claimed first .planned
    obtain ⟨owner, _, disposed⟩ := disposition_eq_ok_iff.1 first
    have named := disposed.name_eq
    rw [List.filterMap_cons, List.map_cons, List.filter_cons, planned]
    -- A field that is not planned leaves no name on either side.
    cases fate with
    | planned plan =>
      have same : plan.name = f.1 := Option.some.inj named
      exact congrArg₂ List.cons same ih
    | key => exact ih
    | unowned => exact ih

theorem warnings_eq_unowned (claimed : fed.typeClaims entity.typeName = .ok claims)
    {fs : List (String × Schema.Field)}
    (disposed : fed.AllDisposed entity.typeName claims entity.keys fs fates) :
    (fs.zip fates).flatMap (fun (f, fate) => fate.warnings entity.typeName f.1) =
      ((fs.map Prod.fst).filter (fed.isOfClass entity .unowned)).map
        (unownedWarning entity.typeName) := by
  induction disposed with
  | nil => rfl
  | @cons f fate _ _ first _ ih =>
    have unowned := isOfClass_of_disposition claimed first .unowned
    rw [List.zip_cons_cons, List.flatMap_cons, List.map_cons, List.filter_cons, unowned, ih]
    cases fate <;> rfl

/-- Every planned field is a field of the type with its owner and its shape. -/
theorem described_of_mem_fields (reading : fed.EntityReading type claims keys fields fates)
    {f : FieldPlan} (member : f ∈ fates.filterMap Disposition.plan?) :
    fed.ownerOf? type f.name claims = .ok (some f.owner) ∧
      ∃ declared, fields.get? f.name = some declared ∧ fed.shapeOf declared.type = .ok f.shape := by
  obtain ⟨fate, among, planned⟩ := List.mem_filterMap.1 member
  obtain ⟨⟨name, field⟩, declared, first⟩ := exists_left_of_forall₂ reading.disposed among
  obtain ⟨owner, owned, disposed⟩ := disposition_eq_ok_iff.1 first
  cases disposed with
  | planned other defined shaped =>
    obtain rfl := Option.some.inj planned
    exact ⟨owned, field, Table.get?_eq_some_iff.2 declared, shaped⟩
  | ownKey | sharedKey | unowned => cases planned

/-- A plan that lists what becomes of the fields accounts for all of them. -/
theorem accountsFor_of_reading
    (reading : fed.EntityReading entity.typeName claims entity.keys fields fates)
    (made : entity.fields = fates.filterMap Disposition.plan?) : fed.AccountsFor entity := by
  have declared := fieldNames_eq reading.declared
  have listed : entity.fieldNames = fed.fieldsOfClass entity .planned := by
    rw [EntityPlan.fieldNames, made, names_filterMap_plan? reading.claimed reading.disposed,
      fieldsOfClass, declared, Table.keys]
  have distinct : entity.fieldNames.Nodup := by
    rw [listed]
    exact (fed.nodup_fieldNames _).filter _
  refine ⟨?object, ?classified, listed, distinct, ?described, ?found, ?missing⟩
  case object => rw [fieldsOf_eq_ok_iff.1 reading.declared, Option.isSome_some]
  case classified =>
    intro name member
    rw [declared] at member
    obtain ⟨field, entry⟩ := Table.mem_keys_iff.1 member
    obtain ⟨fate, _, disposed⟩ := exists_right_of_forall₂ reading.disposed entry
    obtain ⟨owner, owned, _⟩ := disposition_eq_ok_iff.1 disposed
    exact ⟨owner, (resolvedOwner?_eq reading.claimed name).trans owned,
      exists_unique_class entity.keys name owner⟩
  case described =>
    intro f member
    obtain ⟨owned, field, found, shaped⟩ := described_of_mem_fields reading (made ▸ member)
    refine ⟨(resolvedOwner?_eq reading.claimed f.name).trans owned, field, ?_, shaped⟩
    rw [fieldsOf_eq_ok_iff.1 reading.declared]
    exact found
  case found => exact fun f member => (EntityPlan.field?_eq_some_iff distinct).2 ⟨member, rfl⟩
  case missing =>
    intro name absent
    rwa [EntityPlan.field?_eq_none_iff, listed]

/-- A plan of an entity accounts for the fields of its type, and what has been warned of are the
fields that nobody owns. -/
theorem accountsFor_of_planEntity (made : (fed.planEntity type).result = .ok entity) :
    entity.typeName = type ∧ fed.AccountsFor entity ∧
      (fed.planEntity type).warnings =
        (fed.fieldsOfClass entity .unowned).map (unownedWarning entity.typeName) := by
  obtain ⟨claims, keys, fields, fates, reading, rfl⟩ := planEntity_eq_ok_iff.1 made
  refine ⟨rfl, accountsFor_of_reading reading rfl, ?_⟩
  have dropped := @warnings_eq_unowned fed ⟨type, keys, fates.filterMap Disposition.plan?⟩ claims
    fates reading.claimed fields.entries reading.disposed
  rw [warnings_planEntity reading, dropped, fieldsOfClass, fieldNames_eq reading.declared]
  rfl

end Federation

/-! ### The whole plan -/

/-- Every plan that is made has exactly the entities, accounts for all their fields, and warns of
the fields that nobody owns, all in the order of the schema. -/
theorem compile_accounts_for_fields (p : Planner) (plan : Plan) (made : p.compile.1 = .ok plan) :
    plan.entities.keys = p.fed.entities ∧ p.fed.entities.Nodup ∧
      (∀ type entity, plan.entities.get? type = some entity →
        entity.typeName = type ∧ p.fed.AccountsFor entity) ∧
      plan.warnings = plan.entities.values.flatMap fun entity =>
        (p.fed.fieldsOfClass entity .unowned).map (unownedWarning entity.typeName) := by
  obtain ⟨table, _, _, planned, _, _, rfl⟩ := Federation.compile_eq_ok_iff.1 made
  have paired := Federation.planEntities_eq_ok_iff.1 planned
  refine ⟨Federation.names_of_forall₂ paired, p.fed.nodup_entities, ?_, ?_⟩
  · intro type entity found
    obtain ⟨_, _, rfl, one⟩ := exists_left_of_forall₂ paired (Table.get?_eq_some_iff.1 found)
    obtain ⟨named, accounts, _⟩ := Federation.accountsFor_of_planEntity one
    exact ⟨named, accounts⟩
  · change p.fed.planEntities.warnings = (table.entries.map Prod.snd).flatMap _
    rw [Federation.warnings_planEntities planned, List.flatMap_map]
    -- The induction is on the pairing of the entities with their plans.
    clear planned
    generalize p.fed.entities = types, table.entries = entries at paired
    induction paired with
    | nil => rfl
    | cons first _ ih =>
      have own := (Federation.accountsFor_of_planEntity first.2).2.2
      rw [List.flatMap_cons, List.flatMap_cons, ih, own]

/-! ### A store -/

/-- A field that some graphs claim. -/
def claimedField (type : TypeRef) (graphs : List String) : Schema.Field :=
  ⟨type, .empty, none, some (graphs.map fun graph => ⟨"join__field", [("graph", .enum graph)]⟩)⟩

/-- The claim of a graph that knows a type by a key. -/
def keyedClaim (graph key : String) : Sdl.Application :=
  ⟨"join__type", [("graph", .enum graph), ("key", .string key)]⟩

/-- The value that stands for a subgraph of a name and an address. -/
def registered (name url : String) : Schema.EnumValue :=
  ⟨some [⟨"join__graph", [("name", .string name), ("url", .string url)]⟩]⟩

/-- The schema of a store whose two subgraphs have the given names: both know the products by the
same key, and nobody owns the weight. -/
def storeSchema (inventory reviews : String) : Schema where
  types := Table.ofList
    [("Query", ⟨none, [], .object [] (Table.ofList
        [("product", claimedField (.named "Product") ["INVENTORY"])])⟩),
      ("Product", ⟨none, [keyedClaim "INVENTORY" "upc", keyedClaim "REVIEWS" "upc"],
        .object [] (Table.ofList
          [("upc", claimedField (.nonNull (.named "ID")) []),
            ("inStock", claimedField (.named "Boolean") ["INVENTORY"]),
            ("reviews", claimedField (.list (.named "String")) ["REVIEWS"]),
            ("weight", claimedField (.named "Int") [])])⟩),
      ("join__Graph", ⟨none, [], .enum (Table.ofList
        [("INVENTORY", registered inventory "http://inventory"),
          ("REVIEWS", registered reviews "http://reviews")])⟩),
      ("ID", ⟨none, [], .scalar true⟩), ("Boolean", ⟨none, [], .scalar true⟩),
      ("String", ⟨none, [], .scalar true⟩), ("Int", ⟨none, [], .scalar true⟩)]
  roots := [(.query, "Query")]
  directives := []

/-- A planner for the store. -/
def storePlanner (inventory reviews : String) : Planner :=
  .ofFederation ⟨storeSchema inventory reviews, Table.ofList
    [("INVENTORY", ⟨"INVENTORY", inventory, "http://inventory"⟩),
      ("REVIEWS", ⟨"REVIEWS", reviews, "http://reviews"⟩)]⟩

/-- The planner has the subgraphs that the schema registers. -/
theorem ofSchema_storeSchema (inventory reviews : String) :
    (Federation.ofSchema (storeSchema inventory reviews)).result =
      .ok (storePlanner inventory reviews).fed :=
  rfl

theorem storePlanner_accounts_for_fields :
    ∃ plan, (storePlanner "inventory" "reviews").compile.1 = .ok plan ∧
      plan.entities.keys = ["Product"] ∧
      (∃ entity, plan.entities.get? "Product" = some entity ∧
        entity.fieldNames = ["inStock", "reviews"] ∧
        (storePlanner "inventory" "reviews").fed.AccountsFor entity) ∧
      plan.warnings = [unownedWarning "Product" "weight"] := by
  obtain ⟨keys, _, accounts, warned⟩ :=
    compile_accounts_for_fields (storePlanner "inventory" "reviews") _ rfl
  exact ⟨_, rfl, keys, ⟨_, rfl, rfl, (accounts "Product" _ rfl).2⟩, warned⟩

end Supergraph
