import Mathlib.Data.List.Perm.Basic
import Mathlib.Data.Option.Basic
import Supergraph.Plan.Planner
import Supergraph.Proofs.RootTypes

/-!
# Entities are planned independently

The plan of an entity depends on the declaration of its type, on the registry, and on the kinds of
the types that its fields refer to, and on nothing else. So two schemas that declare a type alike
plan it alike, whatever their other types are, and reordering the types of a schema reorders the
plans and the warnings of the entities without changing any of them. Of the directives on a field
nothing counts but the owner that they claim.

## Main definitions

* `Schema.Field.Alike` — fields of one type with the same directives
* `Schema.DeclareAlike` — two schemas declare an object type alike
* `Join.readOwner?` — the owner that the directives on a field claim
* `Schema.Field.OwnedAlike`, `Schema.OwnAlike` — the same with only the owners alike

## Main results

* `Federation.planEntity_eq_of_ownAlike`, `Federation.planEntity_congr` — types with fields that are
  owned alike are planned alike, and so are types that are declared alike
* `Federation.result_ofSchema_of_perm` — reordering the types leaves the registry as it is
* `entities_are_independent` — other types and the order of types do not matter to an entity
-/

namespace Supergraph

/-! ### Lists that correspond -/

section Correspond

variable {α β γ : Type}

/-- Items that correspond are worked on alike, one after the other. -/
theorem mapM_congr_of_forall₂ {m : Type → Type} [Monad m] [LawfulMonad m] {f : α → m γ}
    {g : β → m γ} {xs : List α} {ys : List β} (same : List.Forall₂ (fun x y => f x = g y) xs ys) :
    xs.mapM f = ys.mapM g := by
  induction same with
  | nil => rw [List.mapM_nil, List.mapM_nil]
  | cons first _ ih => rw [List.mapM_cons, List.mapM_cons, first, ih]

/-- Values that correspond are found under the same names. -/
theorem rel_lookup_of_forall₂ {R : α → β → Prop} {fs : List (String × α)} {gs : List (String × β)}
    (paired : List.Forall₂ (fun f g => f.1 = g.1 ∧ R f.2 g.2) fs gs) (name : String) :
    Option.Rel R (fs.lookup name) (gs.lookup name) := by
  induction paired with
  | nil => exact .none
  | @cons f g _ _ first _ ih =>
    obtain ⟨named, related⟩ := first
    rw [List.lookup_cons, List.lookup_cons, ← named]
    by_cases here : name = f.1
    · simpa [here] using Option.Rel.some related
    · rw [beq_eq_false_iff_ne.2 here]
      exact ih

end Correspond

/-- The order of the entries does not matter to looking up. -/
theorem Table.get?_eq_of_perm {α : Type} {s t : Table α} (perm : s.entries.Perm t.entries)
    (name : String) : s.get? name = t.get? name := by
  refine Option.ext fun value => ?_
  rw [Table.get?_eq_some_iff, Table.get?_eq_some_iff, perm.mem_iff]

/-- The owner that the directives applied to a field claim, if their arguments can be read. -/
def Join.readOwner? (applied : List Sdl.Application) : Except WrongArgument (Option String) :=
  (fieldClaimsOf applied).map ownerOfFieldClaims?

namespace Schema

/-- Fields of one type with the same directives. Their arguments may differ. -/
def Field.Alike (f g : Field) : Prop :=
  f.type = g.type ∧ f.applied? = g.applied?

/-- Fields of one type that are defined or not alike, and whose directives claim the same owner. -/
structure Field.OwnedAlike (f g : Field) : Prop where
  type : f.type = g.type
  defined : f.applied?.isSome = g.applied?.isSome
  owner : Join.readOwner? (f.applied?.getD []) = Join.readOwner? (g.applied?.getD [])

/-- The directives that are applied to the type of a name. -/
def appliedTo? (schema : Schema) (type : String) : Option (List Sdl.Application) :=
  (schema.types.get? type).map NamedType.applied

/-- Two schemas declare an object type alike: with the same directives, and with the same fields in
the same order, which refer to types of the same kinds. -/
structure DeclareAlike (first second : Schema) (type : String) : Prop where
  applied : first.appliedTo? type = second.appliedTo? type
  fields : ∃ fs gs, first.fieldsOf? type = some fs ∧ second.fieldsOf? type = some gs ∧
    List.Forall₂ (fun f g => f.1 = g.1 ∧ f.2.Alike g.2) fs.entries gs.entries
  kinds : ∀ fs, first.fieldsOf? type = some fs → ∀ f ∈ fs.values, ∀ name,
    f.type.baseName? = some name → first.baseKind name = second.baseKind name

/-- Two schemas have an object type with the same directives, and with the same fields in the same
order, which are owned alike and refer to types of the same kinds. -/
structure OwnAlike (first second : Schema) (type : String) : Prop where
  applied : first.appliedTo? type = second.appliedTo? type
  fields : ∃ fs gs, first.fieldsOf? type = some fs ∧ second.fieldsOf? type = some gs ∧
    List.Forall₂ (fun f g => f.1 = g.1 ∧ f.2.OwnedAlike g.2) fs.entries gs.entries
  kinds : ∀ fs, first.fieldsOf? type = some fs → ∀ f ∈ fs.values, ∀ name,
    f.type.baseName? = some name → first.baseKind name = second.baseKind name

theorem Field.Alike.ownedAlike {f g : Field} (alike : f.Alike g) : f.OwnedAlike g := by
  obtain ⟨type, applied⟩ := alike
  exact ⟨type, by rw [applied], by rw [applied]⟩

variable {first second : Schema} {type : String}

/-- A type that is declared alike is owned alike. -/
theorem DeclareAlike.ownAlike (alike : first.DeclareAlike second type) :
    first.OwnAlike second type := by
  obtain ⟨fs, gs, declared, declaredToo, paired⟩ := alike.fields
  refine ⟨alike.applied, ⟨fs, gs, declared, declaredToo, paired.imp ?_⟩, alike.kinds⟩
  exact fun _ _ => And.imp_right Field.Alike.ownedAlike

/-- Schemas that find the same types declare every object type alike. -/
theorem declareAlike_of_get? (same : ∀ name, first.types.get? name = second.types.get? name)
    (object : (first.fieldsOf? type).isSome) : first.DeclareAlike second type := by
  have body : ∀ name, first.body? name = second.body? name := fun name => by
    rw [body?, body?, same]
  obtain ⟨fields, found⟩ := Option.isSome_iff_exists.1 object
  have foundToo : second.fieldsOf? type = some fields := by
    rw [fieldsOf?, ← body, ← fieldsOf?, found]
  refine ⟨?applied, ⟨fields, fields, found, foundToo, ?same⟩, ?kinds⟩
  case applied => rw [appliedTo?, appliedTo?, same]
  case same => exact List.forall₂_same.2 fun _ _ => ⟨rfl, rfl, rfl⟩
  case kinds =>
    intro _ _ _ _ name _
    rw [baseKind, baseKind, body]

end Schema

/-- The shape of a reference depends on the kind of its base alone. -/
theorem Shape.descend_congr {first second : Schema} {ref : TypeRef}
    (kinds : ∀ name, ref.baseName? = some name → first.baseKind name = second.baseKind name)
    (depth : Nat) (nullable : Bool) (listNullable : Option Bool) :
    Shape.descend first depth nullable listNullable ref =
      Shape.descend second depth nullable listNullable ref := by
  induction ref generalizing depth nullable listNullable with
  | named name => rw [Shape.descend, Shape.descend, kinds name rfl]
  | list item ih =>
    -- A list in a list is refused before its base is looked at.
    cases listNullable with
    | none => rw [Shape.descend, Shape.descend, ih kinds]
    | some _ => rfl
  | nonNull item ih => rw [Shape.descend, Shape.descend, ih kinds]
  | absent => rfl

namespace Federation

/-! ### One entity -/

section Entity

variable {fed other : Federation} {type : String}

/-- The claims on an object type are the directives that are applied to it. -/
theorem typeClaims_of_object {schema : Schema} {applied : List Sdl.Application}
    (object : (schema.fieldsOf? type).isSome) (found : schema.appliedTo? type = some applied) :
    Join.typeClaims schema type = Join.typeClaimsOf applied := by
  obtain ⟨⟨_, _, body⟩, present, rfl⟩ := Option.map_eq_some_iff.1 found
  rw [Schema.fieldsOf?, Schema.body?, present] at object
  rw [Join.typeClaims, present]
  cases body with
  | object => rfl
  | _ => cases object

variable (registry : ∀ graph, fed.subgraphs.get? graph = other.subgraphs.get? graph)
  (alike : fed.schema.OwnAlike other.schema type)

include alike in
theorem typeClaims_congr : fed.typeClaims type = other.typeClaims type := by
  obtain ⟨fs, gs, declared, declaredToo, _⟩ := alike.fields
  have object : (fed.schema.fieldsOf? type).isSome := by rw [declared, Option.isSome_some]
  have objectToo : (other.schema.fieldsOf? type).isSome := by rw [declaredToo, Option.isSome_some]
  -- Types of other kinds have no claims, whatever is applied to them.
  rw [typeClaims, typeClaims]
  cases found : fed.schema.appliedTo? type with
  | none =>
    have absent := Option.map_eq_none_iff.1 found
    rw [Schema.fieldsOf?, Schema.body?, absent] at declared
    cases declared
  | some applied =>
    rw [typeClaims_of_object object found,
      typeClaims_of_object objectToo (alike.applied ▸ found)]

include alike in
/-- The owner by the claims on a field is the same, though the claims may differ. -/
theorem ownerByFieldClaims_congr (name : String) :
    (fed.fieldClaims type name).map Join.ownerOfFieldClaims? =
      (other.fieldClaims type name).map Join.ownerOfFieldClaims? := by
  obtain ⟨fs, gs, declared, declaredToo, paired⟩ := alike.fields
  have read : (Join.fieldClaims fed.schema type name).map Join.ownerOfFieldClaims? =
      (Join.fieldClaims other.schema type name).map Join.ownerOfFieldClaims? := by
    rw [Join.fieldClaims, Join.fieldClaims, declared, declaredToo, Option.bind_some,
      Option.bind_some, Table.get?, Table.get?]
    have found := rel_lookup_of_forall₂ paired name
    generalize fs.entries.lookup name = f, gs.entries.lookup name = g at found ⊢
    cases found with
    | none => rfl
    | some same => exact same.owner
  rw [fieldClaims, fieldClaims, map_mapError_except, read, ← map_mapError_except]

include registry in
theorem requireSubgraph_congr (graph place : String) :
    fed.requireSubgraph graph place = other.requireSubgraph graph place := by
  rw [requireSubgraph, requireSubgraph, registry]

/-- Of the claims on a field only the owner that they yield counts. -/
theorem ownerOf?_eq_bind (fed : Federation) (type name : String) (claims : List Join.TypeClaim) :
    fed.ownerOf? type name claims =
      (do
        let own ← (fed.fieldClaims type name).map Join.ownerOfFieldClaims?
        match own.or (Join.ownerOfTypeClaims? claims) with
        | none => return none
        | some graph =>
          let _ ← fed.requireSubgraph graph s!"{type}.{name}"
          return some graph) := by
  rw [ownerOf?]
  cases fed.fieldClaims type name <;> rfl

include registry alike in
theorem ownerOf?_congr (name : String) (claims : List Join.TypeClaim) :
    fed.ownerOf? type name claims = other.ownerOf? type name claims := by
  rw [ownerOf?_eq_bind, ownerOf?_eq_bind, ownerByFieldClaims_congr alike]
  simp only [requireSubgraph_congr registry]

theorem firstIdentifier?_congr {fs gs : List (String × Schema.Field)}
    (paired : List.Forall₂ (fun f g => f.1 = g.1 ∧ f.2.OwnedAlike g.2) fs gs) :
    firstIdentifier? fs = firstIdentifier? gs := by
  induction paired with
  | nil => rfl
  | @cons f g _ _ first _ ih =>
    obtain ⟨named, type, defined, _⟩ := first
    rw [firstIdentifier?, firstIdentifier?, named, type, defined, ih]

include alike in
theorem keyFor_congr (claim : Join.TypeClaim) :
    fed.keyFor type claim = other.keyFor type claim := by
  obtain ⟨fs, gs, declared, declaredToo, paired⟩ := alike.fields
  rw [keyFor, keyFor]
  split
  · rfl
  · rw [fieldsOf_eq_ok_iff.2 declared, fieldsOf_eq_ok_iff.2 declaredToo]
    change Traced.andThen _ _ = Traced.andThen _ _
    simp only [Traced.andThen, Traced.check, Except.mapError, firstIdentifier?_congr paired]

include registry alike in
theorem keysFor_congr (claims : List Join.TypeClaim) :
    fed.keysFor type claims = other.keysFor type claims := by
  have each : fed.claimedKey type = other.claimedKey type := funext fun claim => by
    rw [claimedKey, claimedKey]
    simp only [requireSubgraph_congr registry, keyFor_congr alike]
  rw [keysFor, keysFor, each]

include registry alike in
/-- Fields that are owned alike are planned alike. -/
theorem planField_congr {f g : Schema.Field} (same : f.OwnedAlike g)
    (kinds : ∀ name, f.type.baseName? = some name →
      fed.schema.baseKind name = other.schema.baseKind name)
    (claims : List Join.TypeClaim) (keys : Table String) (name : String) :
    fed.planField type claims keys name f = other.planField type claims keys name g := by
  have shaped : fed.shapeOf f.type = other.shapeOf g.type := by
    rw [shapeOf, shapeOf, Shape.ofTypeRef, Shape.ofTypeRef, Shape.descend_congr kinds, same.type]
  have undefined : f.applied?.isNone = g.applied?.isNone := by
    rw [← Option.not_isSome, ← Option.not_isSome, same.defined]
  rw [planField, planField, disposition, disposition, ownerOf?_congr registry alike, shaped,
    undefined]

include registry alike in
/-- Types with fields that are owned alike are planned alike, with the same events. -/
theorem planEntity_eq_of_ownAlike : fed.planEntity type = other.planEntity type := by
  obtain ⟨fs, gs, declared, declaredToo, paired⟩ := alike.fields
  rw [planEntity, planEntity, typeClaims_congr alike]
  refine bind_congr fun claims => ?_
  rw [keysFor_congr registry alike]
  refine bind_congr fun keys => ?_
  rw [fieldsOf_eq_ok_iff.2 declared, fieldsOf_eq_ok_iff.2 declaredToo]
  -- The tables of fields may differ, so that the plans of their fields are compared one by one.
  have planned : (fs.entries.mapM fun f => fed.planField type claims keys f.1 f.2) =
      gs.entries.mapM fun g => other.planField type claims keys g.1 g.2 := by
    have member : ∀ f ∈ fs.entries, f ∈ fs.entries := fun _ => id
    refine mapM_congr_of_forall₂ (((List.forall₂_and_left _ _).2 ⟨member, paired⟩).imp ?_)
    rintro ⟨name, f⟩ ⟨_, g⟩ ⟨inside, rfl, same⟩
    exact planField_congr registry alike same
      (alike.kinds fs declared f (List.mem_map_of_mem inside)) claims keys name
  change ((fs.entries.mapM fun f => fed.planField type claims keys f.1 f.2) >>= _) =
    ((gs.entries.mapM fun g => other.planField type claims keys g.1 g.2) >>= _)
  rw [planned]

/-- Types that are declared alike are planned alike, with the same events. -/
theorem planEntity_congr (registry : ∀ graph, fed.subgraphs.get? graph = other.subgraphs.get? graph)
    (alike : fed.schema.DeclareAlike other.schema type) :
    fed.planEntity type = other.planEntity type :=
  planEntity_eq_of_ownAlike registry alike.ownAlike

end Entity

/-! ### All entities -/

section Entities

variable {fed other : Federation} {type : String}

/-- All entities can be planned when each of them can. -/
theorem exists_planEntities_iff : (∃ table, fed.planEntities.result = .ok table) ↔
    ∀ type ∈ fed.entities, ∃ entity, (fed.planEntity type).result = .ok entity := by
  have named : ∀ type, (∃ entry,
      (do return (type, ← fed.planEntity type) : Traced (String × EntityPlan)).result = .ok entry) ↔
        ∃ entity, (fed.planEntity type).result = .ok entity := by
    intro type
    simp only [planNamed_eq_ok_iff]
    exact ⟨fun ⟨entry, _, made⟩ => ⟨entry.2, made⟩,
      fun ⟨entity, made⟩ => ⟨(type, entity), rfl, made⟩⟩
  simp only [← named, ← Traced.exists_mapM_iff]
  rw [planEntities]
  constructor
  · rintro ⟨table, made⟩
    obtain ⟨entries, planned, _⟩ := Traced.bind_eq_ok_iff.1 made
    exact ⟨entries, planned⟩
  · rintro ⟨entries, planned⟩
    exact ⟨_, Traced.bind_eq_ok_iff.2 ⟨entries, planned, rfl⟩⟩

/-- The plans of all entities are the plans of each of them. -/
theorem get?_planEntities_eq_some_iff {table : Table EntityPlan} {entity : EntityPlan}
    (made : fed.planEntities.result = .ok table) :
    table.get? type = some entity ↔
      type ∈ fed.entities ∧ (fed.planEntity type).result = .ok entity := by
  have paired := planEntities_eq_ok_iff.1 made
  rw [Table.get?_eq_some_iff]
  constructor
  · intro member
    obtain ⟨_, listed, rfl, planned⟩ := exists_left_of_forall₂ paired member
    exact ⟨listed, planned⟩
  · rintro ⟨listed, planned⟩
    obtain ⟨⟨_, found⟩, member, rfl, plannedToo⟩ := exists_right_of_forall₂ paired listed
    cases planned.symm.trans plannedToo
    exact member

variable (perm : fed.schema.types.entries.Perm other.schema.types.entries)

include perm in
/-- Reordering the types reorders the entities. -/
theorem perm_entities : fed.entities.Perm other.entities :=
  (perm.filter _).map _

include perm in
/-- The order of the types does not matter to the plan of an entity. -/
theorem planEntity_eq_of_perm
    (registry : ∀ graph, fed.subgraphs.get? graph = other.subgraphs.get? graph)
    (member : type ∈ fed.entities) : fed.planEntity type = other.planEntity type :=
  planEntity_congr registry
    (Schema.declareAlike_of_get? (Table.get?_eq_of_perm perm) (mem_entities_iff.1 member).1)

end Entities

/-- A schema with the registry of another is planned with its subgraphs. -/
theorem result_ofSchema_of_registry {schema : Schema} {fed : Federation}
    (same : Join.registry? schema = Join.registry? fed.schema)
    (made : (ofSchema fed.schema).result = .ok fed) :
    (ofSchema schema).result = .ok ⟨schema, fed.subgraphs⟩ := by
  obtain ⟨registry, read, last⟩ := Traced.bind_eq_ok_iff.1 made
  rw [← same] at read
  refine Traced.bind_eq_ok_iff.2 ⟨registry, read, ?_⟩
  -- A schema without a registry is planned with the empty one.
  cases registry with
  | none =>
    have empty : (.empty : Table Subgraph) = fed.subgraphs :=
      congrArg Federation.subgraphs (Except.ok.inj last)
    rw [← empty]
    rfl
  | some subgraphs =>
    have read : subgraphs = fed.subgraphs := congrArg Federation.subgraphs (Except.ok.inj last)
    rw [← read]
    rfl

/-- Reordering the types leaves the registry as it is. -/
theorem result_ofSchema_of_perm {schema : Schema} {fed : Federation}
    (perm : fed.schema.types.entries.Perm schema.types.entries)
    (made : (ofSchema fed.schema).result = .ok fed) :
    (ofSchema schema).result = .ok ⟨schema, fed.subgraphs⟩ := by
  refine result_ofSchema_of_registry ?_ made
  rw [Join.registry?, Join.registry?, Schema.body?, Schema.body?, Table.get?_eq_of_perm perm]

end Federation

/-! ### Independence -/

/-- Two planners with one registry plan a type that is declared alike for both alike, and warn of
the same, whatever their other types are. So for the types of one schema in another order all
entities can be planned or not as in the first order; then they have the same plans, and each is
warned of as in the first order, when it comes to it. -/
theorem entities_are_independent (p : Planner) :
    (∀ q : Planner, (∀ graph, p.fed.subgraphs.get? graph = q.fed.subgraphs.get? graph) →
      ∀ type, p.fed.schema.DeclareAlike q.fed.schema type →
        (p.planEntity type).1 = (q.planEntity type).1 ∧
          ∃ told, (p.planEntity type).2.warnings = p.warnings ++ told ∧
            (q.planEntity type).2.warnings = q.warnings ++ told) ∧
    ∀ schema : Schema, p.fed.schema.types.entries.Perm schema.types.entries →
      ((Federation.ofSchema p.fed.schema).result = .ok p.fed →
        (Federation.ofSchema schema).result = .ok ⟨schema, p.fed.subgraphs⟩) ∧
      ∀ q : Planner, q.fed = ⟨schema, p.fed.subgraphs⟩ →
        p.fed.entities.Perm q.fed.entities ∧
        ((∃ plans, p.planEntities.1 = .ok plans) ↔ ∃ plans, q.planEntities.1 = .ok plans) ∧
        ∀ plans reordered, p.planEntities.1 = .ok plans → q.planEntities.1 = .ok reordered →
          (∀ type, plans.get? type = reordered.get? type) ∧
          p.planEntities.2.warnings = p.warnings ++
            p.fed.entities.flatMap (fun type => (p.fed.planEntity type).warnings) ∧
          q.planEntities.2.warnings = q.warnings ++
            q.fed.entities.flatMap (fun type => (p.fed.planEntity type).warnings) := by
  refine ⟨fun q registry type alike => ?alike, fun schema perm =>
    ⟨Federation.result_ofSchema_of_perm perm, fun q read => ?reordered⟩⟩
  case alike =>
    -- What is told is the events of the second planner, which are those of the first.
    have same := Federation.planEntity_congr registry alike
    refine ⟨congrArg Traced.result same, _, rfl, ?_⟩
    exact congrArg (fun step : Traced EntityPlan => q.warnings ++ step.warnings) same.symm
  case reordered =>
    have perm : p.fed.schema.types.entries.Perm q.fed.schema.types.entries := by rwa [read]
    have same : ∀ type ∈ p.fed.entities, p.fed.planEntity type = q.fed.planEntity type :=
      fun type member => Federation.planEntity_eq_of_perm perm (fun _ => by rw [read]) member
    have entities := Federation.perm_entities perm
    refine ⟨entities, ?_, fun plans reordered made madeToo => ⟨fun type => ?_, ?_, ?_⟩⟩
    · change (∃ plans, p.fed.planEntities.result = .ok plans) ↔
        ∃ plans, q.fed.planEntities.result = .ok plans
      rw [Federation.exists_planEntities_iff, Federation.exists_planEntities_iff]
      refine forall_congr' fun type => ?_
      rw [← entities.mem_iff]
      exact forall_congr' fun member => by rw [same type member]
    · refine Option.ext fun entity => ?_
      rw [Federation.get?_planEntities_eq_some_iff made,
        Federation.get?_planEntities_eq_some_iff madeToo, ← entities.mem_iff]
      exact and_congr_right fun member => by rw [same type member]
    · exact congrArg (p.warnings ++ ·) (Federation.warnings_planEntities made)
    · refine (congrArg (q.warnings ++ ·) (Federation.warnings_planEntities madeToo)).trans ?_
      refine congrArg (q.warnings ++ ·) (List.flatMap_congr fun type member => ?_)
      rw [same type (entities.mem_iff.2 member)]

/-- A store with reviews, whose text nobody owns. -/
def reviewedStore : Planner :=
  let store := (storePlanner "inventory" "reviews").fed
  .ofFederation { store with
    schema := { store.schema with
      types := store.schema.types.insert "Review"
        ⟨none, [], .object [] (Table.ofList [("text", claimedField (.named "String") [])])⟩ } }

/-- The types of a schema in the opposite order. -/
def Schema.reverse (schema : Schema) : Schema :=
  { schema with
    types := ⟨schema.types.entries.reverse, by
      rw [List.map_reverse, List.nodup_reverse]
      exact schema.types.nodup_names⟩ }

/-- The store with the reviews declares its products as the store without them. -/
theorem declareAlike_reviewedStore : reviewedStore.fed.schema.DeclareAlike
    (storePlanner "inventory" "reviews").fed.schema "Product" := by
  refine ⟨rfl, ⟨_, _, rfl, rfl, List.forall₂_same.2 fun _ _ => ⟨rfl, rfl, rfl⟩⟩, ?_⟩
  intro fs found f member name base
  have others : ∀ f ∈ fs.values, f.type.baseName? ≠ some "Review" := by
    obtain rfl := Option.some.inj found
    decide
  have other : name ≠ "Review" := by
    rintro rfl
    exact others f member base
  have same : reviewedStore.fed.schema.types.get? name =
      (storePlanner "inventory" "reviews").fed.schema.types.get? name := by
    refine (Table.get?_insert _ _ _ _).trans ?_
    rw [if_neg other]
  rw [Schema.baseKind, Schema.baseKind, Schema.body?, Schema.body?, same]

/-- The products are planned with and without the reviews alike, and in the opposite order the
reviews are warned of before the products. -/
theorem reviewedStore_plans_independently :
    (reviewedStore.planEntity "Product").1 =
        ((storePlanner "inventory" "reviews").planEntity "Product").1 ∧
      ∃ q : Planner,
        (Federation.ofSchema reviewedStore.fed.schema.reverse).result = .ok q.fed ∧
        reviewedStore.fed.entities = ["Product", "Review"] ∧
        q.fed.entities = ["Review", "Product"] ∧
        ∃ plans reordered, reviewedStore.planEntities.1 = .ok plans ∧
          q.planEntities.1 = .ok reordered ∧
          plans.get? "Product" = reordered.get? "Product" ∧
          q.planEntities.2.warnings =
            [unownedWarning "Review" "text", unownedWarning "Product" "weight"] := by
  obtain ⟨alike, reorder⟩ := entities_are_independent reviewedStore
  obtain ⟨planned, _⟩ := alike (storePlanner "inventory" "reviews") (fun _ => rfl) "Product"
    declareAlike_reviewedStore
  obtain ⟨read, whole⟩ := reorder reviewedStore.fed.schema.reverse (List.reverse_perm _).symm
  obtain ⟨_, both, same⟩ := whole (.ofFederation ⟨_, reviewedStore.fed.subgraphs⟩) rfl
  have made : ∃ plans, reviewedStore.planEntities.1 = .ok plans := ⟨_, rfl⟩
  obtain ⟨plans, made⟩ := made
  obtain ⟨reordered, madeToo⟩ := both.1 ⟨plans, made⟩
  obtain ⟨found, _, warned⟩ := same plans reordered made madeToo
  exact ⟨planned, _, read rfl, rfl, rfl, plans, reordered, made, madeToo, found "Product", warned⟩

end Supergraph
