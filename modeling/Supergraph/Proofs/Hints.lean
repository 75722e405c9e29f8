import Supergraph.Proofs.Denotation
import Supergraph.Proofs.Declarations
import Supergraph.Proofs.Schema.Defined

/-!
# Hints of planned and declared fields

The types of a schema that a text says can all be declared, since their fields have definitions and
a type reference without a shape has the opaque hint. An entity whose name is one of declared types
is planned and declared with the same hints: where the plan has a shape, the declaration has its
hint.

## Main results

* `Federation.exists_declarations` — declarations are made when the declared types are defined
* `Federation.exists_declaration_of_planEntity` — planned fields in the declaration of an entity
* `declarations_agree_with_plan` — plan and declarations of a schema that a text says
-/

namespace Supergraph

namespace Federation

variable {fed : Federation} {type name : String} {entity : EntityPlan} {f : FieldPlan}

/-! ### Declarations are made -/

theorem exists_fieldHint (type field : String) (ref : TypeRef) :
    ∃ hint, (fed.fieldHint type field true ref).result = .ok hint := by
  refine ⟨⟨field, fed.hintFor ref⟩, ?_⟩
  exact Traced.bind_eq_ok_iff.2 ⟨_, result_hintOf fed type field ref, rfl⟩

/-- Fields that have definitions have hints. -/
theorem exists_hints {α : Type} (type : String) (isDefined : α → Bool) (ref : α → TypeRef)
    {fields : List (String × α)} (defined : ∀ f ∈ fields, isDefined f.2) :
    ∃ hints, (fields.mapM fun (name, f) =>
      fed.fieldHint type name (isDefined f) (ref f)).result = .ok hints := by
  refine Traced.exists_mapM_iff.2 fun f member => ?_
  simp only [defined f member]
  exact exists_fieldHint type f.1 (ref f.2)

/-- A type whose fields have definitions can be declared, unless it needs no declaration. -/
theorem exists_declarationOf? (name : String) {type : Schema.NamedType}
    (defined : type.body.AllDefined) :
    ∃ outcome, (fed.declarationOf? name type).result = .ok outcome := by
  obtain ⟨description, applied, body⟩ := type
  -- Only hints of fields can be missing, so that types without fields are declared as they are.
  cases body with
  | scalar isStandard => cases isStandard <;> exact ⟨_, rfl⟩
  | union | enum => exact ⟨_, rfl⟩
  | object | interface =>
    obtain ⟨hints, read⟩ :=
      exists_hints name (fun f : Schema.Field => f.applied?.isSome) Schema.Field.type defined
    exact ⟨_, Traced.bind_eq_ok_iff.2 ⟨hints, read, rfl⟩⟩
  | input =>
    obtain ⟨hints, read⟩ :=
      exists_hints name Schema.InputValue.isDefined Schema.InputValue.type defined
    exact ⟨_, Traced.bind_eq_ok_iff.2 ⟨hints, read, rfl⟩⟩

/-- The declarations are made when all types with names for declared types have their definitions.
-/
theorem exists_declarations (defined : ∀ t ∈ fed.schema.types.entries, isDeclaredName t.1 →
    t.2.body.AllDefined) : ∃ ds, fed.declarations.result = .ok ds := by
  have each : ∃ found, ((fed.schema.types.entries.filter fun t => isDeclaredName t.1).mapM
      fun (t : String × Schema.NamedType) => fed.declarationOf? t.1 t.2).result = .ok found := by
    refine Traced.exists_mapM_iff.2 fun t member => ?_
    obtain ⟨present, declared⟩ := List.mem_filter.1 member
    exact exists_declarationOf? t.1 (defined t present declared)
  obtain ⟨found, read⟩ := each
  exact ⟨_, Traced.bind_eq_ok_iff.2 ⟨found, read, rfl⟩⟩

/-! ### Planned fields -/

/-- A type reference that has a shape has the hint of the shape. -/
theorem hintFor_of_shapeOf {ref : TypeRef} {shape : Shape} (shaped : fed.shapeOf ref = .ok shape) :
    fed.hintFor ref = shape.hint := by
  rw [hintFor, mapError_eq_ok_iff.1 shaped]

/-- An entity that is planned is an object type. -/
theorem exists_object_of_planEntity (made : (fed.planEntity type).result = .ok entity) :
    ∃ interfaces fields, fed.schema.body? type = some (.object interfaces fields) := by
  obtain ⟨rfl, accounts, _⟩ := accountsFor_of_planEntity made
  obtain ⟨fields, object⟩ := Option.isSome_iff_exists.1 accounts.object
  obtain ⟨body, present, same⟩ := Option.bind_eq_some_iff.1 object
  cases body with
  | object interfaces => exact ⟨interfaces, _, present⟩
  | _ => cases same

/-- A planned field is among the fields that its type is declared with, and has the same hint. -/
theorem hint_mem_declaredFields (made : (fed.planEntity type).result = .ok entity)
    {body : Schema.TypeBody} (present : fed.schema.body? type = some body)
    (planned : f ∈ entity.fields) :
    (⟨f.name, f.shape.hint⟩ : FieldHint) ∈
      body.declaredFields.map fun g => ⟨g.1, fed.hintFor g.2⟩ := by
  obtain ⟨rfl, accounts, _⟩ := accountsFor_of_planEntity made
  obtain ⟨_, field, found, shaped⟩ := accounts.described f planned
  obtain ⟨fields, object, among⟩ := Option.bind_eq_some_iff.1 found
  -- The plan looks the field up in the table whose entries the declaration lists.
  rw [Schema.fieldsOf?, present, Option.bind_some] at object
  cases body with
  | object =>
    cases object
    refine List.mem_map.2 ⟨(f.name, field.type), ?_, by rw [hintFor_of_shapeOf shaped]⟩
    exact List.mem_map.2 ⟨(f.name, field), Table.get?_eq_some_iff.1 among, rfl⟩
  | _ => cases object

/-- An entity that is planned is declared as an object when its name is one of declared types, and
its planned fields are in the declaration with the hints of their shapes. -/
theorem exists_declaration_of_planEntity {ds : List Declaration}
    (read : fed.declarations.result = .ok ds) (made : (fed.planEntity type).result = .ok entity)
    (declared : isDeclaredName type) :
    ∃ d ∈ ds, d.name = type ∧ d.kind = .object ∧
      ∀ f ∈ entity.fields, ⟨f.name, f.shape.hint⟩ ∈ d.fields := by
  obtain ⟨interfaces, fields, present⟩ := exists_object_of_planEntity made
  have listed : type ∈ ds.map Declaration.name := by
    rw [names_declarations read]
    exact mem_declaredTypes_iff.2 ⟨declared, _, present, rfl⟩
  obtain ⟨d, member, rfl⟩ := List.mem_map.1 listed
  obtain ⟨body, same, describes⟩ := describes_of_mem_declarations read member
  rw [present] at same
  cases same
  refine ⟨d, member, rfl, describes.kind, fun f planned => ?_⟩
  rw [describes.fields]
  exact hint_mem_declaredFields made present planned

end Federation

open Federation in
/-- The types of a schema that a text says are declared: those with names for declared types that
are no standard scalars, in the order of the types and each once, with all their fields in order and
the hints of their types. A plan that is made has these declarations, and every planned field of an
entity that is declared is in its declaration with the hint that it is planned with. -/
theorem declarations_agree_with_plan (p : Planner) {text : String}
    (loaded : Schema.load text = .ok p.fed.schema) :
    ∃ ds, p.fed.declarations.result = .ok ds ∧
      ds.map Declaration.name = (p.fed.schema.types.entries.filter fun t =>
        !t.2.body.isStandardScalar && isDeclaredName t.1).map Prod.fst ∧
      (ds.map Declaration.name).Nodup ∧
      (∀ d ∈ ds, ∃ body, p.fed.schema.body? d.name = some body ∧ p.fed.Describes d body) ∧
      ∀ plan, p.compile.1 = .ok plan → plan.declarations = ds ∧
        ∀ type e, plan.entities.get? type = some e → isDeclaredName type →
          ∃ d ∈ ds, d.name = type ∧ d.kind = .object ∧
            ∀ f ∈ e.fields, ⟨f.name, f.shape.hint⟩ ∈ d.fields := by
  have made : ∃ ds, p.fed.declarations.result = .ok ds :=
    exists_declarations fun t present declared =>
      Schema.allDefined_of_load loaded present declared
  obtain ⟨ds, read⟩ := made
  refine ⟨ds, read, names_declarations read, nodup_names_declarations read,
    fun d member => describes_of_mem_declarations read member, fun plan made => ?_⟩
  -- The declarations of a plan are read as they are here, after its entities and root fields.
  obtain ⟨_, _, others, _, _, readToo, rfl⟩ := compile_eq_ok_iff.1 made
  rw [read] at readToo
  cases readToo
  refine ⟨rfl, fun type e found declared => ?_⟩
  exact exists_declaration_of_planEntity read (planEntity_of_compile made found) declared

theorem loanText_declaration_agrees : ∃ p plan, Planner.ofText? loanText = some p ∧
    p.compile.1 = .ok plan ∧ plan.entities = loanEntities ∧
    ∃ d ∈ plan.declarations, d.name = "Loan" ∧
      ⟨"days", "Optional[list[Optional[int]]]"⟩ ∈ d.fields := by
  obtain ⟨p, plan, made, compiled, _, entities⟩ := exists_plan_loanText
  obtain ⟨ds, _, _, _, _, agree⟩ := declarations_agree_with_plan p (Planner.load_of_ofText? made)
  obtain ⟨rfl, each⟩ := agree plan compiled
  have planned : (plan.entities.get? "Loan").map EntityPlan.fields =
      some [⟨"days", ⟨.scalar, "Int", true, true, true⟩, "class"⟩] := by
    rw [entities]
    decide
  obtain ⟨e, found, fields⟩ := Option.map_eq_some_iff.1 planned
  obtain ⟨d, member, named, _, hints⟩ := each "Loan" e found (by decide)
  refine ⟨p, plan, made, compiled, entities, d, member, named, ?_⟩
  exact hints ⟨"days", ⟨.scalar, "Int", true, true, true⟩, "class"⟩ (by simp [fields])

end Supergraph
