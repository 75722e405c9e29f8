import Supergraph.Proofs.Declarations
import Supergraph.Proofs.Registered

/-!
# Types that are referred to

The hints of planned fields, of root fields, of their arguments and of declared fields refer to
types, and declared unions refer to their members. All of these are types of the schema other than
standard scalars, so that whether such a type is declared depends on its name alone.

## Main definitions

* `Plan.RefersTo` — the names that a plan refers to
* `Schema.IsNamed` — the types that hints call by their names

## Main results

* `Shape.baseKind_of_ofTypeRef` — the base of a shape is a type of the schema
* `referenced_type_declared` — when a type that is referred to is declared
-/

namespace Supergraph

/-- The names that a plan refers to as types with a declaration of their own: in the hints of its
fields and arguments, in those of its declarations, and as members of its unions. -/
inductive Plan.RefersTo (plan : Plan) (schema : Schema) : String → Prop
  | plannedField {entity : EntityPlan} {f : FieldPlan} (planned : entity ∈ plan.entities.values)
      (member : f ∈ entity.fields) (object : f.shape.kind = .object) :
      RefersTo plan schema f.shape.name
  | rootField {r : RootField} (member : r ∈ plan.rootFields) (object : r.shape.kind = .object) :
      RefersTo plan schema r.shape.name
  | argument {r : RootField} {a : ArgumentPlan} (member : r ∈ plan.rootFields)
      (listed : a ∈ r.arguments) (object : a.shape.kind = .object) :
      RefersTo plan schema a.shape.name
  | declaredField {d : Declaration} {body : Schema.TypeBody} {name : String} {ref : TypeRef}
      {shape : Shape} (member : d ∈ plan.declarations) (present : schema.body? d.name = some body)
      (listed : (name, ref) ∈ body.declaredFields) (shaped : Shape.ofTypeRef schema ref = .ok shape)
      (object : shape.kind = .object) : RefersTo plan schema shape.name
  | unionMember {d : Declaration} {name : String} (member : d ∈ plan.declarations)
      (union : d.kind = .union) (listed : name ∈ d.members) : RefersTo plan schema name

/-! ### Shapes -/

section Shapes

variable {schema : Schema} {name : String} {shape : Shape}

theorem Shape.baseKind_of_descend {depth : Nat} {nullable : Bool} {listNullable : Option Bool}
    {ref : TypeRef} (shaped : Shape.descend schema depth nullable listNullable ref = .ok shape) :
    schema.baseKind shape.name = .ok shape.kind := by
  fun_induction Shape.descend schema depth nullable listNullable ref with
  | case1 => cases shaped
  | case2 _ _ _ _ ih => exact ih shaped
  | case3 => cases shaped
  | case4 => cases shaped
  | case5 _ _ _ _ ih => exact ih shaped
  | case6 =>
    obtain ⟨kind, known, last⟩ := bind_except_eq_ok_iff.1 shaped
    cases last
    exact known
  | case7 => cases shaped

/-- The base of a shape is a type of the schema of the kind that the shape gives. -/
theorem Shape.baseKind_of_ofTypeRef {ref : TypeRef}
    (shaped : Shape.ofTypeRef schema ref = .ok shape) :
    schema.baseKind shape.name = .ok shape.kind :=
  Shape.baseKind_of_descend shaped

/-- A type of the schema that hints call by its name. -/
def Schema.IsNamed (schema : Schema) (name : String) : Prop :=
  ∃ body, schema.body? name = some body ∧ body.isStandardScalar = false

theorem isNamed_of_baseKind (known : schema.baseKind name = .ok .object) :
    schema.IsNamed name := by
  rw [Schema.baseKind] at known
  cases present : schema.body? name with
  | none =>
    rw [present] at known
    cases known
  | some body =>
    rw [present] at known
    refine ⟨body, present, ?_⟩
    cases body with
    | scalar => cases known
    | _ => rfl

theorem isNamed_of_shape {ref : TypeRef} (shaped : Shape.ofTypeRef schema ref = .ok shape)
    (object : shape.kind = .object) : schema.IsNamed shape.name := by
  have known := Shape.baseKind_of_ofTypeRef shaped
  rw [object] at known
  exact isNamed_of_baseKind known

theorem isNamed_of_object (object : (schema.fieldsOf? name).isSome) : schema.IsNamed name := by
  obtain ⟨fields, found⟩ := Option.isSome_iff_exists.1 object
  obtain ⟨body, present, inside⟩ := Option.bind_eq_some_iff.1 found
  refine ⟨body, present, ?_⟩
  cases body with
  | object => rfl
  | _ => cases inside

end Shapes

/-! ### References -/

section References

variable {fed : Federation} {plan : Plan} {name : String}

theorem Federation.ofTypeRef_of_shapeOf {ref : TypeRef} {shape : Shape}
    (shaped : fed.shapeOf ref = .ok shape) : Shape.ofTypeRef fed.schema ref = .ok shape :=
  mapError_eq_ok_iff.1 shaped

/-- The argument of a root field has the shape of a type reference. -/
theorem exists_ofTypeRef_of_argument (made : fed.compile.result = .ok plan) {r : RootField}
    (member : r ∈ plan.rootFields) {a : ArgumentPlan} (listed : a ∈ r.arguments) :
    ∃ ref, Shape.ofTypeRef fed.schema ref = .ok a.shape := by
  obtain ⟨_, _, _, _, routed, _, rfl⟩ := Federation.compile_eq_ok_iff.1 made
  obtain ⟨type, field, planned⟩ := Federation.exists_planRootField_of_mem routed member
  obtain ⟨_, _, _, arguments, _, _, each, same⟩ := Federation.planRootField_eq_ok_iff.1 planned
  rw [same] at listed
  obtain ⟨⟨argument, value⟩, _, one⟩ :=
    exists_left_of_forall₂ (mapM_except_eq_ok_iff.1 each) listed
  simp only [Federation.planArgument] at one
  split at one
  next =>
    obtain ⟨shape, shaped, last⟩ := bind_except_eq_ok_iff.1 one
    cases last
    exact ⟨value.type, Federation.ofTypeRef_of_shapeOf shaped⟩
  next => cases one

theorem exists_ofTypeRef_of_rootField (made : fed.compile.result = .ok plan) {r : RootField}
    (member : r ∈ plan.rootFields) : ∃ ref, Shape.ofTypeRef fed.schema ref = .ok r.shape := by
  obtain ⟨_, _, _, _, routed, _, rfl⟩ := Federation.compile_eq_ok_iff.1 made
  obtain ⟨type, field, planned⟩ := Federation.exists_planRootField_of_mem routed member
  obtain ⟨_, _, _, _, shaped, _, _, same⟩ := Federation.planRootField_eq_ok_iff.1 planned
  refine ⟨field.type, ?_⟩
  rw [same]
  exact Federation.ofTypeRef_of_shapeOf shaped

theorem exists_ofTypeRef_of_plannedField (made : fed.compile.result = .ok plan)
    {entity : EntityPlan} (planned : entity ∈ plan.entities.values) {f : FieldPlan}
    (member : f ∈ entity.fields) : ∃ ref, Shape.ofTypeRef fed.schema ref = .ok f.shape := by
  obtain ⟨⟨type, _⟩, listed, rfl⟩ := List.mem_map.1 planned
  have one := Federation.planEntity_of_compile made (Table.get?_eq_some_iff.2 listed)
  obtain ⟨claims, keys, fields, fates, reading, same⟩ := Federation.planEntity_eq_ok_iff.1 one
  rw [same] at member
  obtain ⟨_, field, _, shaped⟩ := Federation.described_of_mem_fields reading member
  exact ⟨field.type, Federation.ofTypeRef_of_shapeOf shaped⟩

/-- The names that a plan refers to are those of types of the schema other than standard scalars. -/
theorem isNamed_of_refersTo (made : fed.compile.result = .ok plan)
    (unions : fed.schema.UnionsHoldObjects) (refers : plan.RefersTo fed.schema name) :
    fed.schema.IsNamed name := by
  cases refers with
  | plannedField planned member object =>
    obtain ⟨_, shaped⟩ := exists_ofTypeRef_of_plannedField made planned member
    exact isNamed_of_shape shaped object
  | rootField member object =>
    obtain ⟨_, shaped⟩ := exists_ofTypeRef_of_rootField made member
    exact isNamed_of_shape shaped object
  | argument member listed object =>
    obtain ⟨_, shaped⟩ := exists_ofTypeRef_of_argument made member listed
    exact isNamed_of_shape shaped object
  | declaredField _ _ _ shaped object => exact isNamed_of_shape shaped object
  | @unionMember d _ member union listed =>
    obtain ⟨_, _, _, _, _, declared, rfl⟩ := Federation.compile_eq_ok_iff.1 made
    obtain ⟨body, present, describes⟩ := Federation.describes_of_mem_declarations declared member
    have kind := describes.kind
    rw [union] at kind
    cases body with
    | union members =>
      rw [describes.members] at listed
      exact isNamed_of_object (unions d.name members present name listed)
    | _ => cases kind

end References

/-! ### A text -/

/-- A supergraph with a union and with a type of a name that declared types do not have. -/
def thingText : String :=
  "type Query \x7b thing: Thing \x7d\n"
    ++ "union Thing = Node\n"
    ++ "type Node \x7b note: acme__Note \x7d\n"
    ++ "type acme__Note \x7b text: String \x7d\n"

theorem exists_plan_thingText : ∃ p plan, Planner.ofText? thingText = some p ∧
    p.compile.1 = .ok plan ∧
    plan.declarations = [⟨.union, "Thing", [], ["Node"], none⟩,
      ⟨.object, "Node", [⟨"note", "Optional[acme__Note]"⟩], [], none⟩] ∧
    (p.fed.schema.body? "Node").map Schema.TypeBody.declaredFields =
      some [("note", .named "acme__Note")] ∧
    (Shape.ofTypeRef p.fed.schema (.named "acme__Note")).toOption =
      some ⟨.object, "acme__Note", true, false, false⟩ := by
  have computed : ((Planner.ofText? thingText).any fun p => p.compile.1.toOption.any fun plan =>
      plan.declarations = [⟨.union, "Thing", [], ["Node"], none⟩,
        ⟨.object, "Node", [⟨"note", "Optional[acme__Note]"⟩], [], none⟩] ∧
      (p.fed.schema.body? "Node").map Schema.TypeBody.declaredFields =
        some [("note", .named "acme__Note")] ∧
      (Shape.ofTypeRef p.fed.schema (.named "acme__Note")).toOption =
        some ⟨.object, "acme__Note", true, false, false⟩) = true := by
    decide +kernel
  obtain ⟨p, plan, made, compiled, facts⟩ := Planner.exists_plan_of_any computed
  exact ⟨p, plan, made, compiled, of_decide_eq_true facts⟩

/-! ### Declared references -/

/-- A type that a plan refers to is declared once when its name is one of declared types, and
otherwise not at all. -/
theorem referenced_type_declared (p : Planner) (loaded : p.fed.schema.IsLoaded) (plan : Plan)
    (made : p.compile.1 = .ok plan) (name : String) (refers : plan.RefersTo p.fed.schema name) :
    (plan.declarations.map Declaration.name).count name = if isDeclaredName name then 1 else 0 := by
  obtain ⟨body, present, other⟩ := isNamed_of_refersTo made loaded.isSound.members refers
  obtain ⟨_, _, _, _, _, declared, rfl⟩ := Federation.compile_eq_ok_iff.1 made
  exact Federation.count_names_declarations declared present other

theorem thingText_declares_member : ∃ p plan, Planner.ofText? thingText = some p ∧
    p.fed.schema.IsLoaded ∧ p.compile.1 = .ok plan ∧ plan.RefersTo p.fed.schema "Node" ∧
    (plan.declarations.map Declaration.name).count "Node" = 1 := by
  obtain ⟨p, plan, made, compiled, declarations, _⟩ := exists_plan_thingText
  have loaded := Planner.isLoaded_of_ofText? made
  have refers : plan.RefersTo p.fed.schema "Node" := by
    have union : ⟨.union, "Thing", [], ["Node"], none⟩ ∈ plan.declarations := by
      rw [declarations]
      exact List.mem_cons_self
    exact .unionMember union rfl List.mem_cons_self
  exact ⟨p, plan, made, loaded, compiled, refers,
    referenced_type_declared p loaded plan compiled "Node" refers⟩

/-- A field of a declared type refers to a type that is not declared. -/
theorem thingText_lacks_declaration : ∃ p plan, Planner.ofText? thingText = some p ∧
    p.compile.1 = .ok plan ∧ plan.RefersTo p.fed.schema "acme__Note" ∧
    "acme__Note" ∉ plan.declarations.map Declaration.name := by
  obtain ⟨p, plan, made, compiled, declarations, fields, shaped⟩ := exists_plan_thingText
  refine ⟨p, plan, made, compiled, ?_, ?_⟩
  · obtain ⟨body, present, listed⟩ := Option.map_eq_some_iff.1 fields
    have object : ⟨.object, "Node", [⟨"note", "Optional[acme__Note]"⟩], [], none⟩ ∈
        plan.declarations := by
      rw [declarations]
      exact List.mem_cons_of_mem _ List.mem_cons_self
    have note : ("note", TypeRef.named "acme__Note") ∈ body.declaredFields := by
      rw [listed]
      exact List.mem_cons_self
    exact .declaredField object present note (toOption_eq_some_iff.1 shaped) rfl
  · rw [declarations]
    decide

end Supergraph
