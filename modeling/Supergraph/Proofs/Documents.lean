import Mathlib.Logic.Function.Basic
import Supergraph.Document.Basic
import Supergraph.Emit.PlanModule
import Supergraph.Emit.ServiceModule
import Supergraph.Proofs.EntityPlan
import Supergraph.Proofs.Schema.Loaded

/-!
# Documents show all that modules are made of

The plan module and the service module read nothing of a plan that its document does not show. Of
the shapes they read the hints alone, and whether an argument has a default is shown beside the
default. So plans with one document have the same modules, as long as their registries have the
subgraphs under their keys: the document lists the subgraphs without the names they stand under.

## Main definitions

* `Plan.HasKeyedRegistry` — the subgraphs of a plan stand under their keys

## Main results

* `Document.ofEntity_eq_iff`, `Document.ofRootField_eq_iff` — what documents show
* `Emit.entityLines_factors`, `Emit.rootFieldLines_factors` — modules read nothing else
* `Plan.hasKeyedRegistry_of_compile` — the plans that are made for schemas have such registries
* `document_determines_modules` — plans with one document have the same modules
-/

namespace Supergraph

/-- The subgraphs of a plan stand under their keys. -/
def Plan.HasKeyedRegistry (plan : Plan) : Prop :=
  ∀ e ∈ plan.subgraphs.entries, e.2.key = e.1

/-! ### Lists that look alike -/

section View

variable {α β γ : Type} {view : α → γ} {xs ys : List α}

/-- What is read of the items of lists that look alike is the same. -/
theorem map_eq_of_factors [Nonempty β] {f : α → β} (factors : f.FactorsThrough view)
    (same : xs.map view = ys.map view) : xs.map f = ys.map f := by
  obtain ⟨read, rfl⟩ := (Function.factorsThrough_iff f).1 factors
  rw [← List.map_map, same, List.map_map]

theorem flatMap_eq_of_factors {f : α → List β} (factors : f.FactorsThrough view)
    (same : xs.map view = ys.map view) : xs.flatMap f = ys.flatMap f := by
  rw [List.flatMap_def, List.flatMap_def, map_eq_of_factors factors same]

/-- Lists that look alike still do when items are chosen by their looks. -/
theorem map_filter_eq_of_factors {p : α → Bool} (factors : p.FactorsThrough view)
    (same : xs.map view = ys.map view) : (xs.filter p).map view = (ys.filter p).map view := by
  obtain ⟨read, rfl⟩ := (Function.factorsThrough_iff p).1 factors
  rw [← List.filter_map, same, List.filter_map]

theorem isEmpty_eq_of_map_eq (same : xs.map view = ys.map view) : xs.isEmpty = ys.isEmpty := by
  rw [← List.isEmpty_map (f := view), same, List.isEmpty_map]

end View

/-! ### What documents show -/

namespace Document

theorem ofSubgraph_injective : Function.Injective ofSubgraph := by
  intro s t same
  cases s
  cases t
  simpa [ofSubgraph] using same

theorem ofField_eq_iff {f g : FieldPlan} :
    ofField f = ofField g ↔ f.name = g.name ∧ f.shape.hint = g.shape.hint ∧ f.owner = g.owner := by
  simp [ofField]

theorem ofEntity_eq_iff {e d : EntityPlan} :
    ofEntity e = ofEntity d ↔
      e.typeName = d.typeName ∧ e.keys = d.keys ∧
        e.fields.map ofField = d.fields.map ofField := by
  -- The keys are shown as texts under their graphs, from which they can be read back.
  have entries : Function.Injective fun entry : String × String =>
      (entry.1, Value.text entry.2) := by
    rintro ⟨_, _⟩ ⟨_, _⟩ same
    simpa using same
  simp only [ofEntity, Value.record.injEq, List.cons.injEq, Prod.mk.injEq, Value.text.injEq,
    Value.list.injEq, true_and, and_true, (List.map_injective_iff.2 entries).eq_iff, Table.ext_iff]

/-- A default that is null is told from none by the member beside it. -/
theorem ofArgument_eq_iff {a b : ArgumentPlan} :
    ofArgument a = ofArgument b ↔
      a.name = b.name ∧ a.shape.hint = b.shape.hint ∧ a.default = b.default ∧
        a.hasDefault = b.hasDefault := by
  simp [ofArgument]

theorem label_injective : Function.Injective RootOperation.label := by
  intro first second same
  revert same
  cases first <;> cases second <;> decide

theorem ofRootField_eq_iff {f g : RootField} :
    ofRootField f = ofRootField g ↔
      f.operation = g.operation ∧ f.name = g.name ∧ f.shape.hint = g.shape.hint ∧
        f.owner = g.owner ∧ f.arguments.map ofArgument = g.arguments.map ofArgument ∧
        f.deprecation = g.deprecation := by
  cases first : f.deprecation <;> cases second : g.deprecation <;>
    simp [ofRootField, first, second, label_injective.eq_iff]

/-- Plans have one document when they show the same subgraphs, entities, root fields and
warnings. -/
theorem ofPlan_eq_iff {p q : Plan} :
    ofPlan p = ofPlan q ↔
      p.subgraphs.values = q.subgraphs.values ∧
        p.entities.values.map ofEntity = q.entities.values.map ofEntity ∧
        p.rootFields.map ofRootField = q.rootFields.map ofRootField ∧
        p.warnings.map Warning.message = q.warnings.map Warning.message := by
  have texts : Function.Injective Value.text := fun _ _ same => Value.text.inj same
  -- Of a warning only the wording is shown.
  have warnings : ∀ plan : Plan, (plan.warnings.map fun w => Value.text w.message) =
      (plan.warnings.map Warning.message).map Value.text := fun plan => List.map_map.symm
  simp only [ofPlan, members, warnings, Value.record.injEq, List.cons.injEq, Prod.mk.injEq,
    Value.list.injEq, true_and, and_true, (List.map_injective_iff.2 ofSubgraph_injective).eq_iff,
    (List.map_injective_iff.2 texts).eq_iff]

end Document

/-! ### Registries -/

namespace Plan

variable {p q : Plan}

theorem HasKeyedRegistry.entries_eq (keyed : p.HasKeyedRegistry) :
    p.subgraphs.entries = p.subgraphs.values.map fun s => (s.key, s) := by
  rw [Table.values, List.map_map]
  refine (List.map_id _).symm.trans (List.map_congr_left ?_)
  intro e member
  simp [keyed e member]

/-- Registries with the same subgraphs under their keys are the same. -/
theorem subgraphs_eq_of_values (keyed : p.HasKeyedRegistry) (keyedToo : q.HasKeyedRegistry)
    (same : p.subgraphs.values = q.subgraphs.values) : p.subgraphs = q.subgraphs := by
  apply Table.ext
  rw [keyed.entries_eq, keyedToo.entries_eq, same]

/-- The plans that are made for the federations of schemas have keyed registries. -/
theorem hasKeyedRegistry_of_compile {planner : Planner} {plan : Plan}
    (read : (Federation.ofSchema planner.fed.schema).result = .ok planner.fed)
    (made : planner.compile.1 = .ok plan) : plan.HasKeyedRegistry := by
  obtain ⟨_, _, _, _, _, _, rfl⟩ := Federation.compile_eq_ok_iff.1 made
  intro e member
  obtain ⟨_, _, _, _, stands⟩ := (Federation.exists_value_of_ofSchema read).2 e member
  exact Federation.key_of_subgraphOf stands

end Plan

/-! ### What modules read -/

namespace Emit

theorem fieldLine_factors : fieldLine.FactorsThrough Document.ofField := by
  intro f g same
  obtain ⟨name, hint, owner⟩ := Document.ofField_eq_iff.1 same
  unfold fieldLine
  rw [name, hint, owner]

/-- The item of an entity is made of what its document shows. -/
theorem entityLines_factors : entityLines.FactorsThrough Document.ofEntity := by
  intro e d same
  obtain ⟨name, keys, fields⟩ := Document.ofEntity_eq_iff.1 same
  have lines : fieldsLines e.fields = fieldsLines d.fields := by
    rw [fieldsLines, fieldsLines, isEmpty_eq_of_map_eq fields,
      map_eq_of_factors fieldLine_factors fields]
  rw [entityLines, entityLines, name, keys, lines]

theorem planTableLines_eq_of_document {table other : Table EntityPlan}
    (same : table.values.map Document.ofEntity = other.values.map Document.ofEntity) :
    planTableLines table = planTableLines other := by
  have empty : table.isEmpty = other.isEmpty := by
    simpa [Table.values, Table.isEmpty] using isEmpty_eq_of_map_eq same
  rw [planTableLines, planTableLines, empty, flatMap_eq_of_factors entityLines_factors same]

theorem argumentLine_factors : argumentLine.FactorsThrough Document.ofArgument := by
  intro a b same
  obtain ⟨name, hint, default, hasDefault⟩ := Document.ofArgument_eq_iff.1 same
  unfold argumentLine
  rw [name, hint, ArgumentPlan.default?, ArgumentPlan.default?, default, hasDefault]

/-- The item of a root field is made of what its document shows and of the name of its client. -/
theorem rootFieldLines_factors (client : String) :
    (rootFieldLines client).FactorsThrough Document.ofRootField := by
  intro f g same
  obtain ⟨_, name, hint, _, arguments, deprecation⟩ := Document.ofRootField_eq_iff.1 same
  have lines : argumentLines f.arguments = argumentLines g.arguments := by
    rw [argumentLines, argumentLines, isEmpty_eq_of_map_eq arguments,
      map_eq_of_factors argumentLine_factors arguments]
  rw [rootFieldLines, rootFieldLines, name, hint, lines, deprecation]

theorem clientName_factors (subgraphs : Table Subgraph) :
    (clientName subgraphs).FactorsThrough Document.ofRootField := by
  intro f g same
  obtain ⟨_, _, _, owner, _, _⟩ := Document.ofRootField_eq_iff.1 same
  rw [clientName, clientName, owner]

/-- The items of root fields that look alike are the same, or the same graph is refused. -/
theorem rootItems_eq_of_map_eq (subgraphs : Table Subgraph) {fs gs : List RootField}
    (same : fs.map Document.ofRootField = gs.map Document.ofRootField) :
    rootItems subgraphs fs = rootItems subgraphs gs := by
  induction fs generalizing gs with
  | nil => rw [List.map_eq_nil_iff.1 same.symm]
  | cons f fs ih =>
    obtain ⟨g, gs, rfl, first, others⟩ := List.map_eq_cons_iff.1 same.symm
    rw [rootItems, rootItems, clientName_factors subgraphs first, ih others.symm]
    -- The lines of the first field are compared for each client.
    refine bind_congr fun client => ?_
    rw [rootFieldLines_factors client first]

theorem operationLines_eq_of_document {p q : Plan} (subgraphs : p.subgraphs = q.subgraphs)
    (same : p.rootFields.map Document.ofRootField = q.rootFields.map Document.ofRootField)
    (operation : RootOperation) : operationLines p operation = operationLines q operation := by
  -- The fields of an operation are chosen by what the document shows.
  have chosen : (fun f : RootField => decide (f.operation = operation)).FactorsThrough
      Document.ofRootField := by
    intro f g same
    simp only [(Document.ofRootField_eq_iff.1 same).1]
  have fields := map_filter_eq_of_factors chosen same
  rw [operationLines, operationLines, subgraphs, isEmpty_eq_of_map_eq fields,
    rootItems_eq_of_map_eq q.subgraphs fields]

end Emit

/-! ### Plans with one document -/

/-- Plans with one document have the same plan module and, for every port, the same service module,
or the same graph is refused for both. -/
theorem document_determines_modules (p q : Plan) (keyed : p.HasKeyedRegistry)
    (keyedToo : q.HasKeyedRegistry) (same : Document.ofPlan p = Document.ofPlan q) :
    Emit.planModule p = Emit.planModule q ∧
      ∀ port, Emit.serviceModule p port = Emit.serviceModule q port := by
  obtain ⟨values, entities, rootFields, _⟩ := Document.ofPlan_eq_iff.1 same
  have subgraphs := Plan.subgraphs_eq_of_values keyed keyedToo values
  constructor
  · rw [Emit.planModule, Emit.planModule, Emit.planLines, Emit.planLines, subgraphs,
      Emit.planTableLines_eq_of_document entities]
  · intro port
    rw [Emit.serviceModule, Emit.serviceModule, Emit.serviceLines, Emit.serviceLines,
      Emit.rootTableLines, Emit.rootTableLines,
      Emit.operationLines_eq_of_document subgraphs rootFields,
      Emit.operationLines_eq_of_document subgraphs rootFields, subgraphs]

/-- A clock that tells the time as a scalar of the given name. -/
def clockPlan (scalar : String) : Plan :=
  let time : Shape := ⟨.scalar, scalar, true, false, false⟩
  { subgraphs := Table.ofList [("CLOCK", ⟨"CLOCK", "clock", "http://clock"⟩)]
    entities := Table.ofList
      [("Clock", ⟨"Clock", Table.ofList [("CLOCK", "id")], [⟨"time", time, "CLOCK"⟩]⟩)]
    rootFields := [⟨.query, "now", time, "CLOCK",
      [⟨"zone", ⟨.scalar, "Int", true, false, false⟩, .int 0, true⟩], some "Use clock"⟩]
    declarations := []
    warnings := [] }

/-- The documents and the modules of clocks do not tell what their scalars are called. -/
theorem clockPlan_modules_agree :
    (clockPlan "Date").rootFields.map (fun f => f.shape.name) ≠
        (clockPlan "Time").rootFields.map (fun f => f.shape.name) ∧
      (clockPlan "Date").HasKeyedRegistry ∧ (clockPlan "Time").HasKeyedRegistry ∧
      Document.ofPlan (clockPlan "Date") = Document.ofPlan (clockPlan "Time") ∧
      Emit.planModule (clockPlan "Date") = Emit.planModule (clockPlan "Time") ∧
      Emit.serviceModule (clockPlan "Date") 8000 = Emit.serviceModule (clockPlan "Time") 8000 := by
  have keyed : ∀ scalar, (clockPlan scalar).HasKeyedRegistry := by
    intro scalar e member
    obtain rfl := List.mem_singleton.1 member
    rfl
  obtain ⟨plan, service⟩ :=
    document_determines_modules (clockPlan "Date") (clockPlan "Time") (keyed _) (keyed _) rfl
  exact ⟨by decide, keyed _, keyed _, rfl, plan, service 8000⟩

end Supergraph
