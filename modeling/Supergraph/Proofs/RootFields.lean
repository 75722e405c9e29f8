import Supergraph.Plan.RootFields
import Supergraph.Proofs.Table
import Supergraph.Proofs.Traced

/-!
# How root fields are routed

Routing succeeds when every root field is defined, has a shape, is claimed by a registered graph and
has arguments that can be planned. The routed fields stand in the order of the root types, those of
the query type first.

## Main results

* `Federation.planRootField_eq_ok_iff`, `Federation.planRoot_eq_ok_iff` — one field, one type
* `Federation.rootFields_eq_ok_iff` — all root fields
* `Federation.owner_mem_keys_of_mem_rootFields` — they are forwarded to registered graphs
* `Federation.nodup_names_rootFields` — those of one operation have distinct names
-/

namespace Supergraph.Federation

variable {fed : Federation} {operation : RootOperation} {type name graph place : String}

theorem requireSubgraph_eq_ok_iff {s : Subgraph} :
    fed.requireSubgraph graph place = .ok s ↔ fed.subgraphs.get? graph = some s := by
  rw [requireSubgraph]
  cases fed.subgraphs.get? graph <;> simp

theorem mem_keys_of_requireSubgraph {s : Subgraph}
    (registered : fed.requireSubgraph graph place = .ok s) : graph ∈ fed.subgraphs.keys :=
  Table.mem_keys_of_get? (requireSubgraph_eq_ok_iff.1 registered)

theorem exists_requireSubgraph (registered : graph ∈ fed.subgraphs.keys) (place : String) :
    ∃ s, fed.requireSubgraph graph place = .ok s := by
  obtain ⟨s, found⟩ := Table.exists_get?_of_mem_keys registered
  exact ⟨s, requireSubgraph_eq_ok_iff.2 found⟩

/-- A root field is served by the graph that its claims name, which has to be registered. -/
theorem clientOf_eq_ok_iff :
    fed.clientOf type name = .ok graph ↔
      fed.clientOf? type name = .ok (some graph) ∧ graph ∈ fed.subgraphs.keys := by
  rw [clientOf, bind_except_eq_ok_iff]
  constructor
  · rintro ⟨client, named, served⟩
    cases client with
    | none => cases served
    | some client =>
      obtain ⟨s, registered, last⟩ := bind_except_eq_ok_iff.1 served
      cases last
      exact ⟨named, mem_keys_of_requireSubgraph registered⟩
  · rintro ⟨named, registered⟩
    obtain ⟨s, found⟩ := exists_requireSubgraph registered s!"{type}.{name}"
    exact ⟨some graph, named, bind_except_eq_ok_iff.2 ⟨s, found, rfl⟩⟩

theorem planRootField_eq_ok_iff {field : Schema.Field} {f : RootField} :
    fed.planRootField operation type name field = .ok f ↔
      field.applied?.isSome ∧ ∃ shape owner arguments, fed.shapeOf field.type = .ok shape ∧
        fed.clientOf type name = .ok owner ∧
        (field.arguments.entries.mapM fun (name, a) => fed.planArgument name a) = .ok arguments ∧
        f = ⟨operation, name, shape, owner, arguments, field.deprecation⟩ := by
  rw [planRootField]
  cases applied : field.applied? with
  | none => simp [bind, Except.bind, throw, throwThe, MonadExceptOf.throw]
  | some _ =>
    simp only [Option.isNone_some, Bool.false_eq_true, ↓reduceIte, Option.isSome_some, true_and]
    constructor
    · intro made
      obtain ⟨shape, shaped, made⟩ := bind_except_eq_ok_iff.1 made
      obtain ⟨owner, served, made⟩ := bind_except_eq_ok_iff.1 made
      obtain ⟨arguments, planned, made⟩ := bind_except_eq_ok_iff.1 made
      exact ⟨shape, owner, arguments, shaped, served, planned, (Except.ok.inj made).symm⟩
    · rintro ⟨shape, owner, arguments, shaped, served, planned, rfl⟩
      exact bind_except_eq_ok_iff.2 ⟨shape, shaped, bind_except_eq_ok_iff.2
        ⟨owner, served, bind_except_eq_ok_iff.2 ⟨arguments, planned, rfl⟩⟩⟩

/-- The root fields of a type stand in the order of its fields. -/
theorem planRoot_eq_ok_iff {fs : List RootField} :
    (fed.planRoot operation type).result = .ok fs ↔
      ∃ fields, fed.fieldsOf type = .ok fields ∧
        List.Forall₂ (fun e f => fed.planRootField operation type e.1 e.2 = .ok f)
          fields.entries fs := by
  rw [planRoot, Traced.bind_eq_ok_iff]
  constructor
  · rintro ⟨fields, declared, made⟩
    obtain ⟨plans, planned, made⟩ := Traced.bind_eq_ok_iff.1 made
    cases made
    exact ⟨fields, Traced.result_check_eq_ok_iff.1 declared,
      mapM_except_eq_ok_iff.1 (Traced.result_check_eq_ok_iff.1 planned)⟩
  · rintro ⟨fields, declared, planned⟩
    exact ⟨fields, Traced.result_check_eq_ok_iff.2 declared, Traced.bind_eq_ok_iff.2
      ⟨fs, Traced.result_check_eq_ok_iff.2 (mapM_except_eq_ok_iff.2 planned), rfl⟩⟩

/-- Root fields are those of the query type and then those of the mutation type, and none without
subgraphs. -/
theorem rootFields_eq_ok_iff {fs : List RootField} :
    fed.rootFields.result = .ok fs ↔
      if fed.subgraphs.isEmpty then fs = []
      else ∃ queries mutations, (fed.rootFieldsOf .query).result = .ok queries ∧
        (fed.rootFieldsOf .mutation).result = .ok mutations ∧ fs = queries ++ mutations := by
  rw [rootFields]
  split
  · rw [Traced.bind_eq_ok_iff]
    exact ⟨fun ⟨_, _, last⟩ => (Except.ok.inj last).symm, fun same => ⟨(), rfl, same ▸ rfl⟩⟩
  · rw [Traced.bind_eq_ok_iff]
    constructor
    · rintro ⟨queries, first, made⟩
      obtain ⟨mutations, second, last⟩ := Traced.bind_eq_ok_iff.1 made
      exact ⟨queries, mutations, first, second, (Except.ok.inj last).symm⟩
    · rintro ⟨queries, mutations, first, second, rfl⟩
      exact ⟨queries, first, Traced.bind_eq_ok_iff.2 ⟨mutations, second, rfl⟩⟩

/-! ### The fields of one operation -/

/-- The root fields of an operation are planned for it, under distinct names. -/
theorem planned_of_planRoot {fs : List RootField}
    (made : (fed.planRoot operation type).result = .ok fs) :
    (∀ f ∈ fs, ∃ field, fed.planRootField operation type f.name field = .ok f) ∧
      (∀ f ∈ fs, f.operation = operation) ∧ (fs.map RootField.name).Nodup := by
  obtain ⟨fields, _, paired⟩ := planRoot_eq_ok_iff.1 made
  -- A field keeps the operation and the name that it is planned for.
  have labelled : ∀ {e : String × Schema.Field} {f : RootField},
      fed.planRootField operation type e.1 e.2 = .ok f →
        f.operation = operation ∧ f.name = e.1 := by
    intro e f planned
    obtain ⟨_, _, _, _, _, _, _, rfl⟩ := planRootField_eq_ok_iff.1 planned
    exact ⟨rfl, rfl⟩
  refine ⟨fun f member => ?_, fun f member => ?_, ?_⟩
  · obtain ⟨e, _, planned⟩ := exists_left_of_forall₂ paired member
    rw [(labelled planned).2]
    exact ⟨e.2, planned⟩
  · obtain ⟨e, _, planned⟩ := exists_left_of_forall₂ paired member
    exact (labelled planned).1
  · have names : fs.map RootField.name = fields.keys := by
      rw [Table.keys]
      clear made
      generalize fields.entries = entries at paired
      induction paired with
      | nil => rfl
      | cons planned _ ih => rw [List.map_cons, List.map_cons, ih, (labelled planned).2]
    rw [names]
    exact fields.nodup_keys

theorem planned_of_rootFieldsOf {fs : List RootField}
    (made : (fed.rootFieldsOf operation).result = .ok fs) :
    (∀ f ∈ fs, ∃ type field, fed.planRootField operation type f.name field = .ok f) ∧
      (∀ f ∈ fs, f.operation = operation) ∧ (fs.map RootField.name).Nodup := by
  rw [rootFieldsOf] at made
  split at made
  · obtain ⟨planned, labelled, distinct⟩ := planned_of_planRoot made
    exact ⟨fun f member => ⟨_, planned f member⟩, labelled, distinct⟩
  · cases made
    exact ⟨by simp, by simp, List.nodup_nil⟩

/-- Every root field is planned for its operation. -/
theorem exists_planRootField_of_mem {fs : List RootField} {f : RootField}
    (made : fed.rootFields.result = .ok fs) (member : f ∈ fs) :
    ∃ type field, fed.planRootField f.operation type f.name field = .ok f := by
  rw [rootFields_eq_ok_iff] at made
  split at made
  · subst made
    cases member
  · obtain ⟨queries, mutations, first, second, rfl⟩ := made
    rcases List.mem_append.1 member with inside | inside
    · obtain ⟨planned, labelled, _⟩ := planned_of_rootFieldsOf first
      rw [labelled f inside]
      exact planned f inside
    · obtain ⟨planned, labelled, _⟩ := planned_of_rootFieldsOf second
      rw [labelled f inside]
      exact planned f inside

/-- The root fields of one operation have distinct names. -/
theorem nodup_names_rootFields {fs : List RootField} (made : fed.rootFields.result = .ok fs)
    (operation : RootOperation) :
    ((fs.filter fun f => f.operation = operation).map RootField.name).Nodup := by
  rw [rootFields_eq_ok_iff] at made
  split at made
  · subst made
    exact List.nodup_nil
  · obtain ⟨queries, mutations, first, second, rfl⟩ := made
    obtain ⟨_, asked, distinctQueries⟩ := planned_of_rootFieldsOf first
    obtain ⟨_, changed, distinctMutations⟩ := planned_of_rootFieldsOf second
    rw [List.filter_append]
    -- One part is kept whole, and the other falls out.
    cases operation with
    | query =>
      rw [List.filter_eq_self.2 (by simpa using asked),
        List.filter_eq_nil_iff.2 (fun f member => by simp [changed f member]), List.append_nil]
      exact distinctQueries
    | mutation =>
      rw [List.filter_eq_nil_iff.2 (fun f member => by simp [asked f member]),
        List.filter_eq_self.2 (by simpa using changed), List.nil_append]
      exact distinctMutations

/-- Every root field is forwarded to a registered graph. -/
theorem owner_mem_keys_of_mem_rootFields {fs : List RootField} {f : RootField}
    (made : fed.rootFields.result = .ok fs) (member : f ∈ fs) : f.owner ∈ fed.subgraphs.keys := by
  obtain ⟨type, field, planned⟩ := exists_planRootField_of_mem made member
  obtain ⟨_, _, owner, _, _, served, _, same⟩ := planRootField_eq_ok_iff.1 planned
  rw [same]
  exact (clientOf_eq_ok_iff.1 served).2

/-- Where there are subgraphs, the fields of each operation are among the root fields. -/
theorem exists_rootFieldsOf {fs : List RootField} {graph : String}
    (made : fed.rootFields.result = .ok fs) (registered : graph ∈ fed.subgraphs.keys)
    (operation : RootOperation) :
    ∃ own, (fed.rootFieldsOf operation).result = .ok own ∧ ∀ f ∈ own, f ∈ fs := by
  have served : ¬fed.subgraphs.isEmpty := by
    intro none
    rw [Table.keys, List.isEmpty_iff.1 none] at registered
    cases registered
  rw [rootFields_eq_ok_iff, if_neg served] at made
  obtain ⟨queries, mutations, first, second, rfl⟩ := made
  cases operation with
  | query => exact ⟨queries, first, fun f inside => List.mem_append_left _ inside⟩
  | mutation => exact ⟨mutations, second, fun f inside => List.mem_append_right _ inside⟩

end Supergraph.Federation
