import Supergraph.Proofs.Reading.Evaluation
import Supergraph.Proofs.Reading.PlanModule
import Supergraph.Proofs.Registered
import Supergraph.Proofs.Schema.Loaded

/-!
# What the query plan module gives

When the query plan module is run, its constants are the names of the subgraphs, and its table is
that of the plan: the keys of every entity by the names of the subgraphs, and its fields with their
hints and the names of their owners. Constants stand for the keys of subgraphs, so that they have to
be told apart, and so have the names.

## Main definitions

* `Plan.tableValue` — the table that a plan stands for
* `Plan.constantTable` — the names of the subgraphs under the identifiers of their keys
* `Plan.TellsGraphsApart` — constants and names stand for one graph each

## Main results

* `Plan.value?_planTable`, `Plan.run?_planModule` — the table of the module, and its run
* `plan_module_gives_plan` — what the module of a plan that is made binds
-/

namespace Supergraph

/-- The name of the subgraph that is registered under a key. -/
def Plan.subgraphName (plan : Plan) (graph : String) : String :=
  ((plan.subgraphs.get? graph).map Subgraph.name).getD ""

/-- The entry of a key, by the name of its subgraph. -/
def Plan.keyEntry (plan : Plan) (entry : String × String) : String × Value :=
  (plan.subgraphName entry.1, .text entry.2)

/-- The entry of a planned field: its hint and the name of its owner. -/
def Plan.fieldEntry (plan : Plan) (f : FieldPlan) : String × Value :=
  (f.name, .record
    [("type", .text f.shape.hint), ("client", .text (plan.subgraphName f.owner))])

/-- The entry of an entity: its keys and its fields. -/
def Plan.entityEntry (plan : Plan) (entry : String × EntityPlan) : String × Value :=
  (entry.1, .record
    [("keys", .record (entry.2.keys.entries.map plan.keyEntry)),
      ("fields", .record (entry.2.fields.map plan.fieldEntry))])

/-- The table that a plan stands for: the keys and the fields of every entity. -/
def Plan.tableValue (plan : Plan) : Value :=
  .record (plan.entities.entries.map plan.entityEntry)

/-- The graphs of a plan are called by names, and told apart by their constants and by the names of
their subgraphs. -/
structure Plan.TellsGraphsApart (plan : Plan) : Prop where
  named : ∀ key ∈ plan.subgraphs.keys, IsGraphName key
  constants : (plan.subgraphs.keys.map Text.escapeIdentifier).Nodup
  names : (plan.subgraphs.values.map Subgraph.name).Nodup

namespace Plan

open Reading Text

variable {plan : Plan} {graph : String} {s : Subgraph} {e : EntityPlan}

/-- The names of the subgraphs, under the identifiers of their keys. -/
def constantTable (plan : Plan) : Table Value :=
  Table.ofList (plan.subgraphs.entries.map fun s => (escapeIdentifier s.1, .text s.2.name))

theorem subgraphName_of_get? (found : plan.subgraphs.get? graph = some s) :
    plan.subgraphName graph = s.name := by
  rw [subgraphName, found]
  rfl

/-- Subgraphs of distinct names are told apart by them. -/
theorem subgraphName_inj (distinct : (plan.subgraphs.values.map Subgraph.name).Nodup)
    {other : String} (first : graph ∈ plan.subgraphs.keys) (second : other ∈ plan.subgraphs.keys)
    (same : plan.subgraphName graph = plan.subgraphName other) : graph = other := by
  obtain ⟨s, found⟩ := Table.exists_get?_of_mem_keys first
  obtain ⟨t, foundToo⟩ := Table.exists_get?_of_mem_keys second
  rw [subgraphName_of_get? found, subgraphName_of_get? foundToo] at same
  rw [Table.values, List.map_map] at distinct
  exact congrArg Prod.fst (List.inj_on_of_nodup_map distinct (Table.get?_eq_some_iff.1 found)
    (Table.get?_eq_some_iff.1 foundToo) same)

/-- Constants of distinct names are found under them. -/
theorem get?_constantTable (distinct : (plan.subgraphs.keys.map escapeIdentifier).Nodup)
    (found : plan.subgraphs.get? graph = some s) :
    plan.constantTable.get? (escapeIdentifier graph) = some (.text s.name) := by
  rw [Table.get?_eq_some_iff, constantTable, Table.entries_ofList]
  · exact List.mem_map.2 ⟨(graph, s), Table.get?_eq_some_iff.1 found, rfl⟩
  · rw [List.map_map]
    rwa [Table.keys, List.map_map] at distinct

/-- The identifier of a graph may be bound. -/
theorem isTarget_escapeIdentifier (named : IsGraphName graph) :
    isTarget (escapeIdentifier graph) := by
  have other : escapeIdentifier graph ≠ "__debug__" := by
    rw [escapeIdentifier_of_isName named.1]
    split
    next reserved =>
      -- Reserved words are mended by an underscore, and none of them becomes this word.
      have mended : ∀ w ∈ reservedWords, w ++ "_" ≠ "__debug__" := by decide +kernel
      exact mended graph (List.contains_iff_mem.1 reserved)
    next =>
      -- All other names stay as they are, and no graph has one that begins like this word.
      rintro rfl
      exact named.2 (by decide)
  simp [isTarget, isName_escapeIdentifier named.1, isReserved_escapeIdentifier, other]

/-! ### The table -/

/-- A constant has the name of its subgraph as value. -/
theorem value?_constant (apart : plan.TellsGraphsApart) (registered : graph ∈ plan.subgraphs.keys) :
    (Expr.word (escapeIdentifier graph)).value? plan.constantTable =
      some (.text (plan.subgraphName graph)) := by
  obtain ⟨s, found⟩ := Table.exists_get?_of_mem_keys registered
  rw [subgraphName_of_get? found]
  exact value?_word (isTarget_escapeIdentifier (apart.named graph registered))
    (get?_constantTable apart.constants found)

theorem value?_keyMembers (apart : plan.TellsGraphsApart) {keys : Table String}
    (registered : ∀ graph ∈ keys.keys, graph ∈ plan.subgraphs.keys) :
    (Expr.dict (keys.entries.map keyMember)).value? plan.constantTable =
      some (.record (keys.entries.map plan.keyEntry)) := by
  have inj : ∀ graph ∈ keys.keys, ∀ other ∈ keys.keys,
      plan.subgraphName graph = plan.subgraphName other → graph = other :=
    fun graph first other second =>
      subgraphName_inj apart.names (registered graph first) (registered other second)
  have distinct := List.Nodup.map_on inj keys.nodup_keys
  rw [Table.keys, List.map_map] at distinct
  refine value?_dict_map (fun entry member => ⟨?_, rfl⟩) distinct
  exact value?_constant apart (registered entry.1 (List.mem_map_of_mem member))

theorem value?_fieldMembers (apart : plan.TellsGraphsApart) {fields : List FieldPlan}
    (owners : ∀ f ∈ fields, f.owner ∈ plan.subgraphs.keys)
    (distinct : (fields.map FieldPlan.name).Nodup) :
    (Expr.dict (fields.map fieldMember)).value? plan.constantTable =
      some (.record (fields.map plan.fieldEntry)) := by
  have parts : ["type", "client"].Nodup := by decide
  refine value?_dict_map (fun f member => ⟨rfl, ?_⟩) distinct
  have owner := value?_constant apart (owners f member)
  exact value?_dict (.cons ⟨rfl, rfl⟩ (.cons ⟨rfl, owner⟩ .nil)) parts

/-- An entity has its entry as value, when the graphs that it names are registered. -/
theorem value?_entityMember (apart : plan.TellsGraphsApart)
    (keys : ∀ graph ∈ e.keys.keys, graph ∈ plan.subgraphs.keys)
    (owners : ∀ f ∈ e.fields, f.owner ∈ plan.subgraphs.keys) (distinct : e.fieldNames.Nodup) :
    (entityMember e).2.value? plan.constantTable =
      some (plan.entityEntry (e.typeName, e)).2 := by
  have ofKeys := value?_keyMembers apart keys
  have ofFields := value?_fieldMembers apart owners distinct
  have parts : ["keys", "fields"].Nodup := by decide
  exact value?_dict (.cons ⟨rfl, ofKeys⟩ (.cons ⟨rfl, ofFields⟩ .nil)) parts

/-- The table of the module has the table of the plan as value. -/
theorem value?_planTable (apart : plan.TellsGraphsApart) (referring : plan.RefersToRegistered)
    (entities : ∀ type e, plan.entities.get? type = some e →
      e.typeName = type ∧ e.fieldNames.Nodup) :
    (planTable plan.entities).value? plan.constantTable = some plan.tableValue := by
  rw [planTable, Table.values, List.map_map]
  refine value?_dict_map (fun entry member => ?_) plan.entities.nodup_names
  obtain ⟨typed, distinct⟩ := entities entry.1 entry.2 (Table.get?_eq_some_iff.2 member)
  have among : entry.2 ∈ plan.entities.values := List.mem_map_of_mem member
  have value := value?_entityMember apart (referring.keys entry.2 among)
    (referring.owners entry.2 among) distinct
  rw [typed] at value
  exact ⟨congrArg (some ∘ Value.text) typed, value⟩

/-! ### The run -/

/-- The module of a plan whose graphs are registered binds the constants and then the table. -/
theorem bindings?_of_registered (named : ∀ key ∈ plan.subgraphs.keys, IsGraphName key)
    (referring : plan.RefersToRegistered) :
    bindings? (Emit.planModule plan) =
      some (constants plan.subgraphs ++ [("QUERY_PLAN", planTable plan.entities)]) := by
  have called : ∀ e ∈ plan.entities.values, IsNamed e := fun e member =>
    { keys := fun graph keyed => (named graph (referring.keys e member graph keyed)).1
      owners := fun f planned => (named f.owner (referring.owners e member f planned)).1 }
  exact bindings?_planModule (fun key member => (named key member).1) called

/-- Running the constants binds them to the names of the subgraphs. -/
theorem runAll?_constants_eq (named : ∀ key ∈ plan.subgraphs.keys, IsGraphName key) :
    runAll? .empty (constants plan.subgraphs) = some plan.constantTable :=
  runAll?_constants fun s member =>
    isTarget_escapeIdentifier (named s.1 (List.mem_map_of_mem member))

/-- The module binds the constants and then the table of the plan. -/
theorem run?_planModule (apart : plan.TellsGraphsApart) (referring : plan.RefersToRegistered)
    (entities : ∀ type e, plan.entities.get? type = some e →
      e.typeName = type ∧ e.fieldNames.Nodup) :
    run? (Emit.planModule plan) =
      some (plan.constantTable.insert "QUERY_PLAN" plan.tableValue) := by
  have target : isTarget "QUERY_PLAN" := by decide
  rw [run?, bindings?_of_registered apart.named referring, Option.bind_some, runAll?_append,
    runAll?_constants_eq apart.named, Option.bind_some, runAll?, List.foldlM_cons, assign?,
    if_pos target, value?_planTable apart referring entities]
  rfl

end Plan

/-! ### Plans that are made -/

/-- The graphs of a plan that is made for a loaded schema are called by names. -/
theorem isGraphName_of_compile {schema : Schema} {fed : Federation} {plan : Plan}
    (loaded : schema.IsLoaded) (read : (Federation.ofSchema schema).result = .ok fed)
    (made : fed.compile.result = .ok plan) : ∀ key ∈ plan.subgraphs.keys, IsGraphName key := by
  obtain ⟨_, _, _, _, _, _, rfl⟩ := Federation.compile_eq_ok_iff.1 made
  exact Federation.isGraphName_of_mem_keys loaded read

/-- In a plan that is made the entities are found under their names and repeat no field. -/
theorem typeName_of_compile {fed : Federation} {plan : Plan}
    (made : fed.compile.result = .ok plan) :
    ∀ type e, plan.entities.get? type = some e → e.typeName = type ∧ e.fieldNames.Nodup := by
  intro type e found
  obtain ⟨typed, accounts, _⟩ :=
    Federation.accountsFor_of_planEntity (Federation.planEntity_of_compile made found)
  exact ⟨typed, accounts.distinct⟩

/-- A supergraph with a graph that is called by a reserved word and has a quote in its name. -/
def loanText : String :=
  "type Query \x7b loans: Int @join__field(graph: class) \x7d\n"
    ++ "type Loan @join__type(graph: class, key: \"id\") \x7b\n"
    ++ "  id: ID! days: [Int] @join__field(graph: class) \x7d\n"
    ++ "enum join__Graph \x7b class @join__graph(name: \"it's\", url: \"b\") \x7d\n"
    ++ "directive @join__type(graph: Int, key: Int) on OBJECT\n"
    ++ "directive @join__field(graph: Int) on FIELD_DEFINITION\n"
    ++ "directive @join__graph(name: Int, url: Int) on ENUM_VALUE\n"

/-- The subgraphs of this supergraph. -/
def loanSubgraphs : Table Subgraph :=
  Table.ofList [("class", ⟨"class", "it's", "b"⟩)]

/-- What is planned for this supergraph. -/
def loanEntities : Table EntityPlan :=
  Table.ofList [("Loan", ⟨"Loan", Table.ofList [("class", "id")],
    [⟨"days", ⟨.scalar, "Int", true, true, true⟩, "class"⟩]⟩)]

theorem exists_plan_loanText : ∃ p plan, Planner.ofText? loanText = some p ∧
    p.compile.1 = .ok plan ∧ plan.subgraphs = loanSubgraphs ∧ plan.entities = loanEntities := by
  have computed : ((Planner.ofText? loanText).any fun p => p.compile.1.toOption.any fun plan =>
      plan.subgraphs = loanSubgraphs ∧ plan.entities = loanEntities) = true := by
    -- The characters are taken line by line, so that no long text is decoded.
    rewrite [Planner.ofText?, loadSchema, Schema.load, Sdl.readDocument, Sdl.Reading.ofText,
      Sdl.tokens]
    delta loanText
    simp only [String.toList_append, -String.reduceAppend]
    decide +kernel
  obtain ⟨p, plan, made, compiled, facts⟩ := Planner.exists_plan_of_any computed
  exact ⟨p, plan, made, compiled, of_decide_eq_true facts⟩

/-- When the constants and the names of the subgraphs are told apart, the query plan module of a
plan that is made runs. It binds the table of the plan, all graphs of which are registered, and the
constants of the subgraphs, and nothing else; only the table takes the place of a constant. -/
theorem plan_module_gives_plan {schema : Schema} (loaded : schema.IsLoaded) (p : Planner)
    (read : (Federation.ofSchema schema).result = .ok p.fed) (plan : Plan)
    (made : p.compile.1 = .ok plan)
    (constants : (plan.subgraphs.keys.map Text.escapeIdentifier).Nodup)
    (names : (plan.subgraphs.values.map Subgraph.name).Nodup) :
    plan.RefersToRegistered ∧
      ∃ env, Reading.run? (Emit.planModule plan) = some env ∧
        env.get? "QUERY_PLAN" = some plan.tableValue ∧
        (∀ key s, plan.subgraphs.get? key = some s → Text.escapeIdentifier key ≠ "QUERY_PLAN" →
          env.get? (Text.escapeIdentifier key) = some (.text s.name)) ∧
        ∀ name ∈ env.keys, name = "QUERY_PLAN" ∨
          ∃ key ∈ plan.subgraphs.keys, name = Text.escapeIdentifier key := by
  have named := isGraphName_of_compile loaded read made
  have referring := refersToRegistered_of_compile made
  have runs := Plan.run?_planModule ⟨named, constants, names⟩ referring (typeName_of_compile made)
  refine ⟨referring, _, runs, ?_, fun key s found other => ?_, fun name bound => ?_⟩
  · rw [Table.get?_insert, if_pos rfl]
  · rw [Table.get?_insert, if_neg other]
    exact Plan.get?_constantTable constants found
  · rcases Table.mem_keys_insert.1 bound with rfl | constant
    · exact .inl rfl
    · rw [Plan.constantTable, Table.mem_keys_ofList, List.map_map] at constant
      obtain ⟨entry, member, rfl⟩ := List.mem_map.1 constant
      exact .inr ⟨entry.1, List.mem_map_of_mem member, rfl⟩

theorem loanText_module_gives_plan : ∃ p plan, Planner.ofText? loanText = some p ∧
    p.compile.1 = .ok plan ∧ ∃ env, Reading.run? (Emit.planModule plan) = some env ∧
      env.get? "QUERY_PLAN" = some (.record [("Loan", .record
        [("keys", .record [("it's", .text "id")]),
          ("fields", .record [("days", .record
            [("type", .text "Optional[list[Optional[int]]]"), ("client", .text "it's")])])])]) ∧
      env.get? "class_" = some (.text "it's") := by
  obtain ⟨p, plan, made, compiled, subgraphs, entities⟩ := exists_plan_loanText
  obtain ⟨schema, loaded, read⟩ := Planner.exists_schema_of_ofText? made
  obtain ⟨_, env, runs, table, bound, _⟩ := plan_module_gives_plan loaded p read plan compiled
    (by rw [subgraphs]; decide) (by rw [subgraphs]; decide)
  have constant := bound "class" ⟨"class", "it's", "b"⟩ (by rw [subgraphs]; decide) (by decide)
  refine ⟨p, plan, made, compiled, env, runs, table.trans ?_, constant⟩
  cases plan
  subst subgraphs entities
  rfl

end Supergraph
