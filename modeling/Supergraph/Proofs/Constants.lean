import Supergraph.Proofs.Denotation

/-!
# The constants of the query plan module

The query plan module has one constant for each subgraph, called by the identifier of its key. A
reserved word gets an underscore, and the word with the underscore may be the key of another
subgraph. The two constants are then one, which keeps the name of the subgraph that comes last.

## Main definitions

* `Plan.lastCalled?` — the subgraph whose name a constant keeps

## Main results

* `Text.nodup_map_escapeIdentifier_iff`, `Plan.nodup_constants_iff` — when identifiers, and so the
  constants, are distinct
* `Plan.value?_word_constants` — the value of a constant after all of them are bound
* `constants_name_subgraphs_iff` — when constants stand for the subgraphs they are written for
-/

namespace Supergraph

/-- The last subgraph with an identifier. -/
def Plan.lastCalled? (plan : Plan) (identifier : String) : Option Subgraph :=
  (plan.subgraphs.entries.reverse.find? fun s =>
    Text.escapeIdentifier s.1 = identifier).map Prod.snd

/-- The identifiers of distinct names are distinct unless one of the names is a reserved word and
this word with an underscore is one too. -/
theorem Text.nodup_map_escapeIdentifier_iff {words : List String} (distinct : words.Nodup)
    (named : ∀ word ∈ words, isName word.toList) :
    (words.map escapeIdentifier).Nodup ↔
      ∀ word ∈ words, isReserved word → word ++ "_" ∉ words := by
  rw [List.nodup_map_iff_inj_on distinct]
  constructor
  · intro inj word member reserved mended
    have same : escapeIdentifier word = escapeIdentifier (word ++ "_") :=
      (escapeIdentifier_eq_iff (named word member) (named _ mended)).2
        (.inr (.inl ⟨reserved, rfl⟩))
    have still : isReserved (word ++ "_") = true := inj word member _ mended same ▸ reserved
    rw [isReserved_append_underscore reserved] at still
    cases still
  · intro apart first member second memberToo same
    rcases (escapeIdentifier_eq_iff (named first member) (named second memberToo)).1 same
      with equal | ⟨reserved, rfl⟩ | ⟨reserved, rfl⟩
    · exact equal
    · exact absurd memberToo (apart first member reserved)
    · exact absurd member (apart second memberToo reserved)

namespace Plan

open Reading Text

variable {plan : Plan} {graph : String} {s : Subgraph}

theorem map_fst_constants (plan : Plan) :
    (constants plan.subgraphs).map Prod.fst = plan.subgraphs.keys.map escapeIdentifier := by
  rw [constants, Table.keys, List.map_map, List.map_map]
  rfl

/-- The constants are distinct unless a key is a reserved word and this word with an underscore is a
key too. -/
theorem nodup_constants_iff (named : ∀ key ∈ plan.subgraphs.keys, isName key.toList) :
    ((constants plan.subgraphs).map Prod.fst).Nodup ↔
      ∀ word ∈ plan.subgraphs.keys, isReserved word → word ++ "_" ∉ plan.subgraphs.keys := by
  rw [map_fst_constants]
  exact nodup_map_escapeIdentifier_iff plan.subgraphs.nodup_keys named

/-- A registered graph has the identifier of some last subgraph. -/
theorem exists_lastCalled? (registered : graph ∈ plan.subgraphs.keys) :
    ∃ last, plan.lastCalled? (escapeIdentifier graph) = some last := by
  obtain ⟨entry, member, rfl⟩ := List.mem_map.1 registered
  obtain ⟨last, found⟩ := Option.isSome_iff_exists.1 <|
    List.find?_isSome (p := fun s : String × Subgraph =>
      escapeIdentifier s.1 = escapeIdentifier entry.1) |>.2
        ⟨entry, List.mem_reverse.2 member, by simp⟩
  exact ⟨last.2, by rw [lastCalled?, found, Option.map_some]⟩

/-- Among distinct constants every subgraph is the last with its identifier. -/
theorem lastCalled?_of_nodup (distinct : ((constants plan.subgraphs).map Prod.fst).Nodup)
    (found : plan.subgraphs.get? graph = some s) :
    plan.lastCalled? (escapeIdentifier graph) = some s := by
  have member : (graph, s) ∈ plan.subgraphs.entries := Table.get?_eq_some_iff.1 found
  have reversed :
      (plan.subgraphs.entries.reverse.map fun s => escapeIdentifier s.1).Nodup := by
    rw [List.map_reverse, List.nodup_reverse]
    rwa [map_fst_constants, Table.keys, List.map_map] at distinct
  rw [lastCalled?, find?_name_of_nodup reversed (List.mem_reverse.2 member), Option.map_some]

/-- Of the constants with one identifier the last is found. -/
theorem get?_constantTable_eq (plan : Plan) (identifier : String) :
    plan.constantTable.get? identifier =
      (plan.lastCalled? identifier).map fun s => .text s.name := by
  -- Later constants replace earlier ones, so that both sides look at the entries from the end.
  rw [constantTable, Table.get?_ofList, lastCalled?, ← List.map_reverse]
  induction plan.subgraphs.entries.reverse with
  | nil => rfl
  | cons entry rest ih =>
    by_cases same : identifier = escapeIdentifier entry.1
    · simp [same]
    · rw [List.map_cons, List.lookup_cons, beq_eq_false_iff_ne.2 same, ih]
      simp [Ne.symm same]

/-- After all constants are bound, the constant of a graph has the name of the last subgraph with
its identifier as value. -/
theorem value?_word_constants (named : IsGraphName graph) {last : Subgraph}
    (found : plan.lastCalled? (escapeIdentifier graph) = some last) :
    (Expr.word (escapeIdentifier graph)).value? plan.constantTable = some (.text last.name) := by
  refine value?_word (isTarget_escapeIdentifier named) ?_
  rw [get?_constantTable_eq, found, Option.map_some]

end Plan

open Reading Text

/-- A supergraph with a graph that is called by a reserved word, and a graph that is called by this
word with an underscore. -/
def clashText : String := String.join
  ["type Query \x7b loan: Loan @join__field(graph: class) \x7d\n",
    "type Loan \x7b days: Int @join__field(graph: class) \x7d\n",
    "enum join__Graph \x7b class @join__graph(name: \"lending\", url: \"a\")\n",
    "  class_ @join__graph(name: \"teaching\", url: \"b\") \x7d\n",
    "directive @join__field(graph: Int) on FIELD_DEFINITION\n",
    "directive @join__graph(name: Int, url: Int) on ENUM_VALUE\n"]

/-- The subgraphs of this supergraph. -/
def clashSubgraphs : Table Subgraph :=
  Table.ofList [("class", ⟨"class", "lending", "a"⟩), ("class_", ⟨"class_", "teaching", "b"⟩)]

/-- What is planned for this supergraph: a field that the first of the two graphs owns. -/
def clashEntities : Table EntityPlan :=
  Table.ofList [("Loan",
    ⟨"Loan", .empty, [⟨"days", ⟨.scalar, "Int", true, false, false⟩, "class"⟩]⟩)]

theorem exists_plan_clashText : ∃ p plan, Planner.ofText? clashText = some p ∧
    p.compile.1 = .ok plan ∧ plan.subgraphs = clashSubgraphs ∧
    plan.entities = clashEntities := by
  have computed : ((Planner.ofText? clashText).any fun p => p.compile.1.toOption.any fun plan =>
      plan.subgraphs = clashSubgraphs ∧ plan.entities = clashEntities) = true := by
    -- The characters are taken line by line, so that no long text is decoded.
    rewrite [Planner.ofText?, loadSchema, Schema.load, Sdl.readDocument, Sdl.Reading.ofText,
      Sdl.tokens, clashText, String.toList_join]
    decide +kernel
  obtain ⟨p, plan, made, compiled, facts⟩ := Planner.exists_plan_of_any computed
  exact ⟨p, plan, made, compiled, of_decide_eq_true facts⟩

/-- The query plan module of a plan that is made binds one constant for each subgraph and then the
table, in which keys and owners are constants of registered graphs. The constants are distinct
unless a key is a reserved word and this word with an underscore is a key too, and a constant has
the name of the subgraph that it is written for as value exactly when the last subgraph with the
same identifier has this name. -/
theorem constants_name_subgraphs_iff {schema : Schema} (loaded : schema.IsLoaded) (p : Planner)
    (read : (Federation.ofSchema schema).result = .ok p.fed) (plan : Plan)
    (made : p.compile.1 = .ok plan) :
    bindings? (Emit.planModule plan) =
        some (constants plan.subgraphs ++ [("QUERY_PLAN", planTable plan.entities)]) ∧
      plan.RefersToRegistered ∧
      (∀ constant ∈ constants plan.subgraphs, isTarget constant.1) ∧
      (((constants plan.subgraphs).map Prod.fst).Nodup ↔
        ∀ word ∈ plan.subgraphs.keys, isReserved word → word ++ "_" ∉ plan.subgraphs.keys) ∧
      ∃ env, runAll? .empty (constants plan.subgraphs) = some env ∧
        ∀ graph s, plan.subgraphs.get? graph = some s →
          ∃ last, plan.lastCalled? (escapeIdentifier graph) = some last ∧
            ((Expr.word (escapeIdentifier graph)).value? env = some (.text s.name) ↔
              last.name = s.name) ∧
            (((constants plan.subgraphs).map Prod.fst).Nodup → last = s) := by
  have named := isGraphName_of_compile loaded read made
  have referring : plan.RefersToRegistered := refersToRegistered_of_compile made
  refine ⟨Plan.bindings?_of_registered named referring, referring, ?_,
    Plan.nodup_constants_iff fun key member => (named key member).1, plan.constantTable,
    Plan.runAll?_constants_eq named, ?_⟩
  · intro constant member
    obtain ⟨entry, among, rfl⟩ := List.mem_map.1 member
    exact Plan.isTarget_escapeIdentifier (named entry.1 (List.mem_map_of_mem among))
  · intro graph s found
    have registered : graph ∈ plan.subgraphs.keys := Table.mem_keys_of_get? found
    obtain ⟨last, called⟩ := Plan.exists_lastCalled? registered
    refine ⟨last, called, ?_, fun distinct => ?_⟩
    · have value := Plan.value?_word_constants (named graph registered) called
      rw [value]
      simp
    · rw [Plan.lastCalled?_of_nodup distinct found] at called
      exact (Option.some.inj called).symm

theorem loanText_constant_names_subgraph : ∃ p plan env, Planner.ofText? loanText = some p ∧
    p.compile.1 = .ok plan ∧ (constants plan.subgraphs).map Prod.fst = ["class_"] ∧
    runAll? .empty (constants plan.subgraphs) = some env ∧
    (Expr.word "class_").value? env = some (.text "it's") := by
  obtain ⟨p, plan, made, compiled, subgraphs, entities⟩ := exists_plan_loanText
  obtain ⟨schema, loaded, read⟩ := Planner.exists_schema_of_ofText? made
  obtain ⟨_, _, _, distinct, env, runs, each⟩ :=
    constants_name_subgraphs_iff loaded p read plan compiled
  have registered : plan.subgraphs.get? "class" = some ⟨"class", "it's", "b"⟩ := by
    rw [subgraphs]
    decide
  have apart : ∀ word ∈ plan.subgraphs.keys, isReserved word →
      word ++ "_" ∉ plan.subgraphs.keys := by
    rw [subgraphs]
    decide
  obtain ⟨last, _, value, same⟩ := each "class" _ registered
  refine ⟨p, plan, env, made, compiled, ?_, runs, value.2 (same (distinct.2 apart) ▸ rfl)⟩
  rw [subgraphs]
  decide

/-- The field of this supergraph is owned by the first of the two graphs, and the constant that is
written for the owner has the name of the second as value. -/
theorem clashText_constant_names_other_subgraph : ∃ p plan env,
    Planner.ofText? clashText = some p ∧ p.compile.1 = .ok plan ∧
    bindings? (Emit.planModule plan) =
      some (constants plan.subgraphs ++ [("QUERY_PLAN", planTable plan.entities)]) ∧
    (constants plan.subgraphs).map Prod.fst = ["class_", "class_"] ∧
    plan.entities = clashEntities ∧
    runAll? .empty (constants plan.subgraphs) = some env ∧
    (plan.subgraphs.get? "class").map Subgraph.name = some "lending" ∧
    (Expr.word (escapeIdentifier "class")).value? env = some (.text "teaching") := by
  obtain ⟨p, plan, made, compiled, subgraphs, entities⟩ := exists_plan_clashText
  obtain ⟨schema, loaded, read⟩ := Planner.exists_schema_of_ofText? made
  have named := isGraphName_of_compile loaded read compiled
  have written := Plan.bindings?_of_registered named (refersToRegistered_of_compile compiled)
  have present : "class" ∈ plan.subgraphs.keys := by
    rw [subgraphs]
    decide
  have called : plan.lastCalled? (escapeIdentifier "class") =
      some ⟨"class_", "teaching", "b"⟩ := by
    rw [Plan.lastCalled?, subgraphs]
    decide
  refine ⟨p, plan, plan.constantTable, made, compiled, written, ?_, entities,
    Plan.runAll?_constants_eq named, ?_, Plan.value?_word_constants (named _ present) called⟩
  · rw [subgraphs]
    decide
  · rw [subgraphs]
    decide

end Supergraph
