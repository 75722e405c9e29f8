import Supergraph.Proofs.Reading.Literal
import Supergraph.Proofs.RootTable
import Supergraph.Proofs.Routing
import Supergraph.Proofs.Schema.Defaults

/-!
# What the table of root fields denotes

The service module holds one table of root fields. Its literal denotes a record with a member for
each of the two operations, in which every root field stands once and in order: with its type, the
name of the subgraph that it is forwarded to, its arguments and the reason that it is deprecated
for, if it is. An argument has a member for its default exactly when it has one, null included.

## Main definitions

* `ArgumentPlan.entry`, `RootField.entry` — what is said of an argument and of a root field
* `Plan.routeTable` — the record of all root fields

## Main results

* `Reading.literal?_rootTable` — the table that is emitted denotes the record
* `Federation.isDistinct_of_mem_rootFields` — the defaults of a plan for a loaded schema
* `route_table_denotes_root_fields` — what the service module says of root fields
-/

namespace Supergraph

/-- What is said of an argument: its type, and its default if it has one. -/
def ArgumentPlan.entry (a : ArgumentPlan) : Value :=
  .record (("type", .text a.shape.hint) :: match a.default? with
    | some value => [("default", value)]
    | none => [])

/-- What is said of a root field that is forwarded to the subgraph of the given name. -/
def RootField.entry (f : RootField) (client : String) : Value :=
  .record ([("type", .text f.shape.hint), ("client", .text client),
      ("arguments", .record (f.arguments.map fun a => (a.name, a.entry)))]
    ++ match f.deprecation with
      | some reason => [("deprecated", .text reason)]
      | none => [])

/-- The root fields of a plan by their operations. -/
def Plan.routeTable (plan : Plan) : Value :=
  .record ([RootOperation.query, .mutation].map fun operation => (operation.label,
    .record ((plan.fieldsFor operation).map fun f => (f.name, f.entry (plan.ownerName f)))))

/-- A root field whose arguments can be read back: they have distinct names, and the literals of
their defaults give the defaults. -/
structure RootField.IsReadable (f : RootField) : Prop where
  distinct : (f.arguments.map ArgumentPlan.name).Nodup
  free : ∀ a ∈ f.arguments, ∀ value ∈ a.default?, value.FloatFree
  exact : ∀ a ∈ f.arguments, ∀ value ∈ a.default?, value.IsDistinct

namespace Reading

variable {plan : Plan} {f : RootField} {a : ArgumentPlan}

theorem literal?_argumentMembers (free : ∀ value ∈ a.default?, value.FloatFree)
    (exact : ∀ value ∈ a.default?, value.IsDistinct) :
    (Expr.dict (argumentMembers a)).literal? = some a.entry := by
  rw [argumentMembers, ArgumentPlan.entry]
  cases default : a.default? with
  | none => exact literal?_dict (.cons ⟨rfl, rfl⟩ .nil) (by simp)
  | some value =>
    have read := literal?_ofValue (free value default) (exact value default)
    exact literal?_dict (.cons ⟨rfl, rfl⟩ (.cons ⟨rfl, read⟩ .nil)) (by simp)

theorem literal?_rootMember (client : String) (readable : f.IsReadable) :
    (rootMember client f).2.literal? = some (f.entry client) := by
  have arguments : (Expr.dict (f.arguments.map argumentMember)).literal? =
      some (.record (f.arguments.map fun a => (a.name, a.entry))) :=
    literal?_dict_map (fun a member =>
      literal?_argumentMembers (readable.free a member) (readable.exact a member))
      readable.distinct
  rw [rootMember, RootField.entry]
  cases f.deprecation with
  | none =>
    exact literal?_dict (.cons ⟨rfl, rfl⟩ (.cons ⟨rfl, rfl⟩ (.cons ⟨rfl, arguments⟩ .nil)))
      (by simp)
  | some reason =>
    exact literal?_dict (.cons ⟨rfl, rfl⟩ (.cons ⟨rfl, rfl⟩ (.cons ⟨rfl, arguments⟩
      (.cons ⟨rfl, rfl⟩ .nil)))) (by simp)

theorem literal?_operationMember {operation : RootOperation}
    (distinct : ((plan.fieldsFor operation).map RootField.name).Nodup)
    (readable : ∀ f ∈ plan.fieldsFor operation, f.IsReadable) :
    (operationMember plan operation).2.literal? = some (.record
      ((plan.fieldsFor operation).map fun f => (f.name, f.entry (plan.ownerName f)))) :=
  literal?_dict_map (fun f member => literal?_rootMember (plan.ownerName f) (readable f member))
    distinct

/-- The table denotes the root fields when those of an operation have distinct names and can be
read back. -/
theorem literal?_rootTable
    (distinct : ∀ operation, ((plan.fieldsFor operation).map RootField.name).Nodup)
    (readable : ∀ f ∈ plan.rootFields, f.IsReadable) :
    (rootTable plan).literal? = some plan.routeTable := by
  have each : ∀ operation, (operationMember plan operation).2.literal? = some (.record
      ((plan.fieldsFor operation).map fun f => (f.name, f.entry (plan.ownerName f)))) := by
    intro operation
    refine literal?_operationMember (distinct operation) fun f member => ?_
    exact readable f (Plan.mem_fieldsFor.1 member).1
  have labels : RootOperation.query.label ≠ RootOperation.mutation.label := by decide
  exact literal?_dict (.cons ⟨rfl, each .query⟩ (.cons ⟨rfl, each .mutation⟩ .nil))
    (by simp [labels])

end Reading

/-! ### The root fields of a plan -/

namespace Federation

variable {fed : Federation} {fs : List RootField} {f : RootField}

/-- Root fields are those of the queries and then those of the mutations. -/
theorem rootFields_eq_append (made : fed.rootFields.result = .ok fs) :
    fs = (fs.filter fun f => f.operation = .query) ++
      fs.filter fun f => f.operation = .mutation := by
  rw [rootFields_eq_ok_iff] at made
  split at made
  · subst made
    rfl
  · obtain ⟨queries, mutations, first, second, rfl⟩ := made
    obtain ⟨_, asked, _⟩ := planned_of_rootFieldsOf first
    obtain ⟨_, changed, _⟩ := planned_of_rootFieldsOf second
    -- The fields for an operation are kept by its own filter, and none by that of the other.
    rw [List.filter_append, List.filter_append,
      List.filter_eq_self.2 (by simpa using asked),
      List.filter_eq_nil_iff.2 (fun f member => by simp [changed f member]),
      List.filter_eq_nil_iff.2 (fun f member => by simp [asked f member]),
      List.filter_eq_self.2 (by simpa using changed), List.append_nil, List.nil_append]

/-- A root field is routed as the schema says of a field of a root type. -/
theorem exists_routes_of_mem_rootFields (sound : fed.schema.IsSound)
    (made : fed.rootFields.result = .ok fs) (member : f ∈ fs) :
    ∃ entry, entry.IsDeclared fed ∧ fed.Routes entry f := by
  by_cases served : fed.subgraphs.isEmpty
  · rw [rootFields_eq_ok_iff, if_pos served] at made
    subst made
    cases member
  · obtain ⟨entry, among, routes⟩ :=
      exists_left_of_forall₂ (forall₂_routes_of_rootFields sound served made) member
    exact ⟨entry, isDeclared_of_mem_rootEntries sound among, routes⟩

/-- The arguments of a root field have distinct names. -/
theorem Routes.nodup_names {entry : RootEntry} (routes : fed.Routes entry f) :
    (f.arguments.map ArgumentPlan.name).Nodup := by
  have named : List.Forall₂ (fun e a => Prod.fst e = ArgumentPlan.name a)
      entry.field.arguments.entries f.arguments :=
    routes.arguments.imp fun _ _ routes => routes.name.symm
  rw [← map_eq_map_of_forall₂ named]
  exact entry.field.arguments.nodup_keys

/-- An argument has the default that the literal of its definition means. -/
theorem RoutesArgument.default?_eq {argument : String × Schema.InputValue} {a : ArgumentPlan}
    (routes : fed.RoutesArgument argument a) :
    a.default? = argument.2.default?.map Sdl.Literal.value := by
  rw [ArgumentPlan.default?, routes.hasDefault, routes.default]
  cases argument.2.default? <;> rfl

/-- The defaults of a root field are what clean literals mean. -/
theorem Routes.isDistinct_default {entry : RootEntry} (loaded : fed.schema.IsLoaded)
    (declared : entry.IsDeclared fed) (routes : fed.Routes entry f) :
    ∀ a ∈ f.arguments, ∀ value ∈ a.default?, value.IsDistinct := by
  intro a member value default
  obtain ⟨argument, among, routed⟩ := exists_left_of_forall₂ routes.arguments member
  -- The default is followed back to the argument of the schema whose default it is.
  rw [routed.default?_eq] at default
  obtain ⟨l, stated, rfl⟩ := Option.map_eq_some_iff.1 default
  obtain ⟨fields, found⟩ := Option.isSome_iff_exists.1 declared.object
  have inside := declared.among
  rw [fieldsIn_eq (fieldsOf_eq_ok_iff.2 found)] at inside
  obtain ⟨body, present, object⟩ := Option.bind_eq_some_iff.1 found
  have literal : fed.schema.argumentDefault? entry.type entry.name argument.1 = some l := by
    rw [Schema.argumentDefault?, present, Option.bind_some, Schema.TypeBody.argumentDefault?,
      object, Option.bind_some, Table.get?_eq_some_iff.2 inside, Option.bind_some,
      Table.get?_eq_some_iff.2 among, Option.bind_some, stated]
  exact (loaded.isClean_default literal).isDistinct_value

end Federation

namespace Plan

variable {p : Planner} {plan : Plan}

/-- The root fields of a plan are those of the queries and then those of the mutations. -/
theorem rootFields_eq_append (made : p.compile.1 = .ok plan) :
    plan.rootFields = plan.fieldsFor .query ++ plan.fieldsFor .mutation := by
  obtain ⟨_, rootFields, _, _, routed, _, rfl⟩ := Federation.compile_eq_ok_iff.1 made
  exact Federation.rootFields_eq_append routed

/-- The arguments of a plan for a loaded schema can be read back. -/
theorem isReadable_of_compile (loaded : p.fed.schema.IsLoaded) (made : p.compile.1 = .ok plan)
    (free : ∀ f ∈ plan.rootFields, ∀ a ∈ f.arguments, ∀ value ∈ a.default?, value.FloatFree) :
    ∀ f ∈ plan.rootFields, f.IsReadable := by
  obtain ⟨_, rootFields, _, _, routed, _, rfl⟩ := Federation.compile_eq_ok_iff.1 made
  intro f member
  obtain ⟨entry, declared, routes⟩ :=
    Federation.exists_routes_of_mem_rootFields loaded.isSound routed member
  exact ⟨routes.nodup_names, free f member, routes.isDistinct_default loaded declared⟩

end Plan

/-- The literal of the table of root fields denotes them: under each operation its root fields,
each once and in order, with the name of the subgraph that is registered for the owner. The defaults
have to hold no floating-point number. -/
theorem route_table_denotes_root_fields (p : Planner) (loaded : p.fed.schema.IsLoaded) (plan : Plan)
    (made : p.compile.1 = .ok plan)
    (free : ∀ f ∈ plan.rootFields, ∀ a ∈ f.arguments, ∀ value ∈ a.default?, value.FloatFree)
    (port : Int) :
    ∃ text table, Emit.serviceModule plan port = .ok text ∧
      Reading.bound? text "ROOT_FIELDS" = some table ∧
      table.literal? = some plan.routeTable ∧
      plan.rootFields = plan.fieldsFor .query ++ plan.fieldsFor .mutation ∧
      (∀ operation, ((plan.fieldsFor operation).map RootField.name).Nodup) ∧
      ∀ f ∈ plan.rootFields, (f.arguments.map ArgumentPlan.name).Nodup ∧
        ∃ s, plan.subgraphs.get? f.owner = some s ∧ plan.ownerName f = s.name := by
  have referring : plan.RefersToRegistered := refersToRegistered_of_compile made
  have written := Emit.serviceModule_of_registered port referring.routes
  have distinct := nodup_names_fieldsFor made
  have readable := Plan.isReadable_of_compile loaded made free
  have ordered := Plan.rootFields_eq_append made
  refine ⟨_, _, written, (Reading.bound?_moduleLines plan port).2,
    Reading.literal?_rootTable distinct readable, ordered, distinct, fun f member => ?_⟩
  obtain ⟨s, found⟩ := Table.exists_get?_of_mem_keys (referring.routes f member)
  refine ⟨(readable f member).distinct, s, found, ?_⟩
  rw [Plan.ownerName, found]
  rfl

/-! ### Tickets -/

/-- A field with defaults of several kinds: an integer, null, an object with a list, and none. -/
def ticketText : String := String.join
  ["type Query \x7b\n",
    "  tickets(first: Int = 3, after: ID = null, seat: Seat = \x7brow: \"A\", numbers: [1]\x7d,\n",
    "    note: String): Int @join__field(graph: SHOP) @deprecated(reason: \"sold out\")\n",
    "\x7d\n",
    "input Seat \x7b row: String, numbers: [Int] \x7d\n",
    "enum join__Graph \x7b SHOP @join__graph(name: \"shop\", url: \"b\") \x7d\n",
    "directive @join__field(graph: Int) on FIELD_DEFINITION\n",
    "directive @join__graph(name: Int, url: Int) on ENUM_VALUE\n"]

theorem exists_plan_ticketText : ∃ p plan, Planner.ofText? ticketText = some p ∧
    p.compile.1 = .ok plan ∧
    (∀ f ∈ plan.rootFields, ∀ a ∈ f.arguments, ∀ value ∈ a.default?, value.FloatFree) ∧
    plan.rootFields.map (fun f => (f.name, f.deprecation)) = [("tickets", some "sold out")] ∧
    (plan.rootFields.flatMap RootField.arguments).map (fun a => (a.name, a.default?.isSome)) =
      [("first", true), ("after", true), ("seat", true), ("note", false)] := by
  have computed : ((Planner.ofText? ticketText).any fun p => p.compile.1.toOption.any fun plan =>
      (plan.rootFields.all fun f => f.arguments.all fun a =>
        a.default?.all fun value => value.FloatFree) ∧
      plan.rootFields.map (fun f => (f.name, f.deprecation)) = [("tickets", some "sold out")] ∧
      (plan.rootFields.flatMap RootField.arguments).map (fun a => (a.name, a.default?.isSome)) =
        [("first", true), ("after", true), ("seat", true), ("note", false)]) = true := by
    -- The characters are taken line by line, so that no long text is decoded.
    rewrite [Planner.ofText?, loadSchema, Schema.load, Sdl.readDocument, Sdl.Reading.ofText,
      Sdl.tokens, ticketText, String.toList_join]
    decide +kernel
  obtain ⟨p, plan, made, compiled, facts⟩ := Planner.exists_plan_of_any computed
  obtain ⟨free, named, listed⟩ := of_decide_eq_true facts
  refine ⟨p, plan, made, compiled, fun f member a among value default => ?_, named, listed⟩
  have each := List.all_eq_true.1 (List.all_eq_true.1 free f member) a among
  rw [Option.mem_def.1 default] at each
  exact of_decide_eq_true each

/-- The module that is written for the tickets. -/
theorem ticketText_denotes_root_fields : ∃ p plan, Planner.ofText? ticketText = some p ∧
    p.fed.schema.IsLoaded ∧ p.compile.1 = .ok plan ∧
    (∀ f ∈ plan.rootFields, ∀ a ∈ f.arguments, ∀ value ∈ a.default?, value.FloatFree) ∧
    plan.rootFields.map (fun f => (f.name, f.deprecation)) = [("tickets", some "sold out")] ∧
    (plan.rootFields.flatMap RootField.arguments).map (fun a => (a.name, a.default?.isSome)) =
      [("first", true), ("after", true), ("seat", true), ("note", false)] ∧
    ∃ text table, Emit.serviceModule plan 8000 = .ok text ∧
      Reading.bound? text "ROOT_FIELDS" = some table ∧ table.literal? = some plan.routeTable := by
  obtain ⟨p, plan, made, compiled, free, named, listed⟩ := exists_plan_ticketText
  have loaded := Planner.isLoaded_of_ofText? made
  obtain ⟨text, table, written, bound, denoted, _⟩ :=
    route_table_denotes_root_fields p loaded plan compiled free 8000
  exact ⟨p, plan, made, loaded, compiled, free, named, listed, text, table, written, bound,
    denoted⟩

end Supergraph
