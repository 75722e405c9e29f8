import Supergraph.Proofs.Reading.ServiceModule
import Supergraph.Proofs.Registered

/-!
# Where root fields are forwarded

The gateway finds the address for a root field in two steps: the table of root fields gives the name
of a subgraph, and the table of addresses gives the address of the name. Owners are told apart by
their keys, the table of addresses by names. Of several subgraphs with one name the last is found,
so that the owner is reached exactly when the last subgraph with its name has its address.

## Main definitions

* `Plan.lastNamed?` — the subgraph that is found by a name
* `Reading.client?` — the name that the table of root fields gives for a root field

## Main results

* `route_reaches_owner_iff` — when the address of the owner is found
* `lastNamed?_of_nodup` — it is found when subgraphs have distinct names
-/

namespace Supergraph

/-- The last subgraph of a name. -/
def Plan.lastNamed? (plan : Plan) (name : String) : Option Subgraph :=
  plan.subgraphs.values.reverse.find? fun s => s.name = name

/-- Among subgraphs of distinct names every one is the last of its name. -/
theorem lastNamed?_of_nodup {plan : Plan} {s : Subgraph}
    (distinct : (plan.subgraphs.values.map Subgraph.name).Nodup)
    (member : s ∈ plan.subgraphs.values) : plan.lastNamed? s.name = some s := by
  refine find?_name_of_nodup ?_ (List.mem_reverse.2 member)
  rwa [List.map_reverse, List.nodup_reverse]

theorem exists_lastNamed? {plan : Plan} {s : Subgraph} (member : s ∈ plan.subgraphs.values) :
    ∃ last, plan.lastNamed? s.name = some last := by
  refine Option.isSome_iff_exists.1 (List.find?_isSome.2 ⟨s, List.mem_reverse.2 member, ?_⟩)
  simp

namespace Reading

/-- The name of the subgraph that the table of root fields gives for a root field. -/
def client? (table : Expr) (f : RootField) : Option Expr :=
  ((table.member? f.operation.label).bind (·.member? f.name)).bind (·.member? "client")

/-- Among keys of distinct texts a key finds its own value. -/
theorem member?_of_mem {α : Type} {xs : List α} {x : α} {key : α → String} {value : α → Expr}
    (distinct : (xs.map key).Nodup) (member : x ∈ xs) :
    (Expr.dict (xs.map fun y => (.text (key y), value y))).member? (key x) = some (value x) := by
  have reversed : (xs.reverse.map key).Nodup := by rwa [List.map_reverse, List.nodup_reverse]
  have found : xs.reverse.find? ((fun m : Expr × Expr => m.1.isText (key x)) ∘
      fun y => (.text (key y), value y)) = some x :=
    find?_name_of_nodup reversed (List.mem_reverse.2 member)
  rw [Expr.member?, ← List.map_reverse, List.find?_map, found]
  rfl

/-- A name finds the address of the last subgraph that has it. -/
theorem member?_addressTable (plan : Plan) (name : String) :
    (addressTable plan.subgraphs).member? name =
      (plan.lastNamed? name).map fun s => .text s.url := by
  rw [addressTable, Expr.member?, Plan.lastNamed?, ← List.map_reverse, List.find?_map,
    Option.map_map]
  rfl

theorem member?_rootTable (plan : Plan) (operation : RootOperation) :
    (rootTable plan).member? operation.label = some (operationMember plan operation).2 := by
  cases operation <;> rfl

theorem member?_client (client : String) (f : RootField) :
    (rootMember client f).2.member? "client" = some (.text client) := by
  rw [rootMember]
  cases f.deprecation <;> rfl

/-- The table of root fields gives the name of the subgraph that a root field is forwarded to. -/
theorem client?_rootTable {plan : Plan} {f : RootField} (member : f ∈ plan.rootFields)
    (distinct : ((plan.fieldsFor f.operation).map RootField.name).Nodup) :
    client? (rootTable plan) f = some (.text (plan.ownerName f)) := by
  have among : f ∈ plan.fieldsFor f.operation := Plan.mem_fieldsFor.2 ⟨member, rfl⟩
  have found : (operationMember plan f.operation).2.member? f.name =
      some (rootMember (plan.ownerName f) f).2 :=
    @member?_of_mem _ _ f _ (fun f => (rootMember (plan.ownerName f) f).2) distinct among
  rw [client?, member?_rootTable, Option.bind_some, found, Option.bind_some, member?_client]

theorem bound?_moduleLines (plan : Plan) (port : Int) :
    bound? (String.intercalate "\n" (Emit.moduleLines plan port)) "SUBGRAPH_URLS" =
        some (addressTable plan.subgraphs) ∧
      bound? (String.intercalate "\n" (Emit.moduleLines plan port)) "ROOT_FIELDS" =
        some (rootTable plan) := by
  rw [bound?, bound?, bindings?_moduleLines]
  exact ⟨rfl, rfl⟩

end Reading

section Route

variable {p : Planner} {plan : Plan}

theorem nodup_names_fieldsFor (made : p.compile.1 = .ok plan) (operation : RootOperation) :
    ((plan.fieldsFor operation).map RootField.name).Nodup := by
  obtain ⟨_, rootFields, _, _, routed, _, rfl⟩ := Federation.compile_eq_ok_iff.1 made
  exact Federation.nodup_names_rootFields routed operation

/-- The emitted tables of a plan that is made: the client of a root field is the name of its owner,
and the name finds the last subgraph that has it. -/
theorem exists_lastNamed?_of_mem_rootFields (made : p.compile.1 = .ok plan) {f : RootField}
    (member : f ∈ plan.rootFields) :
    ∃ s last, plan.subgraphs.get? f.owner = some s ∧
      Reading.client? (Reading.rootTable plan) f = some (.text s.name) ∧
      plan.lastNamed? s.name = some last ∧
      (Reading.addressTable plan.subgraphs).member? s.name = some (.text last.url) := by
  have referring : plan.RefersToRegistered := refersToRegistered_of_compile made
  obtain ⟨s, found⟩ := Table.exists_get?_of_mem_keys (referring.routes f member)
  obtain ⟨last, named⟩ := exists_lastNamed? (Table.mem_values_of_get? found)
  have owner : plan.ownerName f = s.name := by
    rw [Plan.ownerName, found]
    rfl
  refine ⟨s, last, found, ?_, named, ?_⟩
  · rw [Reading.client?_rootTable member (nodup_names_fieldsFor made f.operation), owner]
  · rw [Reading.member?_addressTable, named]
    rfl

/-- In the service module of a plan that is made, the client of a root field finds the address of
its owner exactly when the last subgraph with the owner's name has that address. -/
theorem route_reaches_owner_iff (p : Planner) (plan : Plan) (made : p.compile.1 = .ok plan)
    (port : Int) :
    ∃ text addresses fields, Emit.serviceModule plan port = .ok text ∧
      Reading.bound? text "SUBGRAPH_URLS" = some addresses ∧
      Reading.bound? text "ROOT_FIELDS" = some fields ∧
      ∀ f ∈ plan.rootFields, ∃ s last client, plan.subgraphs.get? f.owner = some s ∧
        Reading.client? fields f = some (.text client) ∧
        plan.lastNamed? s.name = some last ∧
        (addresses.member? client = some (.text s.url) ↔ last.url = s.url) := by
  have referring : plan.RefersToRegistered := refersToRegistered_of_compile made
  obtain ⟨addresses, fields⟩ := Reading.bound?_moduleLines plan port
  refine ⟨_, _, _, Emit.serviceModule_of_registered port referring.routes, addresses, fields, ?_⟩
  intro f member
  obtain ⟨s, last, found, client, named, address⟩ :=
    exists_lastNamed?_of_mem_rootFields made member
  refine ⟨s, last, s.name, found, client, named, ?_⟩
  rw [address]
  simp

theorem storePlanner_route_reaches_owner :
    ∃ plan text addresses fields f client,
      (storePlanner "inventory" "reviews").compile.1 = .ok plan ∧
      Emit.serviceModule plan 8000 = .ok text ∧
      Reading.bound? text "SUBGRAPH_URLS" = some addresses ∧
      Reading.bound? text "ROOT_FIELDS" = some fields ∧
      f ∈ plan.rootFields ∧ f.name = "product" ∧ f.owner = "INVENTORY" ∧
      Reading.client? fields f = some (.text client) ∧
      addresses.member? client = some (.text "http://inventory") := by
  obtain ⟨text, addresses, fields, written, first, second, routes⟩ :=
    route_reaches_owner_iff (storePlanner "inventory" "reviews") _ rfl 8000
  obtain ⟨s, last, client, found, named, lastNamed, reached⟩ := routes _ List.mem_cons_self
  obtain rfl := Option.some.inj found
  obtain rfl := Option.some.inj lastNamed
  exact ⟨_, text, addresses, fields, _, client, rfl, written, first, second, List.mem_cons_self,
    rfl, rfl, named, reached.2 rfl⟩

/-- When both subgraphs have one name, the field that the first owns reaches the second. -/
theorem shared_name_reaches_other_subgraph :
    ∃ plan text addresses fields f s client,
      (storePlanner "shared" "shared").compile.1 = .ok plan ∧
      Emit.serviceModule plan 8000 = .ok text ∧
      Reading.bound? text "SUBGRAPH_URLS" = some addresses ∧
      Reading.bound? text "ROOT_FIELDS" = some fields ∧
      f ∈ plan.rootFields ∧ plan.subgraphs.get? f.owner = some s ∧ s.url = "http://inventory" ∧
      Reading.client? fields f = some (.text client) ∧
      addresses.member? client = some (.text "http://reviews") := by
  -- The plan is kept as a name until its parts are asked for, so that it is not computed each time.
  have made : ∃ plan, (storePlanner "shared" "shared").compile.1 = .ok plan := ⟨_, rfl⟩
  obtain ⟨plan, made⟩ := made
  obtain rfl := Except.ok.inj made
  have referring := refersToRegistered_of_compile made
  obtain ⟨first, second⟩ := Reading.bound?_moduleLines _ 8000
  obtain ⟨s, last, found, client, lastNamed, address⟩ :=
    exists_lastNamed?_of_mem_rootFields made List.mem_cons_self
  obtain rfl := Option.some.inj found
  obtain rfl := Option.some.inj lastNamed
  exact ⟨_, _, _, _, _, _, _, made, Emit.serviceModule_of_registered 8000 referring.routes, first,
    second, List.mem_cons_self, rfl, rfl, client, address⟩

end Route

end Supergraph
