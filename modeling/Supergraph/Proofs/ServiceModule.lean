import Supergraph.Emit.ServiceModule
import Supergraph.Proofs.Table

/-!
# When the service module is made

The service module is made unless the graph of some root field is not registered. The first such
root field decides what is refused, those of the queries before those of the mutations.

## Main definitions

* `Plan.fieldsFor`, `Plan.ownerName` — the root fields of an operation, and where they are forwarded
* `Plan.unregistered?` — the first root field whose graph is not registered
* `Emit.tableLines`, `Emit.moduleLines` — the lines of the module when there is no such field

## Main results

* `Emit.serviceModule_eq` — the module, or the graph that is refused
* `Emit.exists_error_serviceModule_iff` — when there is no module
-/

namespace Supergraph

namespace Plan

variable {plan : Plan} {f : RootField} {operation : RootOperation}

/-- The root fields of an operation, in order. -/
def fieldsFor (plan : Plan) (operation : RootOperation) : List RootField :=
  plan.rootFields.filter fun f => f.operation = operation

/-- The name of the subgraph that a root field is forwarded to. -/
def ownerName (plan : Plan) (f : RootField) : String :=
  ((plan.subgraphs.get? f.owner).map Subgraph.name).getD ""

/-- The first root field whose graph is not registered, those of the queries first. -/
def unregistered? (plan : Plan) : Option RootField :=
  (plan.fieldsFor .query ++ plan.fieldsFor .mutation).find? fun f =>
    f.owner ∉ plan.subgraphs.keys

theorem mem_fieldsFor :
    f ∈ plan.fieldsFor operation ↔ f ∈ plan.rootFields ∧ f.operation = operation := by
  simp [fieldsFor]

theorem mem_fieldsFor_append :
    f ∈ plan.fieldsFor .query ++ plan.fieldsFor .mutation ↔ f ∈ plan.rootFields := by
  rw [List.mem_append, mem_fieldsFor, mem_fieldsFor, ← and_or_left]
  cases f.operation <;> simp

theorem unregistered?_eq_none_iff :
    plan.unregistered? = none ↔ ∀ f ∈ plan.rootFields, f.owner ∈ plan.subgraphs.keys := by
  rw [unregistered?, List.find?_eq_none]
  simp only [mem_fieldsFor_append, decide_eq_true_eq, not_not]

theorem exists_unregistered?_iff :
    (∃ f, plan.unregistered? = some f) ↔ ∃ f ∈ plan.rootFields, f.owner ∉ plan.subgraphs.keys := by
  rw [← Option.ne_none_iff_exists', ne_eq, unregistered?_eq_none_iff]
  simp

end Plan

namespace Emit

variable {plan : Plan} {fs : List RootField}

/-- The items of root fields that are forwarded to the given subgraphs. -/
def itemLines (plan : Plan) (fs : List RootField) : List String :=
  fs.flatMap fun f => rootFieldLines (plan.ownerName f) f

/-- The part of the table for one operation. -/
def entryLines (plan : Plan) (operation : RootOperation) : List String :=
  if (plan.fieldsFor operation).isEmpty then
    ["    " ++ Text.quoted operation.label ++ ": \x7b\x7d,"]
  else
    ("    " ++ Text.quoted operation.label ++ ": \x7b")
      :: itemLines plan (plan.fieldsFor operation) ++ ["    \x7d,"]

/-- The table of root fields. -/
def tableLines (plan : Plan) : List String :=
  "ROOT_FIELDS = \x7b" :: entryLines plan .query ++ entryLines plan .mutation ++ ["\x7d"]

/-- The lines of the module. -/
def moduleLines (plan : Plan) (port : Int) : List String :=
  serviceHeader ++ [s!"PORT = {port}", ""] ++ urlLines plan.subgraphs ++ [""] ++ tableLines plan
    ++ ["", ""] ++ lookupFunction ++ [""]

theorem clientName_of_mem {f : RootField} (registered : f.owner ∈ plan.subgraphs.keys) :
    clientName plan.subgraphs f = .ok (plan.ownerName f) := by
  obtain ⟨s, found⟩ := Table.exists_get?_of_mem_keys registered
  rw [clientName, Plan.ownerName, found]
  rfl

theorem clientName_of_not_mem {f : RootField} (unregistered : f.owner ∉ plan.subgraphs.keys) :
    clientName plan.subgraphs f = .error f.owner := by
  rw [clientName, Table.get?_eq_none_iff.2 unregistered]

/-- The items are made unless the graph of some field is not registered. -/
theorem rootItems_eq (plan : Plan) (fs : List RootField) :
    rootItems plan.subgraphs fs =
      (fs.find? fun f => f.owner ∉ plan.subgraphs.keys).elim (.ok (itemLines plan fs))
        fun f => .error f.owner := by
  induction fs with
  | nil => rfl
  | cons f fs ih =>
    rw [rootItems]
    by_cases registered : f.owner ∈ plan.subgraphs.keys
    · rw [clientName_of_mem registered, ih, List.find?_cons_of_neg (by simpa using registered)]
      cases fs.find? fun f => f.owner ∉ plan.subgraphs.keys <;> rfl
    · rw [clientName_of_not_mem registered, List.find?_cons_of_pos (by simpa using registered)]
      rfl

theorem operationLines_eq (plan : Plan) (operation : RootOperation) :
    operationLines plan operation =
      ((plan.fieldsFor operation).find? fun f => f.owner ∉ plan.subgraphs.keys).elim
        (.ok (entryLines plan operation)) fun f => .error f.owner := by
  rw [operationLines, entryLines, ← Plan.fieldsFor]
  cases fields : plan.fieldsFor operation with
  | nil => rfl
  | cons f fs =>
    simp only [List.isEmpty_cons, Bool.false_eq_true, ↓reduceIte]
    rw [rootItems_eq]
    cases (f :: fs).find? fun f => f.owner ∉ plan.subgraphs.keys <;> rfl

/-- The module, or the graph of the first root field whose graph is not registered. -/
theorem serviceModule_eq (plan : Plan) (port : Int) :
    serviceModule plan port =
      plan.unregistered?.elim (.ok (String.intercalate "\n" (moduleLines plan port)))
        fun f => .error f.owner := by
  rw [serviceModule, serviceLines, rootTableLines, operationLines_eq, operationLines_eq,
    Plan.unregistered?, List.find?_append]
  cases (plan.fieldsFor .query).find? fun f => f.owner ∉ plan.subgraphs.keys with
  | some f => rfl
  | none =>
    cases (plan.fieldsFor .mutation).find? fun f => f.owner ∉ plan.subgraphs.keys <;> rfl

theorem serviceModule_of_registered (port : Int)
    (registered : ∀ f ∈ plan.rootFields, f.owner ∈ plan.subgraphs.keys) :
    serviceModule plan port = .ok (String.intercalate "\n" (moduleLines plan port)) := by
  rw [serviceModule_eq, Plan.unregistered?_eq_none_iff.2 registered]
  rfl

/-- There is no module exactly when the graph of some root field is not registered. -/
theorem exists_error_serviceModule_iff (plan : Plan) (port : Int) :
    (∃ key, serviceModule plan port = .error key) ↔
      ∃ f ∈ plan.rootFields, f.owner ∉ plan.subgraphs.keys := by
  rw [serviceModule_eq, ← Plan.exists_unregistered?_iff]
  cases plan.unregistered? <;> simp

end Emit

end Supergraph
