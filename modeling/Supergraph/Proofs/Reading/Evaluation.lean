import Supergraph.Proofs.Reading.Module
import Supergraph.Proofs.Table
import Supergraph.Text.Identifier
import Supergraph.Value

/-!
# What emitted modules give their names

A module is run one statement after the other. The value of an expression is found among the names
that are bound before, so that a name may occur in the statement that binds it anew. Of equal keys
of a dict the last value counts, in the place of the first.

## Main definitions

* `isTarget` — the words that a module may bind
* `Expr.value?` — the value of an expression
* `run?` — the names that a module binds, with their values in the end

## Main results

* `value?_word`, `value?_dict` — the values of names and of dicts
* `runAll?_append`, `runAll?_constants` — statements one after the other, and constants
-/

namespace Supergraph.Reading

/-- The words that a module may bind: identifiers that are neither reserved nor bound for good. -/
def isTarget (word : String) : Bool :=
  Text.isName word.toList && !Text.isReserved word && word ≠ "__debug__"

namespace Expr

mutual

/-- The value of an expression when some names are bound. Numbers and other words are not valued. -/
def value? (bound : Table Value) : Expr → Option Value
  | text s => some (.text s)
  | word w => if isTarget w then bound.get? w else none
  | list items => (values? bound items).map .list
  | dict members =>
    (entries? bound members).map fun entries => .record (Table.ofList entries).entries

/-- The values of the items of a list. -/
def values? (bound : Table Value) : List Expr → Option (List Value)
  | [] => some []
  | e :: es =>
    match value? bound e, values? bound es with
    | some v, some vs => some (v :: vs)
    | _, _ => none

/-- The keys and values of the members of a dict. Keys are texts. -/
def entries? (bound : Table Value) : List (Expr × Expr) → Option (List (String × Value))
  | [] => some []
  | (k, e) :: rest =>
    match value? bound k, value? bound e, entries? bound rest with
    | some (.text key), some v, some entries => some ((key, v) :: entries)
    | _, _, _ => none

end

end Expr

/-- What is bound after a statement. -/
def assign? (bound : Table Value) (statement : String × Expr) : Option (Table Value) :=
  if isTarget statement.1 then (statement.2.value? bound).map (bound.insert statement.1) else none

/-- What is bound after some statements. -/
def runAll? (bound : Table Value) (statements : List (String × Expr)) : Option (Table Value) :=
  statements.foldlM assign? bound

/-- The names that a module binds, with the values that they have in the end. -/
def run? (text : String) : Option (Table Value) :=
  (bindings? text).bind (runAll? .empty)

section Values

variable {bound : Table Value} {w : String} {v : Value} {members : List (Expr × Expr)}
  {entries : List (String × Value)}

theorem value?_word (target : isTarget w) (found : bound.get? w = some v) :
    (Expr.word w).value? bound = some v := by
  rw [Expr.value?, if_pos target, found]

theorem entries?_eq (each : List.Forall₂ (fun m e =>
      m.1.value? bound = some (.text e.1) ∧ m.2.value? bound = some e.2) members entries) :
    Expr.entries? bound members = some entries := by
  induction each with
  | nil => rfl
  | @cons m e _ _ first _ ih =>
    obtain ⟨k, value⟩ := m
    rw [Expr.entries?, first.1, first.2, ih]

/-- A dict with distinct keys is the record of its members. -/
theorem value?_dict (each : List.Forall₂ (fun m e =>
      m.1.value? bound = some (.text e.1) ∧ m.2.value? bound = some e.2) members entries)
    (distinct : (entries.map Prod.fst).Nodup) :
    (Expr.dict members).value? bound = some (.record entries) := by
  rw [Expr.value?, entries?_eq each, Option.map_some, Table.entries_ofList distinct]

/-- A dict whose members are made of items with distinct keys. -/
theorem value?_dict_map {α : Type} {items : List α} {member : α → Expr × Expr}
    {entry : α → String × Value}
    (each : ∀ x ∈ items, (member x).1.value? bound = some (.text (entry x).1) ∧
      (member x).2.value? bound = some (entry x).2)
    (distinct : (items.map fun x => (entry x).1).Nodup) :
    (Expr.dict (items.map member)).value? bound = some (.record (items.map entry)) := by
  refine value?_dict ?_ ?_
  · rw [List.forall₂_map_left_iff, List.forall₂_map_right_iff]
    exact List.forall₂_same.2 each
  · rwa [List.map_map]

end Values

section Run

variable {bound : Table Value}

theorem runAll?_append (first second : List (String × Expr)) :
    runAll? bound (first ++ second) = (runAll? bound first).bind fun b => runAll? b second :=
  List.foldlM_append

/-- Constants with distinct names are bound to their texts. -/
theorem runAll?_constants {α : Type} {items : List α} {name value : α → String}
    (targets : ∀ x ∈ items, isTarget (name x)) :
    runAll? bound (items.map fun x => (name x, .text (value x))) =
      some ((items.map fun x => (name x, Value.text (value x))).foldl
        (fun t (n, v) => t.insert n v) bound) := by
  induction items generalizing bound with
  | nil => rfl
  | cons x items ih =>
    obtain ⟨target, others⟩ := List.forall_mem_cons.1 targets
    rw [List.map_cons, runAll?, List.foldlM_cons, assign?, if_pos target]
    exact ih others

end Run

end Supergraph.Reading
