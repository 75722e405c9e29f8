/-!
# Ordered tables

A table holds values under names and lists them in the order in which the names first came. Storing
under a name that is present replaces the value and keeps the place.

## Main definitions

* `Table` — a list of named values without a repeated name
* `Table.insert`, `Table.modify`, `Table.ofList`, `Table.get?` — storing and looking up
* `Table.keys`, `Table.values` — the two columns
-/

namespace Supergraph

/-- Named values in the order in which the names first came. -/
structure Table (α : Type) where
  entries : List (String × α)
  nodup_names : (entries.map Prod.fst).Nodup

namespace Table

variable {α : Type}

/-- The names of the table, in order. -/
def keys (t : Table α) : List String :=
  t.entries.map Prod.fst

/-- The values of the table, in order. -/
def values (t : Table α) : List α :=
  t.entries.map Prod.snd

/-- The table without entries. -/
def empty : Table α := ⟨[], by simp⟩

instance : Inhabited (Table α) := ⟨empty⟩

instance : EmptyCollection (Table α) := ⟨empty⟩

/-- How many names the table has. -/
def size (t : Table α) : Nat :=
  t.entries.length

/-- Whether the table has no entries. -/
def isEmpty (t : Table α) : Bool :=
  t.entries.isEmpty

/-- The value under a name. -/
def get? (t : Table α) (name : String) : Option α :=
  t.entries.lookup name

/-- Whether a name is present. -/
def contains (t : Table α) (name : String) : Bool :=
  t.keys.contains name

/-- The entries with the value under the name replaced, or with a new entry at the end. -/
def store (name : String) (value : α) : List (String × α) → List (String × α)
  | [] => [(name, value)]
  | (n, v) :: rest => if n = name then (n, value) :: rest else (n, v) :: store name value rest

theorem map_fst_store (name : String) (value : α) (entries : List (String × α)) :
    (store name value entries).map Prod.fst =
      if name ∈ entries.map Prod.fst then entries.map Prod.fst
      else entries.map Prod.fst ++ [name] := by
  induction entries with
  | nil => simp [store]
  | cons entry rest ih =>
    obtain ⟨n, v⟩ := entry
    by_cases h : n = name
    · simp [store, h]
    · have h' : ¬ name = n := fun e => h e.symm
      simp only [store, h, ↓reduceIte, List.map_cons, ih, List.mem_cons, h', false_or]
      split <;> simp

/-- The table with the value stored under the name. -/
def insert (t : Table α) (name : String) (value : α) : Table α where
  entries := store name value t.entries
  nodup_names := by
    rw [map_fst_store]
    split
    · exact t.nodup_names
    · rename_i h
      refine List.nodup_append.2 ⟨t.nodup_names, by simp, ?_⟩
      intro a ha b hb
      simp only [List.mem_singleton] at hb
      subst hb
      exact fun e => h (e ▸ ha)

/-- The table of named values that are stored one after the other. -/
def ofList (entries : List (String × α)) : Table α :=
  entries.foldl (fun t (name, value) => t.insert name value) empty

/-- The table with the value under the name changed, if there is one. -/
def modify (t : Table α) (name : String) (change : α → α) : Table α where
  entries := t.entries.map fun (n, v) => (n, if n = name then change v else v)
  nodup_names := by
    have h : (Prod.fst ∘ fun (e : String × α) => (e.1, if e.1 = name then change e.2 else e.2))
        = Prod.fst := rfl
    rw [List.map_map, h]
    exact t.nodup_names

/-- Tables with the same entries are equal. -/
@[ext] theorem ext {s t : Table α} (h : s.entries = t.entries) : s = t := by
  cases s; cases t; simp_all

theorem nodup_keys (t : Table α) : t.keys.Nodup :=
  t.nodup_names

theorem keys_insert (t : Table α) (name : String) (value : α) :
    (t.insert name value).keys = if name ∈ t.keys then t.keys else t.keys ++ [name] :=
  map_fst_store name value t.entries

@[simp] theorem keys_empty : (empty : Table α).keys = [] := rfl

instance [DecidableEq α] : DecidableEq (Table α) := fun s t =>
  decidable_of_iff (s.entries = t.entries) ⟨ext, fun h => h ▸ rfl⟩

end Table

end Supergraph
