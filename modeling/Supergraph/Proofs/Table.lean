import Mathlib.Data.List.Nodup
import Mathlib.Tactic.Tauto
import Supergraph.Table

/-!
# Laws of ordered tables

Looking a name up finds the only entry of that name. A list of named values without a repeated name
is stored as it stands.

## Main results

* `find?_name_of_nodup` — finding an item by its name
* `Table.get?_eq_some_iff`, `Table.get?_eq_none_iff` — looking up, by the entries and by the names
* `Table.entries_ofList` — distinct names are stored in their order
* `Table.mem_keys_ofList`, `Table.mem_of_mem_entries_ofList` — storing adds nothing else
* `Table.get?_ofList` — of several values for one name the last is found
* `Table.keys_ofList` — names keep the place where they first come
* `Table.get?_insert` — what is found after storing
* `Table.get?_modify` — changing the value under a name
-/

namespace Supergraph

/-- Among items of distinct names the name of an item finds the item. -/
theorem find?_name_of_nodup {α β : Type} [DecidableEq β] {name : α → β} {xs : List α} {x : α}
    (distinct : (xs.map name).Nodup) (member : x ∈ xs) :
    (xs.find? fun y => name y = name x) = some x := by
  cases found : xs.find? fun y => name y = name x with
  | none =>
    have other := List.find?_eq_none.1 found x member
    simp at other
  | some y =>
    have among : y ∈ xs := List.mem_of_find?_eq_some found
    have same : name y = name x := by simpa using List.find?_some found
    rw [List.inj_on_of_nodup_map distinct among member same]

namespace Table

variable {α : Type} {t : Table α} {name : String} {value : α}

/-! ### Looking up -/

theorem mem_keys_iff : name ∈ t.keys ↔ ∃ v, (name, v) ∈ t.entries := by
  simp [keys]

theorem lookup_eq_some_iff_mem {entries : List (String × α)}
    (distinct : (entries.map Prod.fst).Nodup) :
    entries.lookup name = some value ↔ (name, value) ∈ entries := by
  induction entries with
  | nil => simp
  | cons entry rest ih =>
    obtain ⟨n, v⟩ := entry
    obtain ⟨fresh, distinctRest⟩ := List.nodup_cons.1 distinct
    by_cases here : name = n
    · subst here
      have absent : (name, value) ∉ rest := fun member =>
        fresh (List.mem_map.2 ⟨(name, value), member, rfl⟩)
      simp [absent, eq_comm]
    · rw [List.lookup_cons, beq_eq_false_iff_ne.2 here, ih distinctRest]
      simp [here]

theorem mem_of_lookup_eq_some {entries : List (String × α)}
    (found : entries.lookup name = some value) : (name, value) ∈ entries := by
  obtain ⟨before, after, rfl, _⟩ := List.lookup_eq_some_iff.1 found
  simp

/-- The value under a name is that of the entry of the name. -/
theorem get?_eq_some_iff : t.get? name = some value ↔ (name, value) ∈ t.entries :=
  lookup_eq_some_iff_mem t.nodup_names

/-- Nothing is found under exactly the names that are absent. -/
theorem get?_eq_none_iff : t.get? name = none ↔ name ∉ t.keys := by
  rw [Option.eq_none_iff_forall_ne_some, mem_keys_iff]
  simp only [ne_eq, get?_eq_some_iff, not_exists]

theorem mem_keys_of_get? (found : t.get? name = some value) : name ∈ t.keys :=
  mem_keys_iff.2 ⟨value, get?_eq_some_iff.1 found⟩

theorem exists_get?_of_mem_keys (present : name ∈ t.keys) : ∃ v, t.get? name = some v := by
  obtain ⟨v, member⟩ := mem_keys_iff.1 present
  exact ⟨v, get?_eq_some_iff.2 member⟩

/-- The values of the table are those that are found. -/
theorem mem_values_iff : value ∈ t.values ↔ ∃ name, t.get? name = some value := by
  simp [values, get?_eq_some_iff]

theorem mem_values_of_get? (found : t.get? name = some value) : value ∈ t.values :=
  mem_values_iff.2 ⟨name, found⟩

/-! ### Storing -/

theorem store_of_not_mem {entries : List (String × α)} (fresh : name ∉ entries.map Prod.fst) :
    store name value entries = entries ++ [(name, value)] := by
  induction entries with
  | nil => rfl
  | cons entry rest ih =>
    obtain ⟨n, v⟩ := entry
    simp only [List.map_cons, List.mem_cons, not_or] at fresh
    rw [store, if_neg (Ne.symm fresh.1), ih fresh.2, List.cons_append]

/-- A new name is stored at the end. -/
theorem entries_insert_of_not_mem (fresh : name ∉ t.keys) :
    (t.insert name value).entries = t.entries ++ [(name, value)] :=
  store_of_not_mem fresh

theorem lookup_store (entries : List (String × α)) (other : String) :
    (store name value entries).lookup other =
      if other = name then some value else entries.lookup other := by
  induction entries with
  | nil =>
    by_cases same : other = name
    · simp [store, same]
    · simp [store, same, List.lookup_cons, beq_eq_false_iff_ne.2 same]
  | cons entry rest ih =>
    obtain ⟨n, v⟩ := entry
    rw [store]
    by_cases here : n = name
    · subst here
      by_cases same : other = n
      · simp [same]
      · simp [same, List.lookup_cons, beq_eq_false_iff_ne.2 same]
    · rw [if_neg here, List.lookup_cons, List.lookup_cons, ih]
      by_cases same : other = n
      · subst same
        simp [here]
      · simp [beq_eq_false_iff_ne.2 same]

/-- The value that is stored is found under its name, and nothing else changes. -/
theorem get?_insert (t : Table α) (name : String) (value : α) (other : String) :
    (t.insert name value).get? other = if other = name then some value else t.get? other :=
  lookup_store t.entries other

theorem mem_keys_insert {other : String} :
    other ∈ (t.insert name value).keys ↔ other = name ∨ other ∈ t.keys := by
  rw [keys_insert]
  split
  · rename_i present
    exact ⟨Or.inr, fun h => h.elim (fun same => same ▸ present) id⟩
  · simp [or_comm]

theorem entries_foldl_insert (entries : List (String × α)) (t : Table α)
    (distinct : (t.keys ++ entries.map Prod.fst).Nodup) :
    (entries.foldl (fun t (name, value) => t.insert name value) t).entries =
      t.entries ++ entries := by
  induction entries generalizing t with
  | nil => simp
  | cons entry rest ih =>
    obtain ⟨n, v⟩ := entry
    have fresh : n ∉ t.keys := fun present =>
      (List.nodup_append.1 distinct).2.2 n present n (by simp) rfl
    have keys : (t.insert n v).keys = t.keys ++ [n] := by rw [keys_insert, if_neg fresh]
    rw [List.foldl_cons, ih _ (by rw [keys]; simpa using distinct), entries_insert_of_not_mem fresh]
    simp

/-- Named values without a repeated name are stored as they stand. -/
theorem entries_ofList {entries : List (String × α)} (distinct : (entries.map Prod.fst).Nodup) :
    (ofList entries).entries = entries := by
  simpa [ofList, empty] using entries_foldl_insert entries empty (by simpa using distinct)

theorem mem_keys_foldl_insert (entries : List (String × α)) (t : Table α) :
    name ∈ (entries.foldl (fun t (name, value) => t.insert name value) t).keys ↔
      name ∈ t.keys ∨ name ∈ entries.map Prod.fst := by
  induction entries generalizing t with
  | nil => simp
  | cons entry rest ih =>
    rw [List.foldl_cons, ih, mem_keys_insert, List.map_cons, List.mem_cons]
    tauto

/-- The names of the table are those of the values that are stored. -/
theorem mem_keys_ofList {entries : List (String × α)} :
    name ∈ (ofList entries).keys ↔ name ∈ entries.map Prod.fst := by
  rw [ofList, mem_keys_foldl_insert, keys_empty]
  simp

theorem keys_foldl_insert (entries : List (String × α)) (t : Table α) :
    (entries.foldl (fun t (name, value) => t.insert name value) t).keys =
      t.keys ++ ((entries.map Prod.fst).filter fun name => name ∉ t.keys).eraseDups := by
  induction entries generalizing t with
  | nil => simp
  | cons entry rest ih =>
    obtain ⟨n, v⟩ := entry
    rw [List.foldl_cons, ih, keys_insert, List.map_cons]
    split
    next present => rw [List.filter_cons_of_neg (by simpa using present)]
    next fresh =>
      -- What is new besides the first name is what differs from it as well.
      rw [List.filter_cons_of_pos (by simpa using fresh), List.eraseDups_cons, List.filter_filter,
        List.append_assoc, List.singleton_append]
      congr 3
      refine List.filter_congr fun name _ => Bool.eq_iff_iff.2 ?_
      simp [and_comm]

/-- The names of the table are the different names that are stored, in the order in which they first
come. -/
theorem keys_ofList (entries : List (String × α)) :
    (ofList entries).keys = (entries.map Prod.fst).eraseDups := by
  rw [ofList, keys_foldl_insert, keys_empty, List.nil_append]
  simp

theorem get?_foldl_insert (entries : List (String × α)) (t : Table α) :
    (entries.foldl (fun t (name, value) => t.insert name value) t).get? name =
      (entries.reverse.lookup name).or (t.get? name) := by
  induction entries generalizing t with
  | nil => rfl
  | cons entry rest ih =>
    obtain ⟨n, v⟩ := entry
    rw [List.foldl_cons, ih, get?_insert, List.reverse_cons, List.lookup_append, Option.or_assoc]
    by_cases same : name = n
    · simp [same]
    · simp [same, List.lookup_cons, beq_eq_false_iff_ne.2 same]

/-- The last of the values that are stored under a name is found. -/
theorem get?_ofList (entries : List (String × α)) (name : String) :
    (ofList entries).get? name = entries.reverse.lookup name := by
  rw [ofList, get?_foldl_insert]
  exact Option.or_none

/-- A value is found under a name when it is stored under it and no later value is. -/
theorem get?_ofList_eq_some_iff {entries : List (String × α)} :
    (ofList entries).get? name = some value ↔ ∃ before after,
      entries = before ++ (name, value) :: after ∧ ∀ entry ∈ after, name ≠ entry.1 := by
  rw [get?_ofList, List.lookup_eq_some_iff]
  constructor
  · rintro ⟨after, before, listed, fresh⟩
    refine ⟨before.reverse, after.reverse, ?_, ?_⟩
    · simpa using congrArg List.reverse listed
    · simpa using fresh
  · rintro ⟨before, after, rfl, fresh⟩
    exact ⟨after.reverse, before.reverse, by simp, by simpa using fresh⟩

theorem mem_store {entries : List (String × α)} {entry : String × α}
    (member : entry ∈ store name value entries) : entry = (name, value) ∨ entry ∈ entries := by
  induction entries with
  | nil => exact .inl (List.mem_singleton.1 member)
  | cons first rest ih =>
    obtain ⟨n, v⟩ := first
    rw [store] at member
    split at member
    next same =>
      subst same
      exact (List.mem_cons.1 member).imp_right (List.mem_cons_of_mem _)
    next =>
      rcases List.mem_cons.1 member with rfl | later
      · exact .inr List.mem_cons_self
      · exact (ih later).imp_right (List.mem_cons_of_mem _)

theorem mem_of_mem_foldl_insert (entries : List (String × α)) (t : Table α) {entry : String × α}
    (member : entry ∈ (entries.foldl (fun t (name, value) => t.insert name value) t).entries) :
    entry ∈ t.entries ∨ entry ∈ entries := by
  induction entries generalizing t with
  | nil => exact .inl member
  | cons first rest ih =>
    rcases ih _ member with stored | later
    · rcases mem_store stored with rfl | before
      · exact .inr List.mem_cons_self
      · exact .inl before
    · exact .inr (List.mem_cons_of_mem _ later)

/-- The entries of the table are among the named values that are stored. -/
theorem mem_of_mem_entries_ofList {entries : List (String × α)} {entry : String × α}
    (member : entry ∈ (ofList entries).entries) : entry ∈ entries :=
  (mem_of_mem_foldl_insert entries empty member).resolve_left List.not_mem_nil

/-! ### Changing -/

/-- Changing the value under a name changes nothing else. -/
theorem get?_modify (t : Table α) (name : String) (change : α → α) (other : String) :
    (t.modify name change).get? other =
      (t.get? other).map fun v => if other = name then change v else v := by
  have entries : ∀ es : List (String × α),
      (es.map fun (n, v) => (n, if n = name then change v else v)).lookup other =
        (es.lookup other).map fun v => if other = name then change v else v := by
    intro es
    induction es with
    | nil => rfl
    | cons entry rest ih =>
      obtain ⟨n, v⟩ := entry
      rw [List.map_cons, List.lookup_cons, List.lookup_cons, ih]
      by_cases here : other = n
      · subst here
        simp
      · simp [beq_eq_false_iff_ne.2 here]
  exact entries t.entries

theorem keys_modify (t : Table α) (name : String) (change : α → α) :
    (t.modify name change).keys = t.keys := by
  rw [keys, modify, List.map_map]
  rfl

end Table

end Supergraph
