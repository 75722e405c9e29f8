import Supergraph.Entity
import Supergraph.Proofs.Schema.Loaded

/-!
# Definitions of loaded fields

The fields of a type come with their definitions when the type is defined in the document. Only the
fields of the standard types have none, and the names of those types are not names of declared
types.

## Main definitions

* `Schema.TypeBody.AllDefined` — all fields of a type have their definitions

## Main results

* `Schema.allDefined_of_load` — the fields of declared types have their definitions
-/

namespace Supergraph.Schema

open Sdl

/-- All fields of an object type, an interface or an input type have their definitions. -/
def TypeBody.AllDefined : TypeBody → Prop
  | .object _ fields | .interface _ fields => ∀ f ∈ fields.entries, f.2.applied?.isSome
  | .input fields _ => ∀ f ∈ fields.entries, f.2.isDefined
  | _ => True

/-! ### Tables of definitions -/

section Tables

variable {α β : Type} {step : α → Except Fault (String × β)} {ds : List α}
  {owner : String} {holder : Option String}

/-- What every step of a table gives holds of its entries. -/
theorem forall_entries_of_mapM {holds : String × β → Prop} {entries : List (String × β)}
    (each : ∀ d ∈ ds, ∀ entry, step d = .ok entry → holds entry)
    (made : ds.mapM step = .ok entries) :
    ∀ entry ∈ (Table.ofList entries).entries, holds entry := by
  intro entry member
  have listed : entry ∈ entries := Table.mem_of_mem_entries_ofList member
  obtain ⟨d, among, read⟩ := exists_left_of_forall₂ (mapM_except_eq_ok_iff.1 made) listed
  exact each d among entry read

theorem isDefined_of_inputTable {inputs : List InputDef} {table : Table InputValue}
    (made : inputTable holder inputs = .ok table) : ∀ f ∈ table.entries, f.2.isDefined := by
  obtain ⟨entries, read, last⟩ := bind_except_eq_ok_iff.1 made
  cases last
  refine forall_entries_of_mapM (fun d _ entry read => ?_) read
  obtain ⟨_, _, last⟩ := bind_except_eq_ok_iff.1 read
  cases last
  rfl

theorem isSome_applied?_of_fieldTable {fields : List FieldDef} {table : Table Field}
    (made : fieldTable owner fields = .ok table) : ∀ f ∈ table.entries, f.2.applied?.isSome := by
  obtain ⟨entries, read, last⟩ := bind_except_eq_ok_iff.1 made
  cases last
  refine forall_entries_of_mapM (fun d _ entry read => ?_) read
  obtain ⟨_, _, read⟩ := bind_except_eq_ok_iff.1 read
  obtain ⟨_, _, last⟩ := bind_except_eq_ok_iff.1 read
  cases last
  rfl

end Tables

/-! ### Types -/

/-- The fields of a type that is defined have their definitions. -/
theorem allDefined_of_bodyOf {t : TypeDef} {extensions : List TypeDef} {body : TypeBody}
    (made : bodyOf t extensions = .ok body) : body.AllDefined := by
  cases kind : t.body with
  | object | interface =>
    simp only [bodyOf, kind] at made
    obtain ⟨fields, read, last⟩ := bind_except_eq_ok_iff.1 made
    cases last
    exact isSome_applied?_of_fieldTable read
  | input =>
    simp only [bodyOf, kind] at made
    obtain ⟨fields, read, last⟩ := bind_except_eq_ok_iff.1 made
    cases last
    exact isDefined_of_inputTable read
  | scalar | union | enum =>
    simp only [bodyOf, kind] at made
    cases made
    trivial

/-- The standard types with names for declared types are scalars. -/
theorem body_of_standardType? {name : String} {type : NamedType}
    (standard : standardType? name = some type) (declared : isDeclaredName name) :
    type.body = .scalar true := by
  -- The names of all others begin with two underscores.
  have fields : ∀ entry ∈ introspectionFields, isDeclaredName entry.1 = false := by decide +kernel
  have enums : ∀ entry ∈ introspectionEnums, isDeclaredName entry.1 = false := by decide +kernel
  rw [standardType?] at standard
  split at standard
  next =>
    cases standard
    rfl
  next =>
    split at standard
    next found =>
      rw [fields (name, _) (Table.mem_of_lookup_eq_some found)] at declared
      cases declared
    next =>
      obtain ⟨entry, found, _⟩ := Option.map_eq_some_iff.1 standard
      rw [enums (name, entry) (Table.mem_of_lookup_eq_some found)] at declared
      cases declared

/-- The fields of the declared types of a schema that a text says have their definitions. -/
theorem allDefined_of_load {text : String} {schema : Schema} (loaded : load text = .ok schema)
    {name : String} {type : NamedType} (present : (name, type) ∈ schema.types.entries)
    (declared : isDeclaredName name) : type.body.AllDefined := by
  have standardDefined : ∀ type, standardType? name = some type → type.body.AllDefined := by
    intro type standard
    rw [body_of_standardType? standard declared]
    trivial
  obtain ⟨doc, _, made, _⟩ := document_of_load loaded
  -- A definition of a standard type is read as that type, so that its own fields do not matter.
  rcases typeOf_or_standard made present with ⟨t, _, typed⟩ | standard
  · rw [typeOf] at typed
    split at typed
    next standard found =>
      cases typed
      exact standardDefined _ found
    next =>
      obtain ⟨body, read, last⟩ := bind_except_eq_ok_iff.1 typed
      cases last
      exact allDefined_of_bodyOf read
  · exact standardDefined type standard

end Supergraph.Schema
