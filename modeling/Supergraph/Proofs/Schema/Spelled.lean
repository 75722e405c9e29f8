import Supergraph.Proofs.Schema.Loaded

/-!
# Names in loaded schemas

The types of a schema that is loaded, their fields and their values have the names of the schema
language, whether a document defines them or every schema has them. Detaching parts renames nothing.

## Main definitions

* `Schema.TypeBody.partNames` — the names of the fields or the values of a type
* `Schema.IsSpelled` — all types and their parts have names of the schema language

## Main results

* `Schema.exists_part_of_bodyOf` — the parts of a type are listed by its definition and extensions
* `Schema.IsLoaded.isSpelled` — loaded schemas have such names
* `Schema.IsLoaded.isName_member` — so have the members of their unions
-/

namespace Supergraph.Schema

open Sdl

/-- The names of the fields or the values of a type. -/
def TypeBody.partNames : TypeBody → List String
  | object _ fields | interface _ fields => fields.keys
  | input fields _ => fields.keys
  | enum values => values.keys
  | scalar _ | union _ => []

/-- The types of a schema, their fields and their values have names of the schema language. -/
structure IsSpelled (schema : Schema) : Prop where
  types : ∀ type ∈ schema.types.keys, Text.isName type.toList
  parts : ∀ type body, schema.body? type = some body →
    ∀ name ∈ body.partNames, Text.isName name.toList

variable {schema : Schema} {name : String}

/-! ### What documents define -/

theorem exists_inputDef_of_mem_keys {owner : Option String} {ds : List InputDef}
    {table : Table InputValue} (made : inputTable owner ds = .ok table)
    (member : name ∈ table.keys) : ∃ d ∈ ds, d.name = name := by
  obtain ⟨named, read, last⟩ := bind_except_eq_ok_iff.1 made
  cases last
  obtain ⟨entry, among, rfl⟩ := List.mem_map.1 (Table.mem_keys_ofList.1 member)
  obtain ⟨d, listed, one⟩ := exists_left_of_forall₂ (mapM_except_eq_ok_iff.1 read) among
  obtain ⟨_, _, last⟩ := bind_except_eq_ok_iff.1 one
  cases last
  exact ⟨d, listed, rfl⟩

theorem exists_fieldDef_of_mem_keys {owner : String} {ds : List FieldDef} {table : Table Field}
    (made : fieldTable owner ds = .ok table) (member : name ∈ table.keys) :
    ∃ d ∈ ds, d.name = name := by
  obtain ⟨named, read, last⟩ := bind_except_eq_ok_iff.1 made
  cases last
  obtain ⟨entry, among, rfl⟩ := List.mem_map.1 (Table.mem_keys_ofList.1 member)
  obtain ⟨d, listed, one⟩ := exists_left_of_forall₂ (mapM_except_eq_ok_iff.1 read) among
  obtain ⟨_, _, one⟩ := bind_except_eq_ok_iff.1 one
  obtain ⟨_, _, last⟩ := bind_except_eq_ok_iff.1 one
  cases last
  exact ⟨d, listed, rfl⟩

theorem mem_fieldNames_of_outputFields {t : TypeDef} {d : FieldDef} (member : d ∈ t.outputFields) :
    d.name ∈ t.fieldNames := by
  rw [TypeDef.outputFields] at member
  split at member
  next body =>
    rw [TypeDef.fieldNames, body]
    exact List.mem_map_of_mem member
  next body =>
    rw [TypeDef.fieldNames, body]
    exact List.mem_map_of_mem member
  next => cases member

theorem mem_fieldNames_of_inputFieldsOf {t : TypeDef} {d : InputDef}
    (member : d ∈ inputFieldsOf t) : d.name ∈ t.fieldNames := by
  rw [inputFieldsOf] at member
  split at member
  next body =>
    rw [TypeDef.fieldNames, body]
    exact List.mem_map_of_mem member
  next => cases member

/-- The fields and the values of a type are listed by its definition and the extensions of it. -/
theorem exists_part_of_bodyOf {t : TypeDef} {extensions : List TypeDef} {body : TypeBody}
    (made : bodyOf t extensions = .ok body) (member : name ∈ body.partNames) :
    ∃ part ∈ t :: extensions, name ∈ part.fieldNames ∨ name ∈ part.valueNames := by
  cases kind : t.body with
  | object | interface =>
    simp only [bodyOf, kind] at made
    obtain ⟨table, read, last⟩ := bind_except_eq_ok_iff.1 made
    cases last
    obtain ⟨d, among, rfl⟩ := exists_fieldDef_of_mem_keys read member
    obtain ⟨part, own, inside⟩ := List.mem_flatMap.1 among
    exact ⟨part, own, .inl (mem_fieldNames_of_outputFields inside)⟩
  | input =>
    simp only [bodyOf, kind] at made
    obtain ⟨table, read, last⟩ := bind_except_eq_ok_iff.1 made
    cases last
    obtain ⟨d, among, rfl⟩ := exists_inputDef_of_mem_keys read member
    obtain ⟨part, own, inside⟩ := List.mem_flatMap.1 among
    exact ⟨part, own, .inl (mem_fieldNames_of_inputFieldsOf inside)⟩
  | enum =>
    have stated := made
    simp only [bodyOf, kind] at made
    cases made
    obtain ⟨part, own, listed⟩ := mem_valueNames_of_bodyOf stated member
    exact ⟨part, own, .inr listed⟩
  | scalar | union =>
    simp only [bodyOf, kind] at made
    cases made
    cases member

/-- The types that every schema has. -/
theorem named_of_standardType? {type : NamedType} (standard : standardType? name = some type) :
    Text.isName name.toList ∧ ∀ part ∈ type.body.partNames, Text.isName part.toList := by
  have scalars : ∀ scalar ∈ standardScalars, Text.isName scalar.toList := by decide +kernel
  have objects : ∀ entry ∈ introspectionFields, Text.isName entry.1.toList ∧
      ∀ f ∈ entry.2, Text.isName f.1.toList := by
    decide +kernel
  have enums : ∀ entry ∈ introspectionEnums, Text.isName entry.1.toList ∧
      ∀ value ∈ entry.2.2, Text.isName value.toList := by
    decide +kernel
  rw [standardType?] at standard
  split at standard
  next scalar =>
    cases standard
    exact ⟨scalars name (List.contains_iff_mem.1 scalar), by simp [TypeBody.partNames]⟩
  next =>
    split at standard
    next fields found =>
      cases standard
      obtain ⟨named, each⟩ := objects _ (Table.mem_of_lookup_eq_some found)
      refine ⟨named, fun part member => ?_⟩
      obtain ⟨f, listed, rfl⟩ := List.mem_map.1 (Table.mem_keys_ofList.1 member)
      exact each f listed
    next =>
      obtain ⟨entry, found, same⟩ := Option.map_eq_some_iff.1 standard
      cases same
      obtain ⟨named, each⟩ := enums _ (Table.mem_of_lookup_eq_some found)
      refine ⟨named, fun part member => ?_⟩
      obtain ⟨f, listed, rfl⟩ := List.mem_map.1 (Table.mem_keys_ofList.1 member)
      obtain ⟨value, among, rfl⟩ := List.mem_map.1 listed
      exact each value among

theorem name_of_typeOf {extensions : List TypeDef} {t : TypeDef} {type : NamedType}
    (made : typeOf extensions t = .ok (name, type)) : t.name = name := by
  rw [typeOf] at made
  split at made
  next => exact congrArg Prod.fst (Except.ok.inj made)
  next =>
    obtain ⟨_, _, last⟩ := bind_except_eq_ok_iff.1 made
    exact congrArg Prod.fst (Except.ok.inj last)

theorem named_of_load {text : String} (loaded : load text = .ok schema) {type : NamedType}
    (present : (name, type) ∈ schema.types.entries) :
    Text.isName name.toList ∧ ∀ part ∈ type.body.partNames, Text.isName part.toList := by
  obtain ⟨doc, read, made, _⟩ := document_of_load loaded
  have named := named_of_readDocument read
  rcases typeOf_or_standard made present with ⟨t, stated, typed⟩ | standard
  · have same := name_of_typeOf typed
    cases standard : standardType? name with
    | some other =>
      -- A definition of a standard type is read as that type.
      rw [typeOf, same, standard] at typed
      cases typed
      exact named_of_standardType? standard
    | none =>
      have own := named _ (mem_types_iff.1 stated)
      refine ⟨same ▸ own.name, fun part member => ?_⟩
      obtain ⟨source, among, listed⟩ :=
        exists_part_of_bodyOf (bodyOf_of_typeOf typed standard) member
      have sourceNamed : source.Named := by
        rcases List.mem_cons.1 among with rfl | extension
        · exact own
        · exact named _ (mem_typeExtensions_iff.1 (List.mem_of_mem_filter extension))
      exact listed.elim (sourceNamed.fields part) (sourceNamed.values part)
  · exact named_of_standardType? standard

theorem isSpelled_of_load {text : String} (loaded : load text = .ok schema) : schema.IsSpelled where
  types type member := by
    obtain ⟨entry, present, rfl⟩ := List.mem_map.1 member
    exact (named_of_load loaded present).1
  parts type body found := by
    obtain ⟨named, present, rfl⟩ := body?_eq_some_iff.1 found
    exact (named_of_load loaded present).2

/-! ### Detaching -/

theorem IsSpelled.modifyType (named : schema.IsSpelled) {change : NamedType → NamedType}
    (same : ∀ t, (change t).body.partNames = t.body.partNames) (type : String) :
    (schema.modifyType type change).IsSpelled where
  types other member := by
    refine named.types other ?_
    rwa [Schema.modifyType, Table.keys_modify] at member
  parts other body found := by
    rw [body?, Schema.modifyType, Table.get?_modify, Option.map_map] at found
    obtain ⟨t, present, rfl⟩ := Option.map_eq_some_iff.1 found
    have parts := named.parts other t.body (by rw [body?, present]; rfl)
    simp only [Function.comp]
    split
    · rwa [same]
    · exact parts

theorem partNames_modifyField (field : String) (change : Field → Field)
    (changeInput : InputValue → InputValue) (body : TypeBody) :
    (body.modifyField field change changeInput).partNames = body.partNames := by
  cases body with
  | object | interface | input => exact Table.keys_modify ..
  | _ => rfl

/-- The types of a loaded schema, their fields and their values have names of the schema language.
-/
theorem IsLoaded.isSpelled (loaded : schema.IsLoaded) : schema.IsSpelled := by
  induction loaded with
  | load loaded => exact isSpelled_of_load loaded
  | detachType _ type ih =>
    refine ih.modifyType ?_ type
    exact fun _ => rfl
  | detachValue _ type value ih =>
    refine ih.modifyType (fun t => ?_) type
    cases t.body with
    | enum values => exact Table.keys_modify values value _
    | _ => rfl
  | detachField _ type field ih =>
    exact ih.modifyType (fun t => partNames_modifyField field _ _ t.body) type
  | detachArgument _ type field argument ih =>
    exact ih.modifyType (fun t => partNames_modifyField field _ _ t.body) type

theorem IsSpelled.of_body? (named : schema.IsSpelled) {body : TypeBody}
    (present : schema.body? name = some body) : Text.isName name.toList := by
  obtain ⟨type, member, _⟩ := body?_eq_some_iff.1 present
  exact named.types name (List.mem_map_of_mem member)

/-- The members of the unions of a loaded schema are types with such names. -/
theorem IsLoaded.isName_member (loaded : schema.IsLoaded) {union : String} {members : List String}
    (present : schema.body? union = some (.union members)) :
    ∀ member ∈ members, Text.isName member.toList := by
  intro member among
  have object := loaded.isSound.members union members present member among
  obtain ⟨body, found⟩ := Option.isSome_iff_exists.1 (Option.isSome_of_isSome_bind object)
  exact loaded.isSpelled.of_body? found

end Supergraph.Schema
