import Supergraph.Plan.Planner
import Supergraph.Proofs.Registry
import Supergraph.Proofs.Sdl.Names
import Supergraph.Proofs.Table
import Supergraph.Schema.Detach
import Supergraph.Schema.Load

/-!
# Schemas that are loaded

A schema that is loaded has been checked, so that its root types and the members of its unions are
object types, and the graphs that it declares are called by names. It stays so when parts of it are
detached.

## Main definitions

* `Schema.IsLoaded` — a schema that a text says, perhaps with parts detached
* `IsGraphName` — the names that graphs may have
* `Planner.ofText?` — the planner for the supergraph that a text says
* `Schema.IsSound` — what is checked of a schema when it is loaded, the members of unions
  (`Schema.UnionsHoldObjects`) among it

## Main results

* `Schema.typeOf_or_standard` — where the types of a schema come from
* `Schema.IsLoaded.isSound` — loaded schemas are sound
* `Federation.isGraphName_of_mem_keys` — the graphs of a federation are called by names
* `Planner.exists_schema_of_ofText?` — the schema of the planner of a text is loaded
-/

namespace Supergraph

/-- A name of the schema language that is not kept for the standard types. -/
def IsGraphName (name : String) : Prop :=
  Text.isName name.toList ∧ ¬['_', '_'] <+: name.toList

namespace Schema

open Sdl

/-- A schema that a text says, with any number of parts detached. -/
inductive IsLoaded : Schema → Prop
  | load {text : String} {schema : Schema} (loaded : load text = .ok schema) : IsLoaded schema
  | detachType {schema : Schema} (before : IsLoaded schema) (type : String) :
      IsLoaded (schema.detachType type)
  | detachValue {schema : Schema} (before : IsLoaded schema) (type value : String) :
      IsLoaded (schema.detachValue type value)
  | detachField {schema : Schema} (before : IsLoaded schema) (type field : String) :
      IsLoaded (schema.detachField type field)
  | detachArgument {schema : Schema} (before : IsLoaded schema) (type field argument : String) :
      IsLoaded (schema.detachArgument type field argument)

/-- The members of unions are object types. -/
def UnionsHoldObjects (schema : Schema) : Prop :=
  ∀ union members, schema.body? union = some (.union members) →
    ∀ member ∈ members, (schema.fieldsOf? member).isSome

/-- Root types and members of unions are objects, and graphs are called by names. -/
structure IsSound (schema : Schema) : Prop where
  roots : ∀ kind type, schema.root? kind = some type → (schema.fieldsOf? type).isSome
  members : schema.UnionsHoldObjects
  graphs : ∀ values, schema.body? Join.graphEnum = some (.enum values) →
    ∀ graph ∈ values.keys, IsGraphName graph

variable {schema : Schema}

/-! ### What is checked -/

/-- A walk that finds nothing finds nothing at any step. -/
theorem nil_of_mem_mapM {α σ β : Type} {f : α → StateM σ (List β)} {xs : List α} {s : σ}
    (none : ((xs.mapM f).run s).1.flatten = []) {x : α} (member : x ∈ xs) :
    ∃ s', ((f x).run s').1 = [] := by
  induction xs generalizing s with
  | nil => cases member
  | cons first rest ih =>
    rw [List.mapM_cons] at none
    have both : ((f first).run s).1 = [] ∧
        ((rest.mapM f).run ((f first).run s).2).1.flatten = [] :=
      List.append_eq_nil_iff.1 none
    rcases List.mem_cons.1 member with rfl | later
    · exact ⟨s, both.1⟩
    · exact ih both.2 later

theorem body?_eq_some_iff {name : String} {body : TypeBody} :
    schema.body? name = some body ↔ ∃ type, (name, type) ∈ schema.types.entries ∧
      type.body = body := by
  rw [body?, Option.map_eq_some_iff]
  simp only [Table.get?_eq_some_iff]

/-- In a schema without faults no type has any. -/
theorem typeFaults_eq_nil (faultless : schema.faults = []) {name : String} {body : TypeBody}
    (present : schema.body? name = some body) :
    ∃ visited, ((schema.typeFaults name body).run visited).1 = [] := by
  obtain ⟨type, member, rfl⟩ := body?_eq_some_iff.1 present
  obtain ⟨_, types⟩ := List.append_eq_nil_iff.1 faultless
  exact nil_of_mem_mapM types member

theorem isSome_fieldsOf?_of_root? (faultless : schema.faults = []) {kind : OperationKind}
    {type : String} (root : schema.root? kind = some type) : (schema.fieldsOf? type).isSome := by
  obtain ⟨parts, _⟩ := List.append_eq_nil_iff.1 faultless
  obtain ⟨roots, _⟩ := List.append_eq_nil_iff.1 parts
  have among : kind ∈ [OperationKind.query, .mutation, .subscription] := by
    cases kind <;> simp
  have none : schema.rootFaults kind = [] := List.flatMap_eq_nil_iff.1 roots kind among
  simp only [rootFaults, root] at none
  split at none
  next found => simp [found]
  next => cases none

theorem isSome_fieldsOf?_of_memberFaults {union : String} {seen members : List String}
    (none : schema.memberFaults union seen members = []) :
    ∀ member ∈ members, (schema.fieldsOf? member).isSome := by
  fun_induction memberFaults schema union seen members with
  | case1 => simp
  | case2 => cases none
  | case3 => cases none
  | case4 seen name rest object _ ih =>
    exact List.forall_mem_cons.2 ⟨by simpa [Option.isSome_iff_ne_none] using object, ih none⟩

theorem isSome_fieldsOf?_of_union (faultless : schema.faults = []) {union : String}
    {members : List String} (present : schema.body? union = some (.union members)) :
    ∀ member ∈ members, (schema.fieldsOf? member).isSome := by
  obtain ⟨visited, none⟩ := typeFaults_eq_nil faultless present
  obtain ⟨_, none⟩ := List.append_eq_nil_iff.1 none
  exact isSome_fieldsOf?_of_memberFaults none

theorem not_reserved_of_enum (faultless : schema.faults = []) {name : String}
    {values : Table EnumValue} (present : schema.body? name = some (.enum values)) :
    ∀ value ∈ values.keys, ¬['_', '_'] <+: value.toList := by
  obtain ⟨visited, none⟩ := typeFaults_eq_nil faultless present
  obtain ⟨_, none⟩ := List.append_eq_nil_iff.1 none
  intro value member reserved
  have unreserved := List.flatMap_eq_nil_iff.1 none value member
  rw [nameFaults, if_pos (List.isPrefixOf_iff_prefix.2 reserved)] at unreserved
  cases unreserved

/-! ### What is defined -/

/-- The values of an enum are listed by its definition and the extensions of it. -/
theorem mem_valueNames_of_bodyOf {t : TypeDef} {extensions : List TypeDef}
    {values : Table EnumValue} (made : bodyOf t extensions = .ok (.enum values)) {value : String}
    (member : value ∈ values.keys) : ∃ part ∈ t :: extensions, value ∈ part.valueNames := by
  simp only [bodyOf] at made
  split at made
  next => cases made
  next =>
    obtain ⟨_, _, last⟩ := bind_except_eq_ok_iff.1 made
    cases last
  next =>
    obtain ⟨_, _, last⟩ := bind_except_eq_ok_iff.1 made
    cases last
  next => cases made
  next =>
    cases made
    obtain ⟨_, listed, rfl⟩ := List.mem_map.1 (Table.mem_keys_ofList.1 member)
    obtain ⟨v, among, rfl⟩ := List.mem_map.1 listed
    obtain ⟨part, own, inside⟩ := List.mem_flatMap.1 among
    refine ⟨part, own, ?_⟩
    simp only [valuesOf] at inside
    split at inside
    next values body =>
      rw [TypeDef.valueNames, body]
      exact List.mem_map_of_mem inside
    next => cases inside
  next =>
    obtain ⟨_, _, last⟩ := bind_except_eq_ok_iff.1 made
    cases last

/-- A type that is not standard is what its definition and the extensions of it say. -/
theorem bodyOf_of_typeOf {extensions : List TypeDef} {t : TypeDef} {name : String}
    {type : NamedType} (made : typeOf extensions t = .ok (name, type))
    (defined : standardType? name = none) :
    bodyOf t (extensions.filter fun e => e.name = t.name) = .ok type.body := by
  rw [typeOf] at made
  split at made
  next standard found =>
    cases made
    rw [found] at defined
    cases defined
  next =>
    obtain ⟨body, read, last⟩ := bind_except_eq_ok_iff.1 made
    cases last
    exact read

theorem mem_types_iff {doc : Document} {t : TypeDef} : t ∈ doc.types ↔ .type t ∈ doc := by
  rw [Document.types, List.mem_filterMap]
  constructor
  · rintro ⟨definition, member, same⟩
    cases definition with
    | type => cases same; exact member
    | _ => cases same
  · exact fun member => ⟨_, member, rfl⟩

theorem mem_typeExtensions_iff {doc : Document} {t : TypeDef} :
    t ∈ doc.typeExtensions ↔ .typeExtension t ∈ doc := by
  rw [Document.typeExtensions, List.mem_filterMap]
  constructor
  · rintro ⟨definition, member, same⟩
    cases definition with
    | typeExtension => cases same; exact member
    | _ => cases same
  · exact fun member => ⟨_, member, rfl⟩

/-- A type of the schema of a document is defined in the document or standard. -/
theorem typeOf_or_standard {doc : Document} (made : ofDocument doc = .ok schema)
    {name : String} {type : NamedType} (present : (name, type) ∈ schema.types.entries) :
    (∃ t ∈ doc.types, typeOf doc.typeExtensions t = .ok (name, type)) ∨
      standardType? name = some type := by
  obtain ⟨_, _, made⟩ := bind_except_eq_ok_iff.1 made
  obtain ⟨directives, _, made⟩ := bind_except_eq_ok_iff.1 made
  obtain ⟨named, typed, last⟩ := bind_except_eq_ok_iff.1 made
  cases last
  rcases List.mem_append.1 (Table.mem_of_mem_entries_ofList present) with own | standard
  · exact .inl (exists_left_of_forall₂ (mapM_except_eq_ok_iff.1 typed) own)
  · obtain ⟨other, _, same⟩ := List.mem_filterMap.1 standard
    obtain ⟨_, found, same⟩ := Option.map_eq_some_iff.1 same
    cases same
    exact .inr found

/-- The values of an enum that a document defines are listed in the document. -/
theorem mem_valueNames_of_ofDocument {doc : Document} (made : ofDocument doc = .ok schema)
    {name : String} (defined : standardType? name = none) {values : Table EnumValue}
    (present : schema.body? name = some (.enum values)) {value : String}
    (member : value ∈ values.keys) :
    ∃ t, (.type t ∈ doc ∨ .typeExtension t ∈ doc) ∧ value ∈ t.valueNames := by
  obtain ⟨type, among, body⟩ := body?_eq_some_iff.1 present
  rcases typeOf_or_standard made among with ⟨t, stated, typed⟩ | standard
  · have read := bodyOf_of_typeOf typed defined
    rw [body] at read
    obtain ⟨part, inside, listed⟩ := mem_valueNames_of_bodyOf read member
    refine ⟨part, ?_, listed⟩
    rcases List.mem_cons.1 inside with rfl | extension
    · exact .inl (mem_types_iff.1 stated)
    · exact .inr (mem_typeExtensions_iff.1 (List.mem_of_mem_filter extension))
  · rw [defined] at standard
    cases standard

/-- A schema is loaded from a text that reads as a document, and has no faults. -/
theorem document_of_load {text : String} (loaded : load text = .ok schema) :
    ∃ doc, readDocument text = .ok doc ∧ ofDocument doc = .ok schema ∧ schema.faults = [] := by
  obtain ⟨doc, read, loaded⟩ := bind_except_eq_ok_iff.1 loaded
  simp only at loaded
  split at loaded
  next => cases loaded
  next =>
    obtain ⟨made, stated, loaded⟩ := bind_except_eq_ok_iff.1 loaded
    split at loaded
    next => cases loaded
    next faultless =>
      cases loaded
      exact ⟨doc, mapError_eq_ok_iff.1 read, mapError_eq_ok_iff.1 stated, by simpa using faultless⟩

theorem isSound_of_load {text : String} (loaded : load text = .ok schema) : schema.IsSound := by
  obtain ⟨doc, read, made, faultless⟩ := document_of_load loaded
  refine ⟨fun _ _ => isSome_fieldsOf?_of_root? faultless,
    fun _ _ => isSome_fieldsOf?_of_union faultless, fun values present graph member => ⟨?_, ?_⟩⟩
  · obtain ⟨t, stated, value⟩ :=
      mem_valueNames_of_ofDocument made (by decide +kernel) present member
    have named := named_of_readDocument read
    rcases stated with definition | extension
    · exact (named _ definition).values graph value
    · exact (named _ extension).values graph value
  · exact not_reserved_of_enum faultless present graph member

/-! ### Detaching -/

/-- What is checked of a type: whether it is an object, the members of a union, the values of an
enum. -/
inductive Outline where
  | object
  | union (members : List String)
  | enum (values : List String)
  | other

/-- The outline of a type. -/
def TypeBody.outline : TypeBody → Outline
  | .object .. => .object
  | .union members => .union members
  | .enum values => .enum values.keys
  | _ => .other

/-- The outline of the type of a name. -/
def outline? (schema : Schema) (name : String) : Option Outline :=
  (schema.body? name).map TypeBody.outline

section Outline

variable {name : String}

theorem isSome_fieldsOf?_iff :
    (schema.fieldsOf? name).isSome ↔ schema.outline? name = some .object := by
  rw [fieldsOf?, outline?]
  cases schema.body? name with
  | none => simp
  | some body => cases body <;> simp [TypeBody.objectFields?, TypeBody.outline]

theorem outline?_eq_union_iff {members : List String} :
    schema.outline? name = some (.union members) ↔
      schema.body? name = some (.union members) := by
  rw [outline?]
  cases schema.body? name with
  | none => simp
  | some body => cases body <;> simp [TypeBody.outline]

theorem outline?_eq_enum_iff {values : List String} :
    schema.outline? name = some (.enum values) ↔
      ∃ table, schema.body? name = some (.enum table) ∧ table.keys = values := by
  rw [outline?]
  cases schema.body? name with
  | none => simp
  | some body => cases body <;> simp [TypeBody.outline]

/-- Soundness is a matter of roots and outlines. -/
theorem IsSound.congr {other : Schema} (sound : schema.IsSound) (roots : other.roots = schema.roots)
    (same : ∀ name, other.outline? name = schema.outline? name) : other.IsSound := by
  refine ⟨fun kind type root => ?_, fun union members present => ?_, fun values present => ?_⟩
  · rw [isSome_fieldsOf?_iff, same, ← isSome_fieldsOf?_iff]
    exact sound.roots kind type (by rwa [root?, ← roots])
  · rw [← outline?_eq_union_iff, same, outline?_eq_union_iff] at present
    intro member among
    rw [isSome_fieldsOf?_iff, same, ← isSome_fieldsOf?_iff]
    exact sound.members union members present member among
  · have listed := outline?_eq_enum_iff.2 ⟨values, present, rfl⟩
    rw [same] at listed
    obtain ⟨table, present, keys⟩ := outline?_eq_enum_iff.1 listed
    rw [← keys]
    exact sound.graphs table present

theorem outline?_modifyType {change : NamedType → NamedType}
    (same : ∀ type, (change type).body.outline = type.body.outline) (type name : String) :
    (schema.modifyType type change).outline? name = schema.outline? name := by
  rw [outline?, outline?, body?, body?, modifyType, Table.get?_modify]
  cases schema.types.get? name with
  | none => rfl
  | some t =>
    simp only [Option.map_some, Option.some.injEq]
    split
    · exact same t
    · rfl

theorem outline?_modifyBody {change : TypeBody → TypeBody}
    (same : ∀ body, (change body).outline = body.outline) (type name : String) :
    (schema.modifyBody type change).outline? name = schema.outline? name :=
  outline?_modifyType (fun t => same t.body) type name

theorem outline_modifyField (field : String) (change : Field → Field)
    (changeInput : InputValue → InputValue) (body : TypeBody) :
    (body.modifyField field change changeInput).outline = body.outline := by
  cases body <;> rfl

end Outline

/-- Schemas that are loaded are sound. -/
theorem IsLoaded.isSound (loaded : schema.IsLoaded) : schema.IsSound := by
  induction loaded with
  | load loaded => exact isSound_of_load loaded
  | detachType _ type ih =>
    refine ih.congr rfl (outline?_modifyType ?_ type)
    exact fun _ => rfl
  | detachValue _ type value ih =>
    refine ih.congr rfl (outline?_modifyBody (fun body => ?_) type)
    cases body with
    | enum values => exact congrArg Outline.enum (Table.keys_modify values value _)
    | _ => rfl
  | detachField _ type field ih =>
    exact ih.congr rfl (outline?_modifyBody (outline_modifyField field _ _) type)
  | detachArgument _ type field argument ih =>
    exact ih.congr rfl (outline?_modifyBody (outline_modifyField field _ _) type)

end Schema

/-! ### Federations -/

namespace Federation

variable {schema : Schema} {fed : Federation}

theorem key_of_subgraphOf {key : String} {value : Schema.EnumValue} {s : Subgraph}
    (read : Join.subgraphOf key value = .ok (.ok s)) : s.key = key := by
  have reads := Join.reads_subgraphOf key value
  rw [read] at reads
  cases reads
  rfl

/-- The subgraphs are what the values of the enum stand for, registered under the values. -/
theorem exists_value_of_registryOf {values : Table Schema.EnumValue} {subgraphs : Table Subgraph}
    (made : Join.registryOf values = .ok subgraphs) {entry : String × Subgraph}
    (member : entry ∈ subgraphs.entries) :
    ∃ value, (entry.1, value) ∈ values.entries ∧
      Join.subgraphOf entry.1 value = .ok (.ok entry.2) := by
  obtain ⟨read, each, made⟩ := bind_except_eq_ok_iff.1 made
  simp only at made
  split at made
  next =>
    cases made
    obtain ⟨outcome, inside, same⟩ := List.mem_filterMap.1 (Table.mem_of_mem_entries_ofList member)
    cases outcome with
    | error => cases same
    | ok s =>
      cases same
      obtain ⟨⟨name, value⟩, present, found⟩ :=
        exists_left_of_forall₂ (mapM_except_eq_ok_iff.1 (mapError_eq_ok_iff.1 each)) inside
      -- A subgraph is stored under its own key, which is the value that it was read from.
      rw [key_of_subgraphOf found]
      exact ⟨value, present, found⟩
  next => cases made

/-- The federation of a schema has the schema, and its subgraphs are those that the schema declares.
-/
theorem exists_value_of_ofSchema (made : (Federation.ofSchema schema).result = .ok fed) :
    fed.schema = schema ∧ ∀ entry ∈ fed.subgraphs.entries, ∃ values value,
      schema.body? Join.graphEnum = some (.enum values) ∧ (entry.1, value) ∈ values.entries ∧
        Join.subgraphOf entry.1 value = .ok (.ok entry.2) := by
  obtain ⟨registry, read, made⟩ := Traced.bind_eq_ok_iff.1 made
  have found := Traced.result_check_eq_ok_iff.1 read
  cases registry with
  | none =>
    cases made
    exact ⟨rfl, fun _ member => absurd member List.not_mem_nil⟩
  | some subgraphs =>
    cases made
    refine ⟨rfl, fun entry member => ?_⟩
    rw [Join.registry?] at found
    split at found
    next => cases found
    next values present =>
      obtain ⟨_, read, same⟩ := map_except_eq_ok_iff.1 found
      cases same
      obtain ⟨value, among, stands⟩ := exists_value_of_registryOf read member
      exact ⟨values, value, present, among, stands⟩
    next => cases found

/-- The graphs of the federation of a schema that is loaded are called by names. -/
theorem isGraphName_of_mem_keys (loaded : schema.IsLoaded)
    (made : (Federation.ofSchema schema).result = .ok fed) :
    ∀ key ∈ fed.subgraphs.keys, IsGraphName key := by
  intro key member
  obtain ⟨s, entry⟩ := Table.mem_keys_iff.1 member
  obtain ⟨values, value, present, among, _⟩ := (exists_value_of_ofSchema made).2 _ entry
  exact loaded.isSound.graphs values present key (Table.mem_keys_iff.2 ⟨value, among⟩)

end Federation

/-! ### Planners -/

namespace Planner

variable {text : String} {p : Planner}

/-- The planner for the supergraph that a text says. -/
def ofText? (text : String) : Option Planner :=
  (loadSchema text >>= Federation.ofSchema).result.toOption.map .ofFederation

/-- The planner of a text plans for the federation of the schema that the text says. -/
theorem exists_load_of_ofText? (made : ofText? text = some p) :
    ∃ schema, Schema.load text = .ok schema ∧ (Federation.ofSchema schema).result = .ok p.fed := by
  obtain ⟨fed, read, rfl⟩ := Option.map_eq_some_iff.1 made
  obtain ⟨schema, loaded, read⟩ := Traced.bind_eq_ok_iff.1 (toOption_eq_some_iff.1 read)
  obtain ⟨found, checked, told⟩ := Traced.bind_eq_ok_iff.1 loaded
  obtain ⟨_, _, last⟩ := Traced.bind_eq_ok_iff.1 told
  cases last
  exact ⟨schema, Traced.result_check_eq_ok_iff.1 checked, read⟩

/-- The planner of a text plans for the federation of a schema that is loaded. -/
theorem exists_schema_of_ofText? (made : ofText? text = some p) :
    ∃ schema : Schema, schema.IsLoaded ∧ (Federation.ofSchema schema).result = .ok p.fed := by
  obtain ⟨schema, loaded, read⟩ := exists_load_of_ofText? made
  exact ⟨schema, .load loaded, read⟩

/-- The schema of the planner of a text is what the text says. -/
theorem load_of_ofText? (made : ofText? text = some p) : Schema.load text = .ok p.fed.schema := by
  obtain ⟨schema, loaded, read⟩ := exists_load_of_ofText? made
  rw [loaded, (Federation.exists_value_of_ofSchema read).1]

/-- What is checked of a text and of the plan that is made for it. -/
theorem exists_plan_of_any {holds : Planner → Plan → Bool}
    (checked : ((ofText? text).any fun p => p.compile.1.toOption.any (holds p)) = true) :
    ∃ p plan, ofText? text = some p ∧ p.compile.1 = .ok plan ∧ holds p plan := by
  obtain ⟨p, made, checked⟩ := (Option.any_eq_true _ _).1 checked
  obtain ⟨plan, compiled, checked⟩ := (Option.any_eq_true _ _).1 checked
  exact ⟨p, plan, made, toOption_eq_some_iff.1 compiled, checked⟩

theorem isLoaded_of_ofText? (made : ofText? text = some p) : p.fed.schema.IsLoaded :=
  .load (load_of_ofText? made)

end Planner

end Supergraph
