import Supergraph.Proofs.Schema.Defined
import Supergraph.Proofs.Values

/-!
# Defaults of loaded schemas

A document in which the object of some literal has a member twice is refused, so that the defaults
of a loaded schema mean values whose records have members of distinct names. A schema in which a
default is none of its type is refused as well. Detaching a definition does not change any default.

## Main definitions

* `Schema.argumentDefault?` — the default of an argument of a field

## Main results

* `Schema.IsLoaded.isClean_default` — the defaults of loaded schemas
* `Schema.misfits_default_eq_nil`, `Schema.exists_small_default_of_load` — they are values of their
  types
-/

namespace Supergraph

namespace Sdl

/-! ### Documents -/

section Document

variable {scope : Scope} {doc before : Document} {t : TypeDef} {location : Location}

/-- In a document without violations no definition has any. -/
theorem exists_definitionViolations_eq_nil (valid : violationsAfter scope before doc = [])
    {d : Definition} (member : d ∈ doc) : ∃ earlier, definitionViolations scope earlier d = [] := by
  induction doc generalizing before with
  | nil => cases member
  | cons first rest ih =>
    obtain ⟨here, later⟩ := List.append_eq_nil_iff.1 valid
    rcases List.mem_cons.1 member with rfl | inside
    · exact ⟨before, here⟩
    · exact ih later inside

theorem isClean_of_inputDef {i : InputDef} (valid : inputDefViolations scope location i = []) :
    ∀ l ∈ i.default?, l.IsClean := by
  intro l default
  obtain ⟨parts, _⟩ := List.append_eq_nil_iff.1 valid
  obtain ⟨_, literal⟩ := List.append_eq_nil_iff.1 parts
  rw [Option.mem_def.1 default] at literal
  exact literal

theorem isClean_of_fieldDef {f : FieldDef} (valid : fieldDefViolations scope f = []) :
    ∀ i ∈ f.arguments, ∀ l ∈ i.default?, l.IsClean := by
  intro i member
  obtain ⟨parts, _⟩ := List.append_eq_nil_iff.1 valid
  obtain ⟨parts, _⟩ := List.append_eq_nil_iff.1 parts
  obtain ⟨_, arguments⟩ := List.append_eq_nil_iff.1 parts
  exact isClean_of_inputDef (List.flatMap_eq_nil_iff.1 arguments i member)

theorem isClean_of_body (valid : bodyViolations scope location t = []) :
    ∀ f ∈ t.outputFields, ∀ i ∈ f.arguments, ∀ l ∈ i.default?, l.IsClean := by
  intro f member
  rw [TypeDef.outputFields] at member
  cases body : t.body with
  | object interfaces fields | interface interfaces fields =>
    rw [body] at member
    simp only [bodyViolations, body] at valid
    obtain ⟨_, fields⟩ := List.append_eq_nil_iff.1 valid
    exact isClean_of_fieldDef (List.flatMap_eq_nil_iff.1 fields f member)
  | scalar | union | enum | input =>
    rw [body] at member
    cases member

/-- The defaults of the arguments of a field are clean in a valid document. -/
theorem isClean_of_document (valid : violations doc = [])
    (stated : .type t ∈ doc ∨ .typeExtension t ∈ doc) :
    ∀ f ∈ t.outputFields, ∀ i ∈ f.arguments, ∀ l ∈ i.default?, l.IsClean := by
  rcases stated with definition | extension
  · obtain ⟨_, none⟩ := exists_definitionViolations_eq_nil valid definition
    obtain ⟨_, body⟩ := List.append_eq_nil_iff.1 none
    exact isClean_of_body body
  · obtain ⟨_, none⟩ := exists_definitionViolations_eq_nil valid extension
    obtain ⟨_, body⟩ := List.append_eq_nil_iff.1 none
    exact isClean_of_body body

end Document

end Sdl

namespace Schema

open Sdl

variable {schema : Schema}

/-- The default of an argument of a field of an object type. -/
def TypeBody.argumentDefault? (body : TypeBody) (field argument : String) : Option Literal :=
  ((body.objectFields?.bind (·.get? field)).bind (·.arguments.get? argument)).bind
    InputValue.default?

/-- The default of an argument of a field of the object type of a name. -/
def argumentDefault? (schema : Schema) (type field argument : String) : Option Literal :=
  (schema.body? type).bind (·.argumentDefault? field argument)

/-! ### Types that are loaded -/

section Loaded

variable {field argument : String} {l : Literal}

theorem default_of_inputTable {holder : Option String} {inputs : List InputDef}
    {table : Table InputValue} (made : inputTable holder inputs = .ok table)
    (clean : ∀ i ∈ inputs, ∀ l ∈ i.default?, l.IsClean) :
    ∀ a ∈ table.entries, ∀ l ∈ a.2.default?, l.IsClean := by
  obtain ⟨entries, read, last⟩ := bind_except_eq_ok_iff.1 made
  cases last
  refine forall_entries_of_mapM (fun i among entry read => ?_) read
  obtain ⟨_, _, last⟩ := bind_except_eq_ok_iff.1 read
  cases last
  exact clean i among

theorem defaults_of_fieldTable {owner : String} {fields : List FieldDef} {table : Table Field}
    (made : fieldTable owner fields = .ok table)
    (clean : ∀ f ∈ fields, ∀ i ∈ f.arguments, ∀ l ∈ i.default?, l.IsClean) :
    ∀ f ∈ table.entries, ∀ a ∈ f.2.arguments.entries, ∀ l ∈ a.2.default?, l.IsClean := by
  obtain ⟨entries, read, last⟩ := bind_except_eq_ok_iff.1 made
  cases last
  refine forall_entries_of_mapM (fun f among entry read => ?_) read
  obtain ⟨arguments, tabled, read⟩ := bind_except_eq_ok_iff.1 read
  obtain ⟨_, _, last⟩ := bind_except_eq_ok_iff.1 read
  cases last
  exact default_of_inputTable tabled (clean f among)

/-- All defaults in the fields of an object type are clean. -/
def TypeBody.HasCleanDefaults (body : TypeBody) : Prop :=
  ∀ fields, body.objectFields? = some fields →
    ∀ f ∈ fields.entries, ∀ a ∈ f.2.arguments.entries, ∀ l ∈ a.2.default?, l.IsClean

theorem hasCleanDefaults_of_bodyOf {t : TypeDef} {extensions : List TypeDef} {body : TypeBody}
    (made : bodyOf t extensions = .ok body)
    (clean : ∀ part ∈ t :: extensions, ∀ f ∈ part.outputFields, ∀ i ∈ f.arguments,
      ∀ l ∈ i.default?, l.IsClean) : body.HasCleanDefaults := by
  intro fields object
  cases kind : t.body with
  | object =>
    simp only [bodyOf, kind] at made
    obtain ⟨table, read, last⟩ := bind_except_eq_ok_iff.1 made
    cases last
    cases object
    refine defaults_of_fieldTable read fun f among => ?_
    obtain ⟨part, own, inside⟩ := List.mem_flatMap.1 among
    exact clean part own f inside
  | interface | input =>
    simp only [bodyOf, kind] at made
    obtain ⟨table, read, last⟩ := bind_except_eq_ok_iff.1 made
    cases last
    cases object
  | scalar | union | enum =>
    simp only [bodyOf, kind] at made
    cases made
    cases object

/-- The standard types have no defaults but truth values. -/
theorem hasCleanDefaults_of_standardType? {name : String} {type : NamedType}
    (standard : standardType? name = some type) : type.body.HasCleanDefaults := by
  have fields : ∀ entry ∈ introspectionFields, ∀ f ∈ entry.2, ∀ a ∈ f.2.arguments.entries,
      ∀ l ∈ a.2.default?, literalViolations l = [] := by
    decide +kernel
  intro table object
  rw [standardType?] at standard
  split at standard
  next =>
    cases standard
    cases object
  next =>
    split at standard
    next found =>
      cases standard
      cases object
      intro f member
      exact fields (name, _) (Table.mem_of_lookup_eq_some found) f
        (Table.mem_of_mem_entries_ofList member)
    next =>
      obtain ⟨_, _, same⟩ := Option.map_eq_some_iff.1 standard
      cases same
      cases object

/-- A schema is loaded from a document without violations. -/
theorem exists_valid_document_of_load {text : String} (loaded : load text = .ok schema) :
    ∃ doc, violations doc = [] ∧ ofDocument doc = .ok schema := by
  obtain ⟨doc, read, loaded⟩ := bind_except_eq_ok_iff.1 loaded
  simp only at loaded
  split at loaded
  next => cases loaded
  next valid =>
    obtain ⟨made, stated, loaded⟩ := bind_except_eq_ok_iff.1 loaded
    split at loaded
    next => cases loaded
    next =>
      cases loaded
      exact ⟨doc, by simpa using valid, mapError_eq_ok_iff.1 stated⟩

theorem hasCleanDefaults_of_load {text : String} (loaded : load text = .ok schema) {name : String}
    {type : NamedType} (present : (name, type) ∈ schema.types.entries) :
    type.body.HasCleanDefaults := by
  obtain ⟨doc, valid, made⟩ := exists_valid_document_of_load loaded
  rcases typeOf_or_standard made present with ⟨t, stated, typed⟩ | standard
  · rw [typeOf] at typed
    split at typed
    next standard found =>
      cases typed
      exact hasCleanDefaults_of_standardType? found
    next =>
      obtain ⟨body, read, last⟩ := bind_except_eq_ok_iff.1 typed
      cases last
      refine hasCleanDefaults_of_bodyOf read fun part own => isClean_of_document valid ?_
      rcases List.mem_cons.1 own with rfl | extension
      · exact .inl (mem_types_iff.1 stated)
      · exact .inr (mem_typeExtensions_iff.1 (List.mem_of_mem_filter extension))
  · exact hasCleanDefaults_of_standardType? standard

end Loaded

/-! ### Detaching -/

section Detach

variable {name field argument : String}

/-- Changes that keep the defaults of a type keep those of the schema. -/
theorem argumentDefault?_modifyType {change : NamedType → NamedType}
    (same : ∀ t field argument,
      (change t).body.argumentDefault? field argument = t.body.argumentDefault? field argument)
    (type name field argument : String) :
    (schema.modifyType type change).argumentDefault? name field argument =
      schema.argumentDefault? name field argument := by
  rw [argumentDefault?, argumentDefault?, body?, body?, modifyType, Table.get?_modify]
  cases schema.types.get? name with
  | none => rfl
  | some t =>
    by_cases here : name = type
    · simp [here, same]
    · simp [here]

/-- Changes that keep the defaults of a field keep those of the type. -/
theorem argumentDefault?_modifyField {change : Field → Field}
    {changeInput : InputValue → InputValue}
    (same : ∀ f argument, ((change f).arguments.get? argument).bind InputValue.default? =
      (f.arguments.get? argument).bind InputValue.default?)
    (body : TypeBody) (name field argument : String) :
    (body.modifyField name change changeInput).argumentDefault? field argument =
      body.argumentDefault? field argument := by
  cases body with
  | object interfaces fields =>
    simp only [TypeBody.argumentDefault?, TypeBody.modifyField, TypeBody.objectFields?,
      Option.bind_some, Table.get?_modify]
    cases fields.get? field with
    | none => rfl
    | some f =>
      by_cases here : field = name
      · simp [here, same]
      · simp [here]
  | _ => rfl

theorem argumentDefault?_modifyBody {change : TypeBody → TypeBody}
    (same : ∀ body field argument,
      (change body).argumentDefault? field argument = body.argumentDefault? field argument)
    (type name field argument : String) :
    (schema.modifyBody type change).argumentDefault? name field argument =
      schema.argumentDefault? name field argument :=
  argumentDefault?_modifyType (fun t => same t.body) type name field argument

/-- An argument that is detached keeps its default. -/
theorem default?_detachArgument (arguments : Table InputValue) (detached argument : String) :
    ((arguments.modify detached fun a => { a with isDefined := false }).get? argument).bind
        InputValue.default? = (arguments.get? argument).bind InputValue.default? := by
  rw [Table.get?_modify]
  cases arguments.get? argument with
  | none => rfl
  | some a =>
    by_cases here : argument = detached
    · simp [here]
    · simp [here]

end Detach

theorem isClean_of_load {text : String} (loaded : load text = .ok schema)
    {type field argument : String} {l : Literal}
    (default : schema.argumentDefault? type field argument = some l) : l.IsClean := by
  obtain ⟨body, present, default⟩ := Option.bind_eq_some_iff.1 default
  obtain ⟨named, member, rfl⟩ := body?_eq_some_iff.1 present
  obtain ⟨a, found, default⟩ := Option.bind_eq_some_iff.1 default
  obtain ⟨f, among, taken⟩ := Option.bind_eq_some_iff.1 found
  obtain ⟨fields, object, inside⟩ := Option.bind_eq_some_iff.1 among
  exact hasCleanDefaults_of_load loaded member fields object (field, f)
    (Table.get?_eq_some_iff.1 inside) (argument, a) (Table.get?_eq_some_iff.1 taken) l default

/-- The defaults of a loaded schema are clean. -/
theorem IsLoaded.isClean_default (loaded : schema.IsLoaded) {type field argument : String}
    {l : Literal} (default : schema.argumentDefault? type field argument = some l) :
    l.IsClean := by
  induction loaded with
  | load loaded => exact isClean_of_load loaded default
  | detachType _ name ih =>
    refine ih (Eq.trans ?_ default)
    refine (argumentDefault?_modifyType (fun t _ _ => ?_) name type field argument).symm
    rfl
  | detachValue _ name value ih =>
    refine ih (Eq.trans ?_ default)
    refine (argumentDefault?_modifyBody (fun body _ _ => ?_) name type field argument).symm
    cases body <;> rfl
  | detachField _ name other ih =>
    refine ih (Eq.trans ?_ default)
    refine (argumentDefault?_modifyBody (fun body => ?_) name type field argument).symm
    refine argumentDefault?_modifyField (fun f argument => ?_) body other
    rfl
  | detachArgument _ name other detached ih =>
    refine ih (Eq.trans ?_ default)
    refine (argumentDefault?_modifyBody (fun body => ?_) name type field argument).symm
    exact argumentDefault?_modifyField
      (fun f => default?_detachArgument f.arguments detached) body other

/-! ### Defaults and their types -/

section Fit

variable {type : String} {fields : Table Field} {f : String × Field} {a : String × InputValue}
  {l : Literal} {text : String}

/-- In a schema without faults the default of an argument of an object type is a value of its
type. -/
theorem misfits_default_eq_nil (faultless : schema.faults = [])
    (object : schema.fieldsOf? type = some fields) (among : f ∈ fields.entries)
    (taken : a ∈ f.2.arguments.entries) (default : a.2.default? = some l) :
    schema.misfits a.2.type l = [] := by
  obtain ⟨body, present, own⟩ := Option.bind_eq_some_iff.1 object
  obtain ⟨visited, none⟩ := typeFaults_eq_nil faultless present
  cases body with
  | object interfaces _ =>
    cases own
    obtain ⟨spelledAndFields, _⟩ := List.append_eq_nil_iff.1 none
    obtain ⟨_, ofFields⟩ := List.append_eq_nil_iff.1 spelledAndFields
    obtain ⟨_, each⟩ := List.append_eq_nil_iff.1 ofFields
    obtain ⟨_, ofArguments⟩ := List.append_eq_nil_iff.1 (List.flatMap_eq_nil_iff.1 each f among)
    obtain ⟨_, ofDefault⟩ :=
      List.append_eq_nil_iff.1 (List.flatMap_eq_nil_iff.1 ofArguments a taken)
    rw [defaultFaults, default] at ofDefault
    simpa using ofDefault
  | _ => cases own

/-- An integer that is a value of the scalar type for integers is read, and is small. -/
theorem exists_small_of_misfits {reference : TypeRef} (base : reference.baseName? = some "Int")
    (standard : schema.body? "Int" = some (.scalar true))
    (none : schema.misfits reference (.int text) = []) :
    ∃ n, Text.readInteger text = .ok n ∧ -2147483648 ≤ n ∧ n ≤ 2147483647 := by
  have whole : integerMisfit? text = Option.none := by
    simpa [misfits, wholeMisfits, base, standard, TypeBody.misfit?, scalarMisfit?] using none
  rw [integerMisfit?] at whole
  split at whole
  next n read =>
    split at whole
    next small => exact ⟨n, read, small⟩
    next => cases whole
  next => cases whole

/-- An integer that is written as the default of an argument for integers is read, and is small: of
a default with too many digits no schema is loaded. -/
theorem exists_small_default_of_load {source : String} (loaded : load source = .ok schema)
    (standard : schema.body? "Int" = some (.scalar true))
    (object : schema.fieldsOf? type = some fields) (among : f ∈ fields.entries)
    (taken : a ∈ f.2.arguments.entries) (base : a.2.type.baseName? = some "Int")
    (default : a.2.default? = some (.int text)) :
    ∃ n, Text.readInteger text = .ok n ∧ -2147483648 ≤ n ∧ n ≤ 2147483647 := by
  obtain ⟨_, _, _, faultless⟩ := document_of_load loaded
  exact exists_small_of_misfits base standard
    (misfits_default_eq_nil faultless object among taken default)

end Fit

end Schema

end Supergraph
