import Mathlib.Logic.Relation
import Supergraph.Proofs.Arguments
import Supergraph.Proofs.Independence
import Supergraph.Schema.Detach

/-!
# Inert claims

A claim on a field that is external, or that names no graph, says nothing about who owns the field.
Such claims can be put among the claims of a subgraph and taken away again, wherever they stand and
whichever graph an external one names, and the plan of the entity with its warnings stays as it is,
or fails as it did.

## Main definitions

* `Join.IsInert` — the directives that claim a field without saying who owns it
* `Join.InertEdit` — putting an inert directive among others, or taking it away
* `Schema.reclaim`, `Federation.reclaim` — other directives on the fields of a type

## Main results

* `Join.readOwner?_eq_of_inertEdit`, `Join.readOwner?_eq_of_inertEdits` — one edit and several
  leave the claimed owner as it is
* `Schema.ownAlike_reclaim` — a schema whose directives have been edited owns its fields alike
* `inert_claims_leave_plans` — such edits do not matter to planning the type
-/

namespace Supergraph

/-! ### Reading owners -/

namespace Join

/-- A directive that claims a field with arguments of the right kinds, and is external or names no
graph. -/
structure IsInert (a : Sdl.Application) : Prop where
  named : a.name = "join__field"
  fits : FitsField a
  silent : truthValue a "external" = true ∨ enumValue? a "graph" = none

/-- An inert directive is put among others, or taken away from among them. -/
inductive InertEdit : List Sdl.Application → List Sdl.Application → Prop
  | insert {a : Sdl.Application} (inert : IsInert a) (before after : List Sdl.Application) :
      InertEdit (before ++ after) (before ++ a :: after)
  | delete {a : Sdl.Application} (inert : IsInert a) (before after : List Sdl.Application) :
      InertEdit (before ++ a :: after) (before ++ after)

/-- The owner that a claim yields on its own. -/
def FieldClaim.owner? (claim : FieldClaim) : Option String :=
  if claim.external then none else claim.graph

variable {a : Sdl.Application} {applied edited : List Sdl.Application}

theorem ownerOfFieldClaims?_cons (claim : FieldClaim) (claims : List FieldClaim) :
    ownerOfFieldClaims? (claim :: claims) = claim.owner?.or (ownerOfFieldClaims? claims) := by
  obtain ⟨graph, external⟩ := claim
  cases graph <;> cases external <;> rfl

/-- Directives are read one after the other, and a claim that yields an owner comes first. -/
theorem readOwner?_cons (a : Sdl.Application) (applied : List Sdl.Application) :
    readOwner? (a :: applied) =
      if a.name = "join__field" then do
        let claim ← fieldClaim a
        return claim.owner?.or (← readOwner? applied)
      else readOwner? applied := by
  rw [readOwner?, readOwner?, fieldClaimsOf, fieldClaimsOf, appliedAs, List.filter_cons,
    ← appliedAs]
  by_cases named : a.name = "join__field"
  · rw [if_pos named, if_pos (decide_eq_true named), List.mapM_cons]
    cases fieldClaim a with
    | error e => rfl
    | ok claim =>
      cases (appliedAs "join__field" applied).mapM fieldClaim with
      | error e => rfl
      | ok claims => exact congrArg Except.ok (ownerOfFieldClaims?_cons claim claims)
  · rw [if_neg named, if_neg (by simpa using named)]

theorem owner?_ofApplication_of_isInert (inert : IsInert a) :
    (FieldClaim.ofApplication a).owner? = none := by
  rw [FieldClaim.ofApplication, FieldClaim.owner?]
  rcases inert.silent with external | unnamed
  · rw [if_pos external]
  · rw [unnamed, ite_self]

/-- An inert directive is read without fail and yields nothing. -/
theorem readOwner?_cons_of_isInert (inert : IsInert a) (applied : List Sdl.Application) :
    readOwner? (a :: applied) = readOwner? applied := by
  rw [readOwner?_cons, if_pos inert.named, fieldClaim_eq_ok_iff.2 ⟨inert.fits, rfl⟩]
  change readOwner? applied >>= (fun rest => pure (Option.or _ rest)) = _
  simp only [owner?_ofApplication_of_isInert inert, Option.none_or]
  exact bind_pure _

/-- What stands before the same directives makes no difference to them being read alike. -/
theorem readOwner?_append_congr (before : List Sdl.Application)
    (same : readOwner? applied = readOwner? edited) :
    readOwner? (before ++ applied) = readOwner? (before ++ edited) := by
  induction before with
  | nil => exact same
  | cons a before ih =>
    rw [List.cons_append, List.cons_append, readOwner?_cons, readOwner?_cons, ih]

/-- An edit leaves the claimed owner as it is, and the first argument that cannot be read. -/
theorem readOwner?_eq_of_inertEdit (edit : InertEdit applied edited) :
    readOwner? applied = readOwner? edited := by
  cases edit with
  | insert inert before after =>
    exact readOwner?_append_congr before (readOwner?_cons_of_isInert inert after).symm
  | delete inert before after =>
    exact readOwner?_append_congr before (readOwner?_cons_of_isInert inert after)

/-- So do several edits, one after the other. -/
theorem readOwner?_eq_of_inertEdits (edits : Relation.ReflTransGen InertEdit applied edited) :
    readOwner? applied = readOwner? edited := by
  induction edits with
  | refl => rfl
  | tail _ edit ih => exact ih.trans (readOwner?_eq_of_inertEdit edit)

end Join

/-! ### Other directives on the fields of a type -/

/-- The table with every value changed. -/
def Table.mapValues {α : Type} (t : Table α) (change : String → α → α) : Table α where
  entries := t.entries.map fun (name, value) => (name, change name value)
  nodup_names := by
    rw [List.map_map]
    exact t.nodup_names

namespace Schema

/-- The type with the given directives on each field of an object type that is defined. -/
def TypeBody.reclaim (applied : String → List Sdl.Application) : TypeBody → TypeBody
  | object interfaces fields => .object interfaces
      (fields.mapValues fun name f => { f with applied? := f.applied?.map fun _ => applied name })
  | body => body

/-- The schema with the given directives on each field of an object type. -/
def reclaim (schema : Schema) (type : String) (applied : String → List Sdl.Application) : Schema :=
  schema.modifyBody type (TypeBody.reclaim applied)

variable {schema : Schema} {type : String} {applied : String → List Sdl.Application}
  {fields : Table Field}

theorem body?_reclaim (name : String) :
    (schema.reclaim type applied).body? name =
      (schema.body? name).map fun body =>
        if name = type then body.reclaim applied else body := by
  rw [body?, body?, reclaim, modifyBody, modifyType, Table.get?_modify, Option.map_map,
    Option.map_map]
  congr 1
  funext t
  simp only [Function.comp]
  split <;> rfl

theorem appliedTo?_reclaim (name : String) :
    (schema.reclaim type applied).appliedTo? name = schema.appliedTo? name := by
  rw [appliedTo?, appliedTo?, reclaim, modifyBody, modifyType, Table.get?_modify, Option.map_map]
  congr 1
  funext t
  simp only [Function.comp]
  split <;> rfl

theorem fieldsOf?_reclaim (declared : schema.fieldsOf? type = some fields) :
    (schema.reclaim type applied).fieldsOf? type = some (fields.mapValues fun name f =>
      { f with applied? := f.applied?.map fun _ => applied name }) := by
  obtain ⟨body, found, object⟩ := Option.bind_eq_some_iff.1 declared
  rw [fieldsOf?, body?_reclaim, found, Option.map_some, if_pos rfl, Option.bind_some]
  cases body with
  | object =>
    cases object
    rfl
  | _ => cases object

/-- A type remains of its kind. -/
theorem baseKind_reclaim (name : String) :
    (schema.reclaim type applied).baseKind name = schema.baseKind name := by
  rw [baseKind, baseKind, body?_reclaim]
  cases schema.body? name with
  | none => rfl
  | some body =>
    rw [Option.map_some]
    by_cases here : name = type
    · rw [if_pos here]
      cases body <;> rfl
    · rw [if_neg here]

/-- The registry is read from an enum, whose values have other directives. -/
theorem registry?_reclaim :
    Join.registry? (schema.reclaim type applied) = Join.registry? schema := by
  rw [Join.registry?, Join.registry?, body?_reclaim]
  cases schema.body? Join.graphEnum with
  | none => rfl
  | some body =>
    rw [Option.map_some]
    by_cases here : Join.graphEnum = type
    · rw [if_pos here]
      cases body <;> rfl
    · rw [if_neg here]

/-- While the directives on each field differ by inert ones, the fields are owned alike. -/
theorem ownAlike_reclaim (declared : schema.fieldsOf? type = some fields)
    (edited : ∀ f ∈ fields.entries, ∀ old, f.2.applied? = some old →
      Relation.ReflTransGen Join.InertEdit old (applied f.1)) :
    schema.OwnAlike (schema.reclaim type applied) type := by
  refine ⟨(appliedTo?_reclaim type).symm, ⟨fields, _, declared, fieldsOf?_reclaim declared, ?_⟩,
    fun _ _ _ _ name _ => (baseKind_reclaim name).symm⟩
  rw [Table.mapValues, List.forall₂_map_right_iff]
  refine List.forall₂_same.2 fun f member => ⟨rfl, rfl, Option.isSome_map.symm, ?_⟩
  change _ = Join.readOwner? ((f.2.applied?.map fun _ => applied f.1).getD [])
  cases found : f.2.applied? with
  | none => rfl
  | some old => exact Join.readOwner?_eq_of_inertEdits (edited f member old found)

end Schema

/-- The federation with the given directives on each field of an object type. -/
def Federation.reclaim (fed : Federation) (type : String)
    (applied : String → List Sdl.Application) : Federation :=
  { fed with schema := fed.schema.reclaim type applied }

/-! ### Planning -/

/-- Putting inert directives on the fields of a type and taking them away leaves the registry as it
is. The type is planned as before, or fails with the same error, and the same warnings are added.
Nothing is asked of the graphs that external claims name. -/
theorem inert_claims_leave_plans (p q : Planner) (type : String) (fields : Table Schema.Field)
    (applied : String → List Sdl.Application)
    (declared : p.fed.schema.fieldsOf? type = some fields)
    (edited : ∀ f ∈ fields.entries, ∀ old, f.2.applied? = some old →
      Relation.ReflTransGen Join.InertEdit old (applied f.1))
    (reclaimed : q.fed = p.fed.reclaim type applied) :
    ((Federation.ofSchema p.fed.schema).result = .ok p.fed →
      (Federation.ofSchema q.fed.schema).result = .ok q.fed) ∧
    (p.planEntity type).1 = (q.planEntity type).1 ∧
    ∃ told, (p.planEntity type).2.warnings = p.warnings ++ told ∧
      (q.planEntity type).2.warnings = q.warnings ++ told := by
  have same : p.fed.planEntity type = q.fed.planEntity type := by
    rw [reclaimed]
    exact Federation.planEntity_eq_of_ownAlike (fun _ => rfl)
      (Schema.ownAlike_reclaim declared edited)
  refine ⟨fun read => ?_, congrArg Traced.result same, _, rfl, ?_⟩
  · rw [reclaimed]
    exact Federation.result_ofSchema_of_registry Schema.registry?_reclaim read
  · exact congrArg (fun step : Traced EntityPlan => q.warnings ++ step.warnings) same.symm

/-- A claim of a graph that knows a field and does not resolve it. -/
def externalClaim (graph : String) : Sdl.Application :=
  ⟨"join__field", [("graph", .enum graph), ("external", .bool true)]⟩

theorem isInert_externalClaim (graph : String) : Join.IsInert (externalClaim graph) where
  named := rfl
  fits := ⟨by rintro _ ⟨⟩; exact .inr rfl, by rintro _ ⟨⟩; exact .inr rfl⟩
  silent := .inl rfl

/-- The claims on the products of the store, and an external one of the warehouse on each field: on
the reviews after their owner, on the others first. -/
def warehouseClaims (name : String) : List Sdl.Application :=
  if name = "inStock" then
    [externalClaim "WAREHOUSE", ⟨"join__field", [("graph", .enum "INVENTORY")]⟩]
  else if name = "reviews" then
    [⟨"join__field", [("graph", .enum "REVIEWS")]⟩, externalClaim "WAREHOUSE"]
  else [externalClaim "WAREHOUSE"]

/-- The products of the store are planned as before, though the warehouse is not registered. -/
theorem storePlanner_ignores_warehouse :
    ∃ q : Planner, q.fed = (storePlanner "inventory" "reviews").fed.reclaim "Product"
        warehouseClaims ∧
      (Federation.ofSchema q.fed.schema).result = .ok q.fed ∧
      ((storePlanner "inventory" "reviews").planEntity "Product").1 =
        (q.planEntity "Product").1 ∧
      (q.planEntity "Product").2.warnings = [unownedWarning "Product" "weight"] := by
  have inert := isInert_externalClaim "WAREHOUSE"
  obtain ⟨read, same, told, warned, warnedToo⟩ :=
    inert_claims_leave_plans (storePlanner "inventory" "reviews")
      (.ofFederation ((storePlanner "inventory" "reviews").fed.reclaim "Product" warehouseClaims))
      "Product" _ warehouseClaims rfl (by
        intro f member old found
        change f ∈ [("upc", _), ("inStock", _), ("reviews", _), ("weight", _)] at member
        simp only [List.mem_cons, List.not_mem_nil, or_false] at member
        obtain rfl | rfl | rfl | rfl := member <;> cases found
        · exact .single (.insert inert [] [])
        · exact .single (.insert inert [] _)
        · exact .single (.insert inert [_] [])
        · exact .single (.insert inert [] [])) rfl
  obtain rfl := warned
  exact ⟨_, rfl, read rfl, same, warnedToo⟩

end Supergraph
