import Supergraph.Plan.Planner
import Supergraph.Proofs.Conservation

/-!
# What a planner has been asked before

A planner keeps nothing but warnings, and making a whole plan begins by forgetting them. So a whole
plan does not depend on what has been asked before, whether that succeeded or failed. All other
requests add to the warnings. When not all entities can be planned, the first one that cannot
decides the failure, and the warnings are those of the entities and fields before.

## Main definitions

* `Request`, `Planner.asked` — what a planner is asked, and the planner after a history of requests
* `Federation.EntityStops` — where planning an entity stops, and what it has warned of by then

## Main results

* `Federation.warnings_compile` — the warnings of a plan are those told while it was made
* `Planner.warnings_prefix_asked` — warnings stay until a whole plan is made
* `Federation.planEntities_stops` — where planning all entities stops
* `planner_forgets_history` — what holds after every history
-/

namespace Supergraph

/-- What a planner may be asked. -/
inductive Request where
  | entity (type : String)
  | entities
  | plan
  deriving DecidableEq, Repr

namespace Planner

variable {p : Planner} {request : Request} {history : List Request}

/-- The planner after a request, whether that succeeded or failed. -/
def ask (p : Planner) : Request → Planner
  | .entity type => (p.planEntity type).2
  | .entities => p.planEntities.2
  | .plan => p.compile.2

/-- The planner after a history of requests. -/
def asked (p : Planner) (history : List Request) : Planner :=
  history.foldl ask p

@[simp] theorem fed_ask (p : Planner) (request : Request) : (p.ask request).fed = p.fed := by
  cases request <;> rfl

/-- A planner plans for the same federation all the time. -/
@[simp] theorem fed_asked (p : Planner) (history : List Request) :
    (p.asked history).fed = p.fed := by
  induction history generalizing p with
  | nil => rfl
  | cons request history ih =>
    rw [asked, List.foldl_cons, ← asked, ih, fed_ask]

/-- Making a whole plan depends on the federation alone. -/
theorem compile_eq (p : Planner) : p.compile = (ofFederation p.fed).compile :=
  rfl

/-- All requests but that for a whole plan add to the warnings. -/
theorem warnings_prefix_ask (other : request ≠ .plan) :
    p.warnings <+: (p.ask request).warnings := by
  cases request with
  | entity type => exact List.prefix_append _ _
  | entities => exact List.prefix_append _ _
  | plan => exact absurd rfl other

/-- Warnings stay until a whole plan is made. -/
theorem warnings_prefix_asked (others : ∀ request ∈ history, request ≠ .plan) :
    p.warnings <+: (p.asked history).warnings := by
  induction history generalizing p with
  | nil => exact List.prefix_rfl
  | cons request history ih =>
    obtain ⟨other, others⟩ := List.forall_mem_cons.1 others
    exact (warnings_prefix_ask other).trans (ih others)

end Planner

namespace Federation

/-! ### Warnings of a whole plan -/

theorem warnings_planRoot (fed : Federation) (operation : RootOperation) (type : String) :
    (fed.planRoot operation type).warnings = [] :=
  Traced.warnings_bind_eq_nil rfl fun _ => Traced.warnings_bind_eq_nil rfl fun _ => rfl

theorem warnings_rootFieldsOf (fed : Federation) (operation : RootOperation) :
    (fed.rootFieldsOf operation).warnings = [] := by
  rw [rootFieldsOf]
  split
  · exact fed.warnings_planRoot operation _
  · rfl

/-- Routing warns of nothing. -/
theorem warnings_rootFields (fed : Federation) : fed.rootFields.warnings = [] := by
  rw [rootFields]
  split
  · rfl
  · exact Traced.warnings_bind_eq_nil (fed.warnings_rootFieldsOf .query) fun _ =>
      Traced.warnings_bind_eq_nil (fed.warnings_rootFieldsOf .mutation) fun _ => rfl

theorem warnings_fieldHint (fed : Federation) (type field : String) (isDefined : Bool)
    (ref : TypeRef) : (fed.fieldHint type field isDefined ref).warnings = [] := by
  rw [fieldHint]
  split
  · refine Traced.warnings_bind_eq_nil ?_ fun _ => rfl
    -- What is told of a field without a shape is no warning about a dropped field.
    rw [hintOf]
    split <;> rfl
  · rfl

theorem warnings_declarationOf? (fed : Federation) (name : String) (type : Schema.NamedType) :
    (fed.declarationOf? name type).warnings = [] := by
  rw [declarationOf?]
  split
  case h_5 => exact Traced.warnings_bind_eq_nil (Traced.warnings_mapM_eq_nil
    (fun _ => fed.warnings_fieldHint _ _ _ _) _) fun _ => rfl
  case h_6 => exact Traced.warnings_bind_eq_nil (Traced.warnings_mapM_eq_nil
    (fun _ => fed.warnings_fieldHint _ _ _ _) _) fun _ => rfl
  case h_7 => exact Traced.warnings_bind_eq_nil (Traced.warnings_mapM_eq_nil
    (fun _ => fed.warnings_fieldHint _ _ _ _) _) fun _ => rfl
  all_goals rfl

/-- Reading the declarations warns of nothing. -/
theorem warnings_declarations (fed : Federation) : fed.declarations.warnings = [] :=
  Traced.warnings_bind_eq_nil
    (Traced.warnings_mapM_eq_nil (fun _ => fed.warnings_declarationOf? _ _) _) fun _ => rfl

/-- The warnings of a plan are those told while it was made. -/
theorem warnings_compile {fed : Federation} {plan : Plan} (made : fed.compile.result = .ok plan) :
    fed.compile.warnings = plan.warnings := by
  obtain ⟨entities, rootFields, declarations, planned, routed, declared, rfl⟩ :=
    compile_eq_ok_iff.1 made
  rw [compile, Traced.warnings_bind planned, Traced.warnings_bind routed,
    Traced.warnings_bind declared, warnings_rootFields, warnings_declarations]
  exact List.append_nil _

/-! ### Where planning stops -/

/-- Planning an entity stops with a failure, and by then it has warned of something: of nothing when
its claims, its keys or its fields cannot be read, and otherwise of the fields without owner before
the first field that cannot be planned. -/
inductive EntityStops (fed : Federation) (type : String) (e : Failure) : List Warning → Prop
  | claims (unclaimed : fed.typeClaims type = .error e) : EntityStops fed type e []
  | keys {claims : List Join.TypeClaim} (claimed : fed.typeClaims type = .ok claims)
      (unkeyed : (fed.keysFor type claims).result = .error e) : EntityStops fed type e []
  | fields {claims : List Join.TypeClaim} {keys : Table String}
      (claimed : fed.typeClaims type = .ok claims)
      (keyed : (fed.keysFor type claims).result = .ok keys)
      (undeclared : fed.fieldsOf type = .error e) : EntityStops fed type e []
  | field {claims : List Join.TypeClaim} {keys : Table String} {fields : Table Schema.Field}
      {before after : List (String × Schema.Field)} {f : String × Schema.Field}
      {fates : List Disposition} (claimed : fed.typeClaims type = .ok claims)
      (keyed : (fed.keysFor type claims).result = .ok keys)
      (declared : fed.fieldsOf type = .ok fields) (listed : fields.entries = before ++ f :: after)
      (disposed : fed.AllDisposed type claims keys before fates)
      (failed : fed.disposition type claims keys f.1 f.2 = .error e) :
      EntityStops fed type e ((before.zip fates).flatMap fun (g, fate) => fate.warnings type g.1)

variable {fed : Federation} {type name : String} {claims : List Join.TypeClaim}
  {keys : Table String} {field : Schema.Field} {e : Failure}

/-- Planning a field fails when it is not known what becomes of the field. -/
theorem planField_eq_error_iff :
    (fed.planField type claims keys name field).result = .error e ↔
      fed.disposition type claims keys name field = .error e := by
  rw [planField, Traced.bind_eq_error_iff, Traced.result_check_id_eq_error_iff]
  refine ⟨fun failed => ?_, .inl⟩
  rcases failed with failed | ⟨fate, _, later⟩
  · exact failed
  · cases fate <;> cases later

theorem warnings_planField_of_error
    (failed : fed.disposition type claims keys name field = .error e) :
    (fed.planField type claims keys name field).warnings = [] := by
  rw [planField, Traced.warnings_bind_of_error (Traced.result_check_id_eq_error_iff.2 failed)]
  rfl

/-- It is known what becomes of fields that can be planned. -/
theorem exists_allDisposed {fs : List (String × Schema.Field)}
    (done : ∀ f ∈ fs, ∃ plan, (fed.planField type claims keys f.1 f.2).result = .ok plan) :
    ∃ fates, fed.AllDisposed type claims keys fs fates := by
  refine exists_forall₂_iff.2 fun f member => ?_
  obtain ⟨_, made⟩ := done f member
  obtain ⟨fate, disposed, _⟩ := planField_eq_ok_iff.1 made
  exact ⟨fate, disposed⟩

/-- Where planning an entity stops when it fails. -/
theorem entityStops_of_planEntity (failed : (fed.planEntity type).result = .error e) :
    fed.EntityStops type e (fed.planEntity type).warnings := by
  rw [planEntity] at failed ⊢
  rcases Traced.bind_eq_error_iff.1 failed with here | ⟨claims, claimed, failed⟩
  · rw [Traced.warnings_bind_of_error here]
    exact .claims (Traced.result_check_id_eq_error_iff.1 here)
  rw [Traced.warnings_bind claimed]
  have claimed := Traced.result_check_eq_ok_iff.1 claimed
  rcases Traced.bind_eq_error_iff.1 failed with here | ⟨keys, keyed, failed⟩
  · rw [Traced.warnings_bind_of_error here, warnings_keysFor]
    exact .keys claimed here
  rw [Traced.warnings_bind keyed, warnings_keysFor]
  rcases Traced.bind_eq_error_iff.1 failed with here | ⟨fields, declared, failed⟩
  · rw [Traced.warnings_bind_of_error here]
    exact .fields claimed keyed (Traced.result_check_id_eq_error_iff.1 here)
  rw [Traced.warnings_bind declared]
  have declared := Traced.result_check_eq_ok_iff.1 declared
  rcases Traced.bind_eq_error_iff.1 failed with here | ⟨plans, _, later⟩
  · obtain ⟨before, f, after, listed, done, stopped⟩ := Traced.exists_first_error here
    have failed := planField_eq_error_iff.1 stopped
    obtain ⟨fates, disposed⟩ := exists_allDisposed done
    have told := flatMap_warnings_planField disposed
    rw [Traced.warnings_bind_of_error here, listed,
      Traced.warnings_mapM_of_first_error done stopped, warnings_planField_of_error failed,
      List.append_nil, told]
    exact .field claimed keyed declared listed disposed failed
  · -- Nothing fails after the fields.
    cases later

/-- When not all entities can be planned, the first that cannot decides the failure, and nothing
has been warned of but those before it and what it has warned of itself. -/
theorem planEntities_stops (failed : fed.planEntities.result = .error e) :
    ∃ before type after told, fed.entities = before ++ type :: after ∧
      (∀ t ∈ before, ∃ entity, (fed.planEntity t).result = .ok entity) ∧
      (fed.planEntity type).result = .error e ∧ fed.EntityStops type e told ∧
      fed.planEntities.warnings =
        (before.flatMap fun t => (fed.planEntity t).warnings) ++ told := by
  rw [planEntities] at failed ⊢
  rcases Traced.bind_eq_error_iff.1 failed with here | ⟨_, _, later⟩
  · obtain ⟨before, type, after, listed, done, stopped⟩ := Traced.exists_first_error here
    -- An entity and its plan under its name are made or not made together.
    have planned : ∀ t ∈ before, ∃ entity, (fed.planEntity t).result = .ok entity := by
      intro t member
      obtain ⟨entry, made⟩ := done t member
      exact ⟨entry.2, (planNamed_eq_ok_iff.1 made).2⟩
    have unplanned : (fed.planEntity type).result = .error e := by
      rcases Traced.bind_eq_error_iff.1 stopped with here | ⟨_, _, later⟩
      · exact here
      · cases later
    refine ⟨before, type, after, _, listed, planned, unplanned,
      entityStops_of_planEntity unplanned, ?_⟩
    rw [Traced.warnings_bind_of_error here, listed,
      Traced.warnings_mapM_of_first_error done stopped, Traced.warnings_bind_of_error unplanned]
    congr 1
    refine List.flatMap_congr fun t member => ?_
    obtain ⟨entity, made⟩ := planned t member
    rw [Traced.warnings_bind made]
    exact List.append_nil _
  · cases later

end Federation

/-! ### After every history -/

/-- After every history of requests a whole plan is what it is at first, with the same warnings,
and leaves the planner with its warnings; all other requests keep the warnings that there are; and
when not all entities can be planned, the first that cannot decides the failure and the warnings. -/
theorem planner_forgets_history (fed : Federation) (history : List Request) (p : Planner)
    (reached : p = (Planner.ofFederation fed).asked history) :
    (p.compile = (Planner.ofFederation fed).compile ∧
      ∀ plan, p.compile.1 = .ok plan → p.compile.2.warnings = plan.warnings) ∧
    (∀ more, (∀ request ∈ more, request ≠ .plan) → p.warnings <+: (p.asked more).warnings) ∧
    ∀ e, p.planEntities.1 = .error e →
      ∃ before type after told, fed.entities = before ++ type :: after ∧
        (∀ t ∈ before, ∃ entity, (p.planEntity t).1 = .ok entity) ∧
        (p.planEntity type).1 = .error e ∧ fed.EntityStops type e told ∧
        p.planEntities.2.warnings =
          p.warnings ++ ((before.flatMap fun t => (fed.planEntity t).warnings) ++ told) := by
  have same : p.fed = fed := by rw [reached, Planner.fed_asked, Planner.ofFederation]
  refine ⟨⟨?whole, ?warned⟩, fun _ others => Planner.warnings_prefix_asked others, ?stopped⟩
  case whole => rw [Planner.compile_eq, same]
  case warned =>
    intro plan made
    exact Federation.warnings_compile made
  case stopped =>
    intro e failed
    rw [← same]
    obtain ⟨before, type, after, told, listed, planned, unplanned, stops, warned⟩ :=
      Federation.planEntities_stops failed
    exact ⟨before, type, after, told, listed, planned, unplanned, stops,
      congrArg (p.warnings ++ ·) warned⟩

/-- A store in which the reviews are claimed by two subgraphs and the rating by one that is not
registered. Nobody owns the weight of the products and the text of the reviews. -/
def brokenStore : Federation where
  schema := {
    types := Table.ofList
      [("Product", ⟨none, [keyedClaim "INVENTORY" "upc", keyedClaim "REVIEWS" "upc"],
          .object [] (Table.ofList [("weight", claimedField (.named "Int") [])])⟩),
        ("Review", ⟨none, [keyedClaim "INVENTORY" "id", keyedClaim "REVIEWS" "id"],
          .object [] (Table.ofList
            [("text", claimedField (.named "String") []),
              ("rating", claimedField (.named "Int") ["RATINGS"]),
              ("author", claimedField (.named "String") [])])⟩),
        ("String", ⟨none, [], .scalar true⟩), ("Int", ⟨none, [], .scalar true⟩)]
    roots := []
    directives := [] }
  subgraphs := Table.ofList
    [("INVENTORY", ⟨"INVENTORY", "inventory", "http://inventory"⟩),
      ("REVIEWS", ⟨"REVIEWS", "reviews", "http://reviews"⟩)]

/-- After one entity and a whole plan that failed, planning all entities of the broken store stops
at the rating, as it would at first, and adds what it warns of by then. -/
theorem brokenStore_forgets_history :
    ∃ p, p = (Planner.ofFederation brokenStore).asked [.plan, .entity "Product"] ∧
      p.compile = (Planner.ofFederation brokenStore).compile ∧
      p.planEntities.1 = .error (.undeclaredGraph "Review.rating" "RATINGS") ∧
      p.warnings = [unownedWarning "Product" "weight", unownedWarning "Review" "text",
        unownedWarning "Product" "weight"] ∧
      p.warnings <+: p.planEntities.2.warnings ∧
      ∃ before type after told, brokenStore.entities = before ++ type :: after ∧
        (p.planEntity type).1 = .error (.undeclaredGraph "Review.rating" "RATINGS") ∧
        p.planEntities.2.warnings = p.warnings ++
          ((before.flatMap fun t => (brokenStore.planEntity t).warnings) ++ told) := by
  have failed : ((Planner.ofFederation brokenStore).asked
      [.plan, .entity "Product"]).planEntities.1 =
        .error (.undeclaredGraph "Review.rating" "RATINGS") := rfl
  obtain ⟨⟨whole, _⟩, kept, stopped⟩ :=
    planner_forgets_history brokenStore [.plan, .entity "Product"] _ rfl
  obtain ⟨before, type, after, told, listed, _, unplanned, _, warned⟩ := stopped _ failed
  exact ⟨_, rfl, whole, failed, rfl, kept [.entities] (by simp), before, type, after, told, listed,
    unplanned, warned⟩

end Supergraph
