import Supergraph.Proofs.KeyTable
import Supergraph.Proofs.Plannable

/-!
# Routes lead to owners

A root field is forwarded to a graph, and a field of an entity is owned by one. Both graphs are
searched for among the same claims, but by different rules: routing takes the first claim that names
a graph, and ownership passes over external claims and asks for the only claim on the type. Where no
claim on the field is external, routing goes to the owner if there is one, and refuses the owner in
the same words if it is not registered. It may still find a graph where ownership finds none.

## Main definitions

* `Join.firstGraph?` — the graph that the claims on a field, or else those on its type, name first

## Main results

* `Join.firstGraph?_of_ownerOf?`, `Join.ownerOf?_of_firstGraph?` — the two searches compared
* `Federation.clientOf?_eq_ok_iff`, `Federation.resolvedOwner?_eq_undeclared_iff` — what routing
  finds, and when an owner is refused
* `root_routing_follows_ownership` — routing and ownership of a field without external claims
-/

namespace Supergraph

/-! ### The two searches -/

namespace Join

variable {fieldClaims : List FieldClaim} {typeClaims : List TypeClaim} {graph : String}

/-- The graph that the claims on a field name first, or else the one that the claims on its type do.
-/
def firstGraph? (fieldClaims : List FieldClaim) (typeClaims : List TypeClaim) : Option String :=
  (fieldClaims.findSome? FieldClaim.graph).or (typeClaims.findSome? TypeClaim.graph)

/-- While no claim is external, ownership takes the first graph as well. -/
theorem ownerOfFieldClaims?_eq_findSome?
    (internal : ∀ claim ∈ fieldClaims, claim.external = false) :
    ownerOfFieldClaims? fieldClaims = fieldClaims.findSome? FieldClaim.graph := by
  induction fieldClaims with
  | nil => rfl
  | cons claim rest ih =>
    obtain ⟨own, others⟩ := List.forall_mem_cons.1 internal
    rw [ownerOfFieldClaims?, List.findSome?_cons, own, ih others]
    cases claim.graph <;> rfl

/-- External claims are passed over, so that ownership finds nothing where no graph is named. -/
theorem ownerOfFieldClaims?_eq_none (unnamed : fieldClaims.findSome? FieldClaim.graph = none) :
    ownerOfFieldClaims? fieldClaims = none := by
  induction fieldClaims with
  | nil => rfl
  | cons claim rest ih =>
    rw [List.findSome?_eq_none_iff, List.forall_mem_cons] at unnamed
    rw [ownerOfFieldClaims?, unnamed.1, ih (List.findSome?_eq_none_iff.2 unnamed.2)]

/-- The graph of the only claim is the first one. -/
theorem findSome?_of_ownerOfTypeClaims? (owned : ownerOfTypeClaims? typeClaims = some graph) :
    typeClaims.findSome? TypeClaim.graph = some graph := by
  match typeClaims with
  | [] | _ :: _ :: _ => cases owned
  | [claim] => rwa [List.findSome?_singleton]

/-- While no claim on the field is external, an owner is the graph that is named first. -/
theorem firstGraph?_of_ownerOf? (internal : ∀ claim ∈ fieldClaims, claim.external = false)
    (owned : ownerOf? fieldClaims typeClaims = some graph) :
    firstGraph? fieldClaims typeClaims = some graph := by
  rw [ownerOf?, ownerOfFieldClaims?_eq_findSome? internal, Option.or_eq_some_iff] at owned
  rw [firstGraph?, Option.or_eq_some_iff]
  exact owned.imp_right (And.imp_right findSome?_of_ownerOfTypeClaims?)

/-- Where no graph is named at all, nobody owns the field. -/
theorem ownerOf?_of_firstGraph? (unnamed : firstGraph? fieldClaims typeClaims = none) :
    ownerOf? fieldClaims typeClaims = none := by
  obtain ⟨onField, onType⟩ := Option.or_eq_none_iff.1 unnamed
  refine Option.or_eq_none_iff.2 ⟨ownerOfFieldClaims?_eq_none onField, ?_⟩
  refine Option.eq_none_iff_forall_ne_some.2 fun graph owned => ?_
  rw [findSome?_of_ownerOfTypeClaims? owned] at onType
  cases onType

end Join

namespace Federation

variable {fed : Federation} {type name graph place : String} {fieldClaims : List Join.FieldClaim}
  {typeClaims : List Join.TypeClaim} {client : Option String}

/-! ### Routing -/

/-- Routing reads the claims on the type only when those on the field name no graph. -/
theorem clientOf?_eq_ok_iff :
    fed.clientOf? type name = .ok client ↔ ∃ fieldClaims,
      fed.fieldClaims type name = .ok fieldClaims ∧
      ((∃ graph, fieldClaims.findSome? Join.FieldClaim.graph = some graph ∧ client = some graph) ∨
        fieldClaims.findSome? Join.FieldClaim.graph = none ∧ ∃ typeClaims,
          fed.typeClaims type = .ok typeClaims ∧
            client = typeClaims.findSome? Join.TypeClaim.graph) := by
  rw [clientOf?, bind_except_eq_ok_iff]
  refine exists_congr fun fieldClaims => and_congr_right fun _ => ?_
  cases fieldClaims.findSome? Join.FieldClaim.graph with
  | some graph => simp [pure, Except.pure, eq_comm]
  | none =>
    simp only [bind_except_eq_ok_iff, reduceCtorEq, false_and, exists_false, true_and, false_or]
    simp only [pure, Except.pure, Except.ok.injEq, eq_comm]

/-- With all claims read, routing finds the graph that is named first. -/
theorem clientOf?_eq (read : fed.fieldClaims type name = .ok fieldClaims)
    (claimed : fed.typeClaims type = .ok typeClaims) :
    fed.clientOf? type name = .ok (Join.firstGraph? fieldClaims typeClaims) := by
  refine clientOf?_eq_ok_iff.2 ⟨fieldClaims, read, ?_⟩
  rw [Join.firstGraph?]
  cases fieldClaims.findSome? Join.FieldClaim.graph with
  | some graph => exact .inl ⟨graph, rfl, rfl⟩
  | none => exact .inr ⟨rfl, typeClaims, claimed, rfl⟩

theorem clientOf?_ne_noClient {field : String} :
    fed.clientOf? type name ≠ .error (.noClient field) := by
  -- Reading claims fails in other words.
  intro failed
  rcases bind_except_eq_error_iff.1 failed with unread | ⟨fieldClaims, _, failed⟩
  · obtain ⟨_, _, same⟩ := mapError_eq_error_iff.1 unread
    cases same
  · cases named : fieldClaims.findSome? Join.FieldClaim.graph with
    | some graph =>
      rw [named] at failed
      cases failed
    | none =>
      rw [named] at failed
      rcases bind_except_eq_error_iff.1 failed with unread | ⟨_, _, last⟩
      · obtain ⟨_, _, same⟩ := mapError_eq_error_iff.1 unread
        cases same
      · cases last

/-- Routing names no client exactly when the claims are read and none of them names a graph. -/
theorem clientOf_eq_noClient_iff {field : String} :
    fed.clientOf type name = .error (.noClient field) ↔
      field = name ∧ fed.clientOf? type name = .ok none := by
  rw [clientOf, bind_except_eq_error_iff]
  constructor
  · rintro (failed | ⟨client, found, failed⟩)
    · exact absurd failed clientOf?_ne_noClient
    · cases client with
      | none =>
        cases failed
        exact ⟨rfl, found⟩
      | some graph =>
        rcases bind_except_eq_error_iff.1 failed with refused | ⟨_, _, last⟩
        · obtain ⟨_, same⟩ := requireSubgraph_eq_error_iff.1 refused
          cases same
        · cases last
  · rintro ⟨rfl, found⟩
    exact .inr ⟨none, found, rfl⟩

/-- Routing refuses a graph that is found and not registered. -/
theorem clientOf_eq_undeclared (found : fed.clientOf? type name = .ok (some graph))
    (absent : graph ∉ fed.subgraphs.keys) :
    fed.clientOf type name = .error (.undeclaredGraph s!"{type}.{name}" graph) := by
  refine bind_except_eq_error_iff.2 (.inr ⟨some graph, found, ?_⟩)
  exact bind_except_eq_error_iff.2 (.inl (requireSubgraph_eq_error_iff.2 ⟨absent, rfl⟩))

/-! ### Ownership -/

theorem resolvedOwner?_eq_ok_iff {owner : Option String} :
    fed.resolvedOwner? type name = .ok owner ↔ ∃ typeClaims fieldClaims,
      fed.typeClaims type = .ok typeClaims ∧ fed.fieldClaims type name = .ok fieldClaims ∧
        owner = Join.ownerOf? fieldClaims typeClaims ∧
          ∀ graph ∈ owner, graph ∈ fed.subgraphs.keys := by
  simp only [resolvedOwner?, bind_except_eq_ok_iff, ownerOf?_eq_ok_iff, exists_and_left]

/-- An owner is refused when the claims are read and yield a graph that is not registered. -/
theorem resolvedOwner?_eq_undeclared_iff :
    fed.resolvedOwner? type name = .error (.undeclaredGraph place graph) ↔
      ∃ typeClaims fieldClaims,
        fed.typeClaims type = .ok typeClaims ∧ fed.fieldClaims type name = .ok fieldClaims ∧
          Join.ownerOf? fieldClaims typeClaims = some graph ∧ graph ∉ fed.subgraphs.keys ∧
            place = s!"{type}.{name}" := by
  constructor
  · intro failed
    rcases bind_except_eq_error_iff.1 failed with unread | ⟨typeClaims, claimed, failed⟩
    · obtain ⟨_, _, same⟩ := mapError_eq_error_iff.1 unread
      cases same
    · rcases bind_except_eq_error_iff.1 failed with unread | ⟨fieldClaims, read, failed⟩
      · obtain ⟨_, _, same⟩ := mapError_eq_error_iff.1 unread
        cases same
      · cases owned : Join.ownerOf? fieldClaims typeClaims with
        | none =>
          rw [owned] at failed
          cases failed
        | some owner =>
          rw [owned] at failed
          rcases bind_except_eq_error_iff.1 failed with refused | ⟨_, _, last⟩
          · obtain ⟨absent, same⟩ := requireSubgraph_eq_error_iff.1 refused
            cases same
            exact ⟨typeClaims, fieldClaims, claimed, read, owned, absent, rfl⟩
          · cases last
  · rintro ⟨typeClaims, fieldClaims, claimed, read, owned, absent, rfl⟩
    refine bind_except_eq_error_iff.2 (.inr ⟨typeClaims, claimed, ?_⟩)
    refine bind_except_eq_error_iff.2 (.inr ⟨fieldClaims, read, ?_⟩)
    rw [owned]
    exact bind_except_eq_error_iff.2 (.inl (requireSubgraph_eq_error_iff.2 ⟨absent, rfl⟩))

/-- The claims on a field of an object type are external when their directives say so. -/
theorem internal_of_fieldClaims {fields : Table Schema.Field} {field : Schema.Field}
    (declared : fed.schema.fieldsOf? type = some fields) (found : fields.get? name = some field)
    (internal : ∀ a ∈ field.claims, Join.truthValue a "external" = false)
    (read : fed.fieldClaims type name = .ok fieldClaims) :
    ∀ claim ∈ fieldClaims, claim.external = false := by
  obtain ⟨_, rfl⟩ := (fieldClaims_eq_ok_iff (fieldsOf_eq_ok_iff.2 declared)
    (Table.get?_eq_some_iff.1 found)).1 read
  exact List.forall_mem_map.2 internal

end Federation

/-! ### Routing and ownership -/

/-- A field that no claim calls external is forwarded to its owner if it has one. An owner that is
not registered is refused by both in the same words, and where routing knows no client nobody owns
the field. Claims with arguments of the wrong kinds are refused by both, so that nothing needs to be
asked of the arguments. -/
theorem root_routing_follows_ownership (fed : Federation) (type name : String)
    (fields : Table Schema.Field) (field : Schema.Field)
    (declared : fed.schema.fieldsOf? type = some fields) (found : fields.get? name = some field)
    (internal : ∀ a ∈ field.claims, Join.truthValue a "external" = false) :
    (∀ graph, fed.resolvedOwner? type name = .ok (some graph) →
      fed.clientOf type name = .ok graph) ∧
    (∀ place graph, fed.resolvedOwner? type name = .error (.undeclaredGraph place graph) →
      fed.clientOf type name = .error (.undeclaredGraph place graph)) ∧
    ∀ asked, fed.clientOf type name = .error (.noClient asked) →
      fed.resolvedOwner? type name = .ok none := by
  -- Whatever ownership yields is what routing finds, whether it is registered or not.
  have client : ∀ {typeClaims fieldClaims graph}, fed.typeClaims type = .ok typeClaims →
      fed.fieldClaims type name = .ok fieldClaims →
      Join.ownerOf? fieldClaims typeClaims = some graph →
        fed.clientOf? type name = .ok (some graph) := by
    intro typeClaims fieldClaims graph claimed read owned
    have passed := Federation.internal_of_fieldClaims declared found internal read
    rw [Federation.clientOf?_eq read claimed, Join.firstGraph?_of_ownerOf? passed owned]
  refine ⟨fun graph resolved => ?owned, fun place graph resolved => ?refused,
    fun asked failed => ?unnamed⟩
  case owned =>
    obtain ⟨_, _, claimed, read, owned, registered⟩ :=
      Federation.resolvedOwner?_eq_ok_iff.1 resolved
    exact Federation.clientOf_eq_ok_iff.2 ⟨client claimed read owned.symm, registered graph rfl⟩
  case refused =>
    obtain ⟨_, _, claimed, read, owned, absent, rfl⟩ :=
      Federation.resolvedOwner?_eq_undeclared_iff.1 resolved
    exact Federation.clientOf_eq_undeclared (client claimed read owned) absent
  case unnamed =>
    obtain ⟨fieldClaims, read, ⟨_, _, named⟩ | ⟨onField, typeClaims, claimed, onType⟩⟩ :=
      Federation.clientOf?_eq_ok_iff.1 (Federation.clientOf_eq_noClient_iff.1 failed).2
    · cases named
    · have unnamed := Option.or_eq_none_iff.2 ⟨onField, onType.symm⟩
      exact Federation.resolvedOwner?_eq_ok_iff.2 ⟨typeClaims, fieldClaims, claimed, read,
        (Join.ownerOf?_of_firstGraph? unnamed).symm, by simp⟩

/-- The stock of a product is forwarded to its owner, and refused with the owner when no graph is
registered. -/
theorem storeSchema_routes_stock :
    (storePlanner "inventory" "reviews").fed.clientOf "Product" "inStock" = .ok "INVENTORY" ∧
      Federation.clientOf ⟨storeSchema "inventory" "reviews", .empty⟩ "Product" "inStock" =
        .error (.undeclaredGraph "Product.inStock" "INVENTORY") := by
  obtain ⟨owned, _, _⟩ := root_routing_follows_ownership (storePlanner "inventory" "reviews").fed
    "Product" "inStock" _ (claimedField (.named "Boolean") ["INVENTORY"]) rfl rfl (by decide)
  obtain ⟨_, refused, _⟩ :=
    root_routing_follows_ownership ⟨storeSchema "inventory" "reviews", .empty⟩ "Product" "inStock" _
      (claimedField (.named "Boolean") ["INVENTORY"]) rfl rfl (by decide)
  exact ⟨owned "INVENTORY" rfl, refused "Product.inStock" "INVENTORY" rfl⟩

/-- Nobody owns the code of a product, which two graphs know, and yet routing finds the first. -/
example : (storePlanner "inventory" "reviews").fed.resolvedOwner? "Product" "upc" = .ok none ∧
    (storePlanner "inventory" "reviews").fed.clientOf "Product" "upc" = .ok "INVENTORY" :=
  ⟨rfl, rfl⟩

end Supergraph
