import Supergraph.Proofs.FieldClass
import Supergraph.Proofs.RootFields

/-!
# Which keys and owners are found

A claim on a type yields a key when it names a graph that is registered and comes with a key, or
when the type has an identifier instead. An owner is found when the claims on the field are read and
the graph that they yield, if any, is registered.

## Main definitions

* `Federation.keyPair?` — the graph of a claim with the key for it

## Main results

* `Federation.keysFor_eq_ok_iff`, `Federation.exists_keyPair?_iff` — when keys are found, and which
* `Federation.ownerOf?_eq_ok_iff` — when an owner is found
-/

namespace Supergraph

/-- A field identifies the values of its type when it is defined and has the base type `ID`. -/
def Schema.Field.IsIdentifier (field : Schema.Field) : Prop :=
  field.applied?.isSome ∧ field.type.baseName? = some "ID"

namespace Federation

/-- The fields of an object type in their order, none of another type. -/
def fieldsIn (fed : Federation) (type : String) : List (String × Schema.Field) :=
  ((fed.schema.fieldsOf? type).map Table.entries).getD []

/-- The key field for a claim: the one that the claim names, or else the first identifier. -/
def keyName? (fed : Federation) (type : String) (claim : Join.TypeClaim) : Option String :=
  claim.key.or (firstIdentifier? (fed.fieldsIn type))

/-- The graph of a claim with the key field for it. -/
def keyPair? (fed : Federation) (type : String) (claim : Join.TypeClaim) :
    Option (String × String) :=
  claim.graph.bind fun graph => (fed.keyName? type claim).map fun key => (graph, key)

variable {fed : Federation} {type name : String} {claim : Join.TypeClaim}
  {claims : List Join.TypeClaim} {keys : Table String}

theorem fieldsIn_eq {fields : Table Schema.Field} (declared : fed.fieldsOf type = .ok fields) :
    fed.fieldsIn type = fields.entries := by
  rw [fieldsIn, fieldsOf_eq_ok_iff.1 declared]
  rfl

/-! ### Keys -/

/-- There is a first identifier when there is any. -/
theorem isSome_firstIdentifier?_iff {fs : List (String × Schema.Field)} :
    (firstIdentifier? fs).isSome ↔ ∃ f ∈ fs, f.2.IsIdentifier := by
  induction fs with
  | nil => simp [firstIdentifier?]
  | cons f fs ih =>
    rw [firstIdentifier?, List.exists_mem_cons_iff, ← ih, Schema.Field.IsIdentifier]
    split
    next here => simp_all
    next other => simp_all

theorem keyFor_eq_ok_iff {key : String} :
    (fed.keyFor type claim).result = .ok key ↔ fed.keyName? type claim = some key := by
  rw [keyFor, keyName?]
  cases claim.key with
  | some named => simp
  | none =>
    rw [Traced.bind_eq_ok_iff, Option.none_or, fieldsIn, fieldsOf]
    cases fed.schema.fieldsOf? type with
    | none => simp [Traced.check, Except.mapError, firstIdentifier?]
    | some fields =>
      simp only [Traced.result_check_eq_ok_iff, Except.ok.injEq, exists_eq_left', Option.map_some,
        Option.getD_some]
      cases firstIdentifier? fields.entries with
      | none => simp [Traced.fail]
      | some field =>
        -- What is told of an inferred key does not change it.
        change Except.ok field = Except.ok key ↔ _
        rw [Except.ok.injEq, Option.some.injEq]

theorem claimedKey_eq_ok_iff {entry : String × String} :
    (fed.claimedKey type claim).result = .ok entry ↔
      fed.keyPair? type claim = some entry ∧ entry.1 ∈ fed.subgraphs.keys := by
  obtain ⟨graph, key⟩ := entry
  rw [claimedKey, keyPair?]
  cases claim.graph with
  | none => simp [Traced.fail]
  | some named =>
    simp only [Traced.bind_eq_ok_iff, Traced.result_check_eq_ok_iff, requireSubgraph_eq_ok_iff,
      keyFor_eq_ok_iff, Traced.result_pure, Except.ok.injEq, Prod.mk.injEq, Option.bind_some,
      Option.map_eq_some_iff]
    constructor
    · rintro ⟨s, found, key, keyed, rfl, rfl⟩
      exact ⟨⟨key, keyed, rfl, rfl⟩, Table.mem_keys_of_get? found⟩
    · rintro ⟨⟨key, keyed, rfl, rfl⟩, registered⟩
      obtain ⟨s, found⟩ := Table.exists_get?_of_mem_keys registered
      exact ⟨s, found, key, keyed, rfl, rfl⟩

/-- A claim yields a key in a registered graph when it names such a graph and comes with a key or an
identifier. -/
theorem exists_keyPair?_iff :
    (∃ entry, fed.keyPair? type claim = some entry ∧ entry.1 ∈ fed.subgraphs.keys) ↔
      (∃ graph ∈ fed.subgraphs.keys, claim.graph = some graph) ∧
        (claim.key.isSome ∨ ∃ f ∈ fed.fieldsIn type, f.2.IsIdentifier) := by
  have named : (fed.keyName? type claim).isSome ↔
      claim.key.isSome ∨ ∃ f ∈ fed.fieldsIn type, f.2.IsIdentifier := by
    rw [keyName?, Option.isSome_or, Bool.or_eq_true, isSome_firstIdentifier?_iff]
  rw [← named, keyPair?, Option.isSome_iff_exists]
  cases claim.graph with
  | none => simp
  | some graph =>
    constructor
    · rintro ⟨_, made, registered⟩
      obtain ⟨key, keyed, rfl⟩ := Option.map_eq_some_iff.1 made
      exact ⟨⟨graph, registered, rfl⟩, key, keyed⟩
    · rintro ⟨⟨_, registered, same⟩, key, keyed⟩
      obtain rfl := Option.some.inj same
      exact ⟨_, Option.map_eq_some_iff.2 ⟨key, keyed, rfl⟩, registered⟩

/-- The keys are found when every claim has one in a registered graph. -/
theorem keysFor_eq_ok_iff :
    (fed.keysFor type claims).result = .ok keys ↔
      (∀ claim ∈ claims, ∃ entry, fed.keyPair? type claim = some entry ∧
        entry.1 ∈ fed.subgraphs.keys) ∧
      keys = Table.ofList (claims.filterMap (fed.keyPair? type)) := by
  rw [keysFor, Traced.bind_eq_ok_iff]
  simp only [Traced.mapM_eq_ok_iff, claimedKey_eq_ok_iff, Traced.result_pure, Except.ok.injEq,
    forall₂_filterMap_iff]
  constructor
  · rintro ⟨entries, ⟨each, rfl⟩, rfl⟩
    exact ⟨each, rfl⟩
  · rintro ⟨each, rfl⟩
    exact ⟨_, ⟨each, rfl⟩, rfl⟩

/-! ### Owners -/

/-- An owner is found when the claims are read and the graph they yield, if any, is registered. -/
theorem ownerOf?_eq_ok_iff {owner : Option String} :
    fed.ownerOf? type name claims = .ok owner ↔
      ∃ fieldClaims, fed.fieldClaims type name = .ok fieldClaims ∧
        owner = Join.ownerOf? fieldClaims claims ∧ ∀ graph ∈ owner, graph ∈ fed.subgraphs.keys := by
  rw [ownerOf?, bind_except_eq_ok_iff]
  refine exists_congr fun fieldClaims => and_congr_right fun _ => ?_
  cases Join.ownerOf? fieldClaims claims with
  | none =>
    constructor
    · intro same
      cases same
      simp
    · rintro ⟨rfl, _⟩
      rfl
  | some graph =>
    simp only [bind_except_eq_ok_iff]
    constructor
    · rintro ⟨s, found, last⟩
      cases last
      simpa using mem_keys_of_requireSubgraph found
    · rintro ⟨rfl, registered⟩
      obtain ⟨s, found⟩ := exists_requireSubgraph (registered graph rfl) s!"{type}.{name}"
      exact ⟨s, found, rfl⟩

end Federation

end Supergraph
