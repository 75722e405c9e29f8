import Supergraph.Proofs.Conservation
import Supergraph.Proofs.Keys

/-!
# The keys of a type by graph

The keys of a type are found when every claim on it names a registered graph and comes with a key,
or the type has an identifier. The table lists the graphs in the order in which the claims first
name them, and the key of a graph is that of the last claim for it, whatever the claims before it
say. When a claim yields no key, the error is that of the first such claim.

## Main definitions

* `Federation.YieldsKey` — the claims that yield a key in a registered graph
* `Federation.IsKeyFor` — the key field for a claim
* `Federation.RefusesKey` — why a claim yields no key

## Main results

* `Federation.keyName?_eq_some_iff` — the key that a claim states, or else the first identifier
* `Federation.claimedKey_eq_error_iff` — which error a claim ends with
* `Federation.get?_keyPairs_eq_some_iff` — of the claims for a graph the last counts
* `key_table_of_claims` — when the keys are found, which they are, and which error there is
-/

namespace Supergraph

instance : DecidablePred Schema.Field.IsIdentifier := fun field =>
  inferInstanceAs (Decidable (field.applied?.isSome ∧ field.type.baseName? = some "ID"))

namespace Federation

/-- A claim that names a registered graph, and comes with a key unless the type has an identifier.
-/
structure YieldsKey (fed : Federation) (type : String) (claim : Join.TypeClaim) : Prop where
  registered : ∃ graph ∈ fed.subgraphs.keys, claim.graph = some graph
  keyed : claim.key.isSome ∨ ∃ f ∈ fed.fieldsIn type, f.2.IsIdentifier

/-- The key field for a claim: what the claim says, whatever that is, or else the first identifier
of the type. -/
inductive IsKeyFor (fed : Federation) (type : String) (claim : Join.TypeClaim) : String → Prop
  | stated {key : String} (given : claim.key = some key) : IsKeyFor fed type claim key
  | inferred {before after : List (String × Schema.Field)} {name : String} {field : Schema.Field}
      (silent : claim.key = none) (listed : fed.fieldsIn type = before ++ (name, field) :: after)
      (identifies : field.IsIdentifier) (first : ∀ f ∈ before, ¬f.2.IsIdentifier) :
      IsKeyFor fed type claim name

/-- Why a claim yields no key: it names no graph, or one that is not registered, or it comes without
a key and the type has no identifier. -/
inductive RefusesKey (fed : Federation) (type : String) (claim : Join.TypeClaim) : Failure → Prop
  | graphless (unnamed : claim.graph = none) : RefusesKey fed type claim (.claimWithoutGraph type)
  | undeclared {graph : String} (named : claim.graph = some graph)
      (absent : graph ∉ fed.subgraphs.keys) :
      RefusesKey fed type claim (.undeclaredGraph type graph)
  | keyless {graph : String} (named : claim.graph = some graph)
      (registered : graph ∈ fed.subgraphs.keys) (silent : claim.key = none)
      (anonymous : ∀ f ∈ fed.fieldsIn type, ¬f.2.IsIdentifier) :
      RefusesKey fed type claim (.noKey type (some graph))

variable {fed : Federation} {type graph key : String} {claim : Join.TypeClaim}
  {claims : List Join.TypeClaim} {e : Failure}

/-! ### The key for one claim -/

theorem firstIdentifier?_eq (fs : List (String × Schema.Field)) :
    firstIdentifier? fs = (fs.find? fun f => f.2.IsIdentifier).map Prod.fst := by
  induction fs with
  | nil => rfl
  | cons f fs ih =>
    rw [firstIdentifier?, List.find?_cons, ih]
    by_cases here : f.2.IsIdentifier
    · simp [here, here.1, here.2]
    · simp only [here, decide_false]
      rw [if_neg]
      simpa [Schema.Field.IsIdentifier] using here

theorem firstIdentifier?_eq_some_iff {fs : List (String × Schema.Field)} :
    firstIdentifier? fs = some key ↔ ∃ before field after, fs = before ++ (key, field) :: after ∧
      field.IsIdentifier ∧ ∀ f ∈ before, ¬f.2.IsIdentifier := by
  simp only [firstIdentifier?_eq, Option.map_eq_some_iff, List.find?_eq_some_iff_append,
    decide_eq_true_eq, Bool.not_eq_true', decide_eq_false_iff_not]
  constructor
  · rintro ⟨⟨name, field⟩, ⟨identifies, before, after, listed, first⟩, rfl⟩
    exact ⟨before, field, after, listed, identifies, first⟩
  · rintro ⟨before, field, after, listed, identifies, first⟩
    exact ⟨(key, field), ⟨identifies, before, after, listed, first⟩, rfl⟩

theorem keyName?_eq_some_iff :
    fed.keyName? type claim = some key ↔ fed.IsKeyFor type claim key := by
  rw [keyName?]
  cases stated : claim.key with
  | some name =>
    rw [Option.some_or, Option.some.injEq]
    constructor
    · rintro rfl
      exact .stated stated
    · rintro (given | silent)
      · exact Option.some.inj (stated.symm.trans given)
      · rw [stated] at silent
        cases silent
  | none =>
    rw [Option.none_or, firstIdentifier?_eq_some_iff]
    constructor
    · rintro ⟨before, field, after, listed, identifies, first⟩
      exact .inferred stated listed identifies first
    · rintro (given | ⟨_, listed, identifies, first⟩)
      · rw [stated] at given
        cases given
      · exact ⟨_, _, _, listed, identifies, first⟩

theorem exists_claimedKey_iff :
    (∃ entry, (fed.claimedKey type claim).result = .ok entry) ↔ fed.YieldsKey type claim := by
  simp only [claimedKey_eq_ok_iff, exists_keyPair?_iff]
  exact ⟨fun ⟨registered, keyed⟩ => ⟨registered, keyed⟩, fun yields => ⟨yields.1, yields.2⟩⟩

theorem requireSubgraph_eq_error_iff {place : String} :
    fed.requireSubgraph graph place = .error e ↔
      graph ∉ fed.subgraphs.keys ∧ e = .undeclaredGraph place graph := by
  rw [requireSubgraph, ← Table.get?_eq_none_iff]
  cases fed.subgraphs.get? graph <;> simp [eq_comm]

theorem keyFor_eq_error_iff (object : (fed.schema.fieldsOf? type).isSome) :
    (fed.keyFor type claim).result = .error e ↔ claim.key = none ∧
      (∀ f ∈ fed.fieldsIn type, ¬f.2.IsIdentifier) ∧ e = .noKey type claim.graph := by
  obtain ⟨fields, found⟩ := Option.isSome_iff_exists.1 object
  have declared := fieldsOf_eq_ok_iff.2 found
  rw [keyFor]
  cases claim.key with
  | some key => simp
  | none =>
    have none_iff : firstIdentifier? fields.entries = none ↔
        ∀ f ∈ fed.fieldsIn type, ¬f.2.IsIdentifier := by
      rw [← Option.not_isSome_iff_eq_none, isSome_firstIdentifier?_iff, fieldsIn_eq declared]
      simp
    rw [← none_iff, Traced.bind_eq_error_iff, Traced.result_check_id_eq_error_iff, declared]
    simp only [Traced.result_check_eq_ok_iff, Except.ok.injEq, exists_eq_left', reduceCtorEq,
      false_or, true_and]
    cases firstIdentifier? fields.entries with
    | none => simp [Traced.fail, eq_comm]
    | some field =>
      -- Telling of an inferred key is no failure.
      refine iff_of_false (fun failed => ?_) (by simp)
      rcases Traced.bind_eq_error_iff.1 failed with told | ⟨_, _, last⟩
      · cases told
      · cases last

/-- A claim on an object type ends with an error when it yields no key. -/
theorem claimedKey_eq_error_iff (object : (fed.schema.fieldsOf? type).isSome) :
    (fed.claimedKey type claim).result = .error e ↔ fed.RefusesKey type claim e := by
  rw [claimedKey]
  cases named : claim.graph with
  | none =>
    constructor
    · intro failed
      cases failed
      exact .graphless named
    · rintro (unnamed | ⟨other, _⟩ | ⟨other, _⟩)
      · rfl
      · cases named.symm.trans other
      · cases named.symm.trans other
  | some graph =>
    constructor
    · intro failed
      rcases Traced.bind_eq_error_iff.1 failed with missing | ⟨s, found, failed⟩
      · obtain ⟨absent, rfl⟩ :=
          requireSubgraph_eq_error_iff.1 (Traced.result_check_id_eq_error_iff.1 missing)
        exact .undeclared named absent
      · rcases Traced.bind_eq_error_iff.1 failed with keyless | ⟨_, _, last⟩
        · obtain ⟨silent, anonymous, rfl⟩ := (keyFor_eq_error_iff object).1 keyless
          have registered : graph ∈ fed.subgraphs.keys :=
            mem_keys_of_requireSubgraph (Traced.result_check_eq_ok_iff.1 found)
          rw [named]
          exact .keyless named registered silent anonymous
        · cases last
    · rintro (unnamed | ⟨other, absent⟩ | ⟨other, registered, silent, anonymous⟩)
      · cases named.symm.trans unnamed
      · obtain rfl := Option.some.inj (named.symm.trans other)
        refine Traced.bind_eq_error_iff.2 (.inl ?_)
        exact Traced.result_check_id_eq_error_iff.2 (requireSubgraph_eq_error_iff.2 ⟨absent, rfl⟩)
      · obtain rfl := Option.some.inj (named.symm.trans other)
        obtain ⟨s, found⟩ := exists_requireSubgraph registered type
        refine Traced.bind_eq_error_iff.2 (.inr ⟨s, Traced.result_check_eq_ok_iff.2 found, ?_⟩)
        refine Traced.bind_eq_error_iff.2 (.inl ((keyFor_eq_error_iff object).2 ⟨silent, ?_⟩))
        exact ⟨anonymous, by rw [named]⟩

/-! ### The keys for all claims -/

theorem exists_keysFor_iff :
    (∃ keys, (fed.keysFor type claims).result = .ok keys) ↔
      ∀ claim ∈ claims, fed.YieldsKey type claim := by
  simp only [keysFor_eq_ok_iff, exists_and_left, exists_eq, and_true, ← exists_claimedKey_iff,
    claimedKey_eq_ok_iff]

theorem keysFor_eq_error_iff (object : (fed.schema.fieldsOf? type).isSome) :
    (fed.keysFor type claims).result = .error e ↔
      ∃ before claim after, claims = before ++ claim :: after ∧
        (∀ c ∈ before, fed.YieldsKey type c) ∧ fed.RefusesKey type claim e := by
  simp only [keysFor, Traced.bind_eq_error_iff, Traced.result_pure, reduceCtorEq, and_false,
    exists_false, or_false, Traced.mapM_eq_error_iff, exists_claimedKey_iff,
    claimedKey_eq_error_iff object]

theorem graph_of_keyPair? {entry : String × String}
    (yields : fed.keyPair? type claim = some entry) : claim.graph = some entry.1 := by
  obtain ⟨graph, named, keyed⟩ := Option.bind_eq_some_iff.1 yields
  obtain ⟨_, _, rfl⟩ := Option.map_eq_some_iff.1 keyed
  exact named

theorem keyName?_of_keyPair? (yields : fed.keyPair? type claim = some (graph, key)) :
    fed.keyName? type claim = some key := by
  obtain ⟨_, _, keyed⟩ := Option.bind_eq_some_iff.1 yields
  obtain ⟨_, named, same⟩ := Option.map_eq_some_iff.1 keyed
  cases same
  exact named

theorem map_fst_keyPairs (each : ∀ claim ∈ claims, ∃ entry, fed.keyPair? type claim = some entry) :
    (claims.filterMap (fed.keyPair? type)).map Prod.fst =
      claims.filterMap Join.TypeClaim.graph := by
  rw [List.map_filterMap]
  refine List.filterMap_congr fun claim member => ?_
  obtain ⟨entry, yields⟩ := each claim member
  rw [yields, graph_of_keyPair? yields, Option.map_some]

/-- Of the claims for a graph the last counts. -/
theorem get?_keyPairs_eq_some_iff
    (each : ∀ claim ∈ claims, ∃ entry, fed.keyPair? type claim = some entry) :
    (Table.ofList (claims.filterMap (fed.keyPair? type))).get? graph = some key ↔
      ∃ before claim after, claims = before ++ claim :: after ∧ claim.graph = some graph ∧
        (∀ c ∈ after, c.graph ≠ some graph) ∧ fed.IsKeyFor type claim key := by
  -- The claims yield the entries one by one, so that the last entry for a graph is that of the last
  -- claim for it.
  rw [Table.get?_ofList_eq_some_iff]
  constructor
  · rintro ⟨firsts, lasts, listed, fresh⟩
    obtain ⟨before, rest, rfl, _, others⟩ := List.filterMap_eq_append_iff.1 listed
    obtain ⟨skipped, claim, after, rfl, _, yields, rfl⟩ := List.filterMap_eq_cons_iff.1 others
    refine ⟨before ++ skipped, claim, after, by simp, graph_of_keyPair? yields, ?_, ?_⟩
    · intro c member named
      obtain ⟨entry, yieldsToo⟩ := each c (by simp [member])
      refine fresh entry (List.mem_filterMap.2 ⟨c, member, yieldsToo⟩) ?_
      exact Option.some.inj (named.symm.trans (graph_of_keyPair? yieldsToo))
    · exact keyName?_eq_some_iff.1 (keyName?_of_keyPair? yields)
  · rintro ⟨before, claim, after, rfl, named, last, keyed⟩
    have yields : fed.keyPair? type claim = some (graph, key) := by
      rw [keyPair?, named, Option.bind_some, keyName?_eq_some_iff.2 keyed, Option.map_some]
    refine ⟨before.filterMap (fed.keyPair? type), after.filterMap (fed.keyPair? type), ?_, ?_⟩
    · rw [List.filterMap_append, List.filterMap_cons_some yields]
    · rintro entry member rfl
      obtain ⟨c, among, yieldsToo⟩ := List.mem_filterMap.1 member
      exact last c among (graph_of_keyPair? yieldsToo)

end Federation

/-- The keys of an object type are found exactly when every claim names a registered graph, and
comes with a key unless the type has an identifier. The graphs then stand in the order in which they
are first named, and each has the key for the last claim that names it. Otherwise there is the error
of the first claim that yields no key. -/
theorem key_table_of_claims (fed : Federation) (type : String) (claims : List Join.TypeClaim)
    (object : (fed.schema.fieldsOf? type).isSome) :
    ((∃ keys, (fed.keysFor type claims).result = .ok keys) ↔
        ∀ claim ∈ claims, fed.YieldsKey type claim) ∧
      (∀ keys, (fed.keysFor type claims).result = .ok keys →
        keys.keys = (claims.filterMap Join.TypeClaim.graph).eraseDups ∧
        ∀ graph key, keys.get? graph = some key ↔
          ∃ before claim after, claims = before ++ claim :: after ∧ claim.graph = some graph ∧
            (∀ c ∈ after, c.graph ≠ some graph) ∧ fed.IsKeyFor type claim key) ∧
      ∀ e, (fed.keysFor type claims).result = .error e ↔
        ∃ before claim after, claims = before ++ claim :: after ∧
          (∀ c ∈ before, fed.YieldsKey type c) ∧ fed.RefusesKey type claim e := by
  refine ⟨Federation.exists_keysFor_iff, ?found, fun e => Federation.keysFor_eq_error_iff object⟩
  case found =>
    intro keys made
    obtain ⟨each, rfl⟩ := Federation.keysFor_eq_ok_iff.1 made
    have yields : ∀ claim ∈ claims, ∃ entry, fed.keyPair? type claim = some entry := by
      intro claim member
      obtain ⟨entry, yields, _⟩ := each claim member
      exact ⟨entry, yields⟩
    refine ⟨?_, fun graph key => Federation.get?_keyPairs_eq_some_iff yields⟩
    rw [Table.keys_ofList, Federation.map_fst_keyPairs yields]

/-- Items of a shop. The first field of the base type `ID` has no definition, and the second is a
list of lists. -/
def itemFederation : Federation where
  schema := {
    types := Table.ofList
      [("Item", ⟨none, [], .object [] (Table.ofList
          [("title", claimedField (.named "String") []),
            ("code", ⟨.named "ID", .empty, none, none⟩),
            ("marks", claimedField (.list (.list (.nonNull (.named "ID")))) []),
            ("number", claimedField (.named "ID") [])])⟩)]
    roots := []
    directives := [] }
  subgraphs := Table.ofList
    [("CATALOG", ⟨"CATALOG", "catalog", "http://catalog"⟩),
      ("PRICING", ⟨"PRICING", "pricing", "http://pricing"⟩)]

/-- The later claim of the catalog counts, although its key is empty, and keeps the place of the
first. The marks are the key for the prices. A claim without a graph is not looked at after one for
a graph that is not registered. -/
theorem itemFederation_key_table :
    (∃ keys, (itemFederation.keysFor "Item" [⟨some "CATALOG", some "number"⟩,
        ⟨some "PRICING", none⟩, ⟨some "CATALOG", some ""⟩]).result = .ok keys ∧
      keys.keys = ["CATALOG", "PRICING"] ∧ keys.get? "CATALOG" = some "" ∧
      keys.get? "PRICING" = some "marks") ∧
    (itemFederation.keysFor "Item" [⟨some "PRICING", none⟩, ⟨some "SHIPPING", none⟩,
      ⟨none, some "number"⟩]).result = .error (.undeclaredGraph "Item" "SHIPPING") := by
  constructor
  · obtain ⟨_, found, _⟩ := key_table_of_claims itemFederation "Item"
      [⟨some "CATALOG", some "number"⟩, ⟨some "PRICING", none⟩, ⟨some "CATALOG", some ""⟩] rfl
    obtain ⟨graphs, keyed⟩ := found _ rfl
    refine ⟨_, rfl, graphs, (keyed _ _).2 ?_, (keyed _ _).2 ?_⟩
    · exact ⟨[_, _], _, [], rfl, rfl, by simp, .stated rfl⟩
    · have listed : itemFederation.fieldsIn "Item" = [_, _] ++ ("marks", _) :: [_] := rfl
      exact ⟨[_], _, [_], rfl, rfl, by simp, .inferred rfl listed ⟨rfl, rfl⟩ (by decide)⟩
  · obtain ⟨_, _, failed⟩ := key_table_of_claims itemFederation "Item"
      [⟨some "PRICING", none⟩, ⟨some "SHIPPING", none⟩, ⟨none, some "number"⟩] rfl
    have identified : ∃ f ∈ itemFederation.fieldsIn "Item", f.2.IsIdentifier := by decide
    refine (failed _).2 ⟨[_], _, [_], rfl, ?_, .undeclared rfl (by decide)⟩
    exact List.forall_mem_singleton.2 ⟨⟨"PRICING", by decide, rfl⟩, .inr identified⟩

end Supergraph
