import Supergraph.Proofs.KeyTable
import Supergraph.Proofs.Plannable
import Supergraph.Proofs.Registry
import Supergraph.Proofs.RootFields
import Supergraph.Proofs.Schema.Loaded

/-!
# The table of root fields

Every field of the root types is routed, in the order of its type, or else none is. The first field
that cannot be routed is told with a reason: it has no definition or no shape, one of its claims is
misread, no graph or an unregistered one serves it, or one of its arguments has no definition or no
shape. The claims on the root type are read only for a field whose own claims name no graph.

## Main definitions

* `Federation.RootEntry`, `Federation.rootEntries` — the fields of the root types
* `Join.FirstGraph`, `Federation.Serves` — the graph that serves a field of a root type
* `Federation.Routes` — what is routed of a field of a root type
* `Federation.Refuses` — why a field of a root type is not routed

## Main results

* `Federation.routes_of_planEntry`, `Federation.refuses_of_planEntry` — one field
* `Federation.result_rootFields` — the fields are routed one after the other
* `rootFields_routes_or_refuses` — all fields are routed, or the first refusal is told
-/

namespace Supergraph

namespace Join

variable {a : Sdl.Application} {cause : WrongArgument} {directives : List Sdl.Application}
  {graph : String}

/-- The first of the directives that names a graph names this one. -/
def FirstGraph (directives : List Sdl.Application) (graph : String) : Prop :=
  ∃ before a after, directives = before ++ a :: after ∧ enumValue? a "graph" = some graph ∧
    ∀ b ∈ before, enumValue? b "graph" = none

/-- No directive names a graph. -/
def NoGraph (directives : List Sdl.Application) : Prop :=
  ∀ a ∈ directives, enumValue? a "graph" = none

/-- A directive that claims a type has an argument of another kind than it should be. -/
inductive MisreadsType (a : Sdl.Application) : WrongArgument → Prop
  | graph (wrong : ¬ArgumentKind.enumValue.Admits (argument? a "graph")) :
      MisreadsType a ⟨"join__type", "graph", .enumValue⟩
  | key (wrong : ¬ArgumentKind.text.Admits (argument? a "key")) :
      MisreadsType a ⟨"join__type", "key", .text⟩

/-- A directive that claims a field has an argument of another kind than it should be. -/
inductive MisreadsField (a : Sdl.Application) : WrongArgument → Prop
  | graph (wrong : ¬ArgumentKind.enumValue.Admits (argument? a "graph")) :
      MisreadsField a ⟨"join__field", "graph", .enumValue⟩
  | external (wrong : ¬ArgumentKind.truth.Admits (argument? a "external")) :
      MisreadsField a ⟨"join__field", "external", .truth⟩

theorem FirstGraph.not_noGraph (first : FirstGraph directives graph) : ¬NoGraph directives := by
  obtain ⟨before, a, after, rfl, named, _⟩ := first
  intro none
  have unnamed := none a (List.mem_append_right _ List.mem_cons_self)
  rw [named] at unnamed
  cases unnamed

/-- There is at most one first graph. -/
theorem FirstGraph.unique {other : String} (first : FirstGraph directives graph)
    (second : FirstGraph directives other) : graph = other := by
  have found := List.findSome?_eq_some_iff.2 first
  exact Option.some.inj (found.symm.trans (List.findSome?_eq_some_iff.2 second))

theorem findSome?_fieldGraph_eq_some_iff :
    (directives.map FieldClaim.ofApplication).findSome? FieldClaim.graph = some graph ↔
      FirstGraph directives graph := by
  rw [List.findSome?_map]
  exact List.findSome?_eq_some_iff

theorem findSome?_typeGraph_eq_some_iff :
    (directives.map TypeClaim.ofApplication).findSome? TypeClaim.graph = some graph ↔
      FirstGraph directives graph := by
  rw [List.findSome?_map]
  exact List.findSome?_eq_some_iff

theorem findSome?_fieldGraph_eq_none_iff :
    (directives.map FieldClaim.ofApplication).findSome? FieldClaim.graph = none ↔
      NoGraph directives := by
  rw [List.findSome?_map]
  exact List.findSome?_eq_none_iff

theorem findSome?_typeGraph_eq_none_iff :
    (directives.map TypeClaim.ofApplication).findSome? TypeClaim.graph = none ↔
      NoGraph directives := by
  rw [List.findSome?_map]
  exact List.findSome?_eq_none_iff

/-! ### Misread directives -/

theorem enumArgument_eq_error_iff {name : String} :
    enumArgument a name = .error cause ↔
      ¬ArgumentKind.enumValue.Admits (argument? a name) ∧ cause = ⟨a.name, name, .enumValue⟩ := by
  rw [enumArgument]
  cases argument? a name with
  | none => simp [ArgumentKind.Admits]
  | some l => cases l <;> simp [ArgumentKind.Admits, ArgumentKind.ofLiteral?, eq_comm]

theorem truthArgument_eq_error_iff {name : String} :
    truthArgument a name = .error cause ↔
      ¬ArgumentKind.truth.Admits (argument? a name) ∧ cause = ⟨a.name, name, .truth⟩ := by
  rw [truthArgument]
  cases argument? a name with
  | none => simp [ArgumentKind.Admits]
  | some l => cases l <;> simp [ArgumentKind.Admits, ArgumentKind.ofLiteral?, eq_comm]

theorem misreadsType_of_typeClaim (named : a.name = "join__type")
    (failed : typeClaim a = .error cause) : MisreadsType a cause := by
  rcases bind_except_eq_error_iff.1 failed with failed | ⟨_, _, failed⟩
  · obtain ⟨wrong, rfl⟩ := enumArgument_eq_error_iff.1 failed
    rw [named]
    exact .graph wrong
  · rcases bind_except_eq_error_iff.1 failed with failed | ⟨_, _, failed⟩
    · obtain ⟨wrong, rfl⟩ := textArgument_eq_error_iff.1 failed
      rw [named]
      exact .key wrong
    · cases failed

theorem misreadsField_of_fieldClaim (named : a.name = "join__field")
    (failed : fieldClaim a = .error cause) : MisreadsField a cause := by
  rcases bind_except_eq_error_iff.1 failed with failed | ⟨_, _, failed⟩
  · obtain ⟨wrong, rfl⟩ := enumArgument_eq_error_iff.1 failed
    rw [named]
    exact .graph wrong
  · rcases bind_except_eq_error_iff.1 failed with failed | ⟨_, _, failed⟩
    · obtain ⟨wrong, rfl⟩ := truthArgument_eq_error_iff.1 failed
      rw [named]
      exact .external wrong
    · cases failed

theorem not_fitsType_of_misreads (misread : MisreadsType a cause) : ¬FitsType a := by
  intro fits
  cases misread with
  | graph wrong => exact wrong fits.graph
  | key wrong => exact wrong fits.key

theorem not_fitsField_of_misreads (misread : MisreadsField a cause) : ¬FitsField a := by
  intro fits
  cases misread with
  | graph wrong => exact wrong fits.graph
  | external wrong => exact wrong fits.external

variable {applied : List Sdl.Application}

/-- When the directives of a name are not all read, it is for one of them. -/
theorem exists_failed_of_mapM_appliedAs {β : Type} {name : String}
    {read : Sdl.Application → Except WrongArgument β}
    (failed : (appliedAs name applied).mapM read = .error cause) :
    ∃ a ∈ appliedAs name applied, a.name = name ∧ read a = .error cause := by
  obtain ⟨before, a, after, listed, _, failed⟩ := mapM_except_eq_error_iff.1 failed
  have member : a ∈ appliedAs name applied := by
    rw [listed]
    exact List.mem_append_right _ List.mem_cons_self
  have named : a.name = name := by simpa using (List.mem_filter.1 member).2
  exact ⟨a, member, named, failed⟩

/-- When claims on a type are not read, it is for the arguments of one of them. -/
theorem exists_misread_of_typeClaimsOf (failed : typeClaimsOf applied = .error cause) :
    ∃ a ∈ appliedAs "join__type" applied, MisreadsType a cause := by
  obtain ⟨a, member, named, failed⟩ := exists_failed_of_mapM_appliedAs failed
  exact ⟨a, member, misreadsType_of_typeClaim named failed⟩

/-- When claims on a field are not read, it is for the arguments of one of them. -/
theorem exists_misread_of_fieldClaimsOf (failed : fieldClaimsOf applied = .error cause) :
    ∃ a ∈ appliedAs "join__field" applied, MisreadsField a cause := by
  obtain ⟨a, member, named, failed⟩ := exists_failed_of_mapM_appliedAs failed
  exact ⟨a, member, misreadsField_of_fieldClaim named failed⟩

end Join

namespace Federation

/-- A field of the root type for an operation. -/
structure RootEntry where
  operation : RootOperation
  type : String
  name : String
  field : Schema.Field

/-- The fields of the root type for an operation in their order, none if there is no such type. -/
def rootEntriesFor (fed : Federation) (operation : RootOperation) : List RootEntry :=
  match fed.schema.root? (rootKind operation) with
  | some type => (fed.fieldsIn type).map fun f => ⟨operation, type, f.1, f.2⟩
  | none => []

/-- The fields of the query type and then those of the mutation type. -/
def rootEntries (fed : Federation) : List RootEntry :=
  fed.rootEntriesFor .query ++ fed.rootEntriesFor .mutation

/-- A graph serves a field of a root type when it is the first that the claims on the field name, or
else the first that the claims on the type name. -/
inductive Serves (fed : Federation) (entry : RootEntry) (graph : String) : Prop
  | ofField (first : Join.FirstGraph entry.field.claims graph)
  | ofType (unnamed : Join.NoGraph entry.field.claims)
      (first : Join.FirstGraph (fed.claimsOn entry.type) graph)

/-- The plan of an argument has its name, its shape, and a default if the argument has one;
otherwise its value is null. -/
structure RoutesArgument (fed : Federation) (argument : String × Schema.InputValue)
    (plan : ArgumentPlan) : Prop where
  name : plan.name = argument.1
  shape : fed.shapeOf argument.2.type = .ok plan.shape
  default : plan.default = (argument.2.default?.map Sdl.Literal.value).getD .null
  hasDefault : plan.hasDefault = argument.2.default?.isSome

/-- What is routed of a field of a root type: its name and its shape, forwarded to the registered
graph that serves it, with its arguments in their order and the reason that it is deprecated for, if
it is. -/
structure Routes (fed : Federation) (entry : RootEntry) (plan : RootField) : Prop where
  operation : plan.operation = entry.operation
  name : plan.name = entry.name
  shape : fed.shapeOf entry.field.type = .ok plan.shape
  owner : fed.Serves entry plan.owner
  registered : plan.owner ∈ fed.subgraphs.keys
  arguments : List.Forall₂ fed.RoutesArgument entry.field.arguments.entries plan.arguments
  deprecation : plan.deprecation = entry.field.deprecation

/-- Why a field of a root type is not routed. -/
inductive Refuses (fed : Federation) (entry : RootEntry) : Failure → Prop
  | undefined (undefined : entry.field.applied? = none) :
      Refuses fed entry (.undefinedField entry.type entry.name)
  | shapeless {cause : UnsupportedType}
      (shapeless : fed.shapeOf entry.field.type = .error (.unsupported cause)) :
      Refuses fed entry (.unsupported cause)
  | fieldClaim {a : Sdl.Application} {cause : Join.WrongArgument} (claim : a ∈ entry.field.claims)
      (misread : Join.MisreadsField a cause) : Refuses fed entry (.wrongArgument cause)
  /-- The claims on the type are read only if the field has none that names a graph. -/
  | typeClaim {a : Sdl.Application} {cause : Join.WrongArgument}
      (unnamed : Join.NoGraph entry.field.claims) (claim : a ∈ fed.claimsOn entry.type)
      (misread : Join.MisreadsType a cause) : Refuses fed entry (.wrongArgument cause)
  | unserved (unnamed : Join.NoGraph entry.field.claims)
      (unclaimed : Join.NoGraph (fed.claimsOn entry.type)) :
      Refuses fed entry (.noClient entry.name)
  | unregistered {graph : String} (served : fed.Serves entry graph)
      (unregistered : graph ∉ fed.subgraphs.keys) :
      Refuses fed entry (.undeclaredGraph (entry.type ++ "." ++ entry.name) graph)
  | undefinedArgument {argument : String × Schema.InputValue}
      (among : argument ∈ entry.field.arguments.entries)
      (undefined : argument.2.isDefined = false) :
      Refuses fed entry (.undefinedArgument argument.1)
  | shapelessArgument {argument : String × Schema.InputValue} {cause : UnsupportedType}
      (among : argument ∈ entry.field.arguments.entries)
      (shapeless : fed.shapeOf argument.2.type = .error (.unsupported cause)) :
      Refuses fed entry (.unsupported cause)

/-- The plan of a field of a root type. -/
def planEntry (fed : Federation) (entry : RootEntry) : Except Failure RootField :=
  fed.planRootField entry.operation entry.type entry.name entry.field

/-- The field stands among the fields of an object type. -/
structure RootEntry.IsDeclared (fed : Federation) (entry : RootEntry) : Prop where
  object : (fed.schema.fieldsOf? entry.type).isSome
  among : (entry.name, entry.field) ∈ fed.fieldsIn entry.type

variable {fed : Federation} {entry : RootEntry} {e : Failure} {graph : String} {plan : RootField}

/-! ### The graph that serves a field -/

theorem Serves.unique {other : String} (served : fed.Serves entry graph)
    (servedToo : fed.Serves entry other) : graph = other := by
  cases served with
  | ofField first =>
    cases servedToo with
    | ofField second => exact first.unique second
    | ofType unnamed _ => exact absurd unnamed first.not_noGraph
  | ofType unnamed first =>
    cases servedToo with
    | ofField second => exact absurd unnamed second.not_noGraph
    | ofType _ second => exact first.unique second

theorem RootEntry.IsDeclared.fieldClaims (declared : entry.IsDeclared fed) :
    fed.fieldClaims entry.type entry.name =
      (Join.fieldClaimsOf (entry.field.applied?.getD [])).mapError .wrongArgument := by
  obtain ⟨fields, found⟩ := Option.isSome_iff_exists.1 declared.object
  have among := declared.among
  rw [fieldsIn_eq (fieldsOf_eq_ok_iff.2 found)] at among
  rw [Federation.fieldClaims, Join.fieldClaims, found, Option.bind_some,
    Table.get?_eq_some_iff.2 among]

theorem RootEntry.IsDeclared.typeClaims (declared : entry.IsDeclared fed) :
    fed.typeClaims entry.type =
      (Join.typeClaimsOf ((fed.schema.appliedTo? entry.type).getD [])).mapError .wrongArgument := by
  cases found : fed.schema.appliedTo? entry.type with
  | none =>
    have object := declared.object
    have absent := Option.map_eq_none_iff.1 found
    rw [Schema.fieldsOf?, Schema.body?, absent] at object
    cases object
  | some applied => rw [Federation.typeClaims, typeClaims_of_object declared.object found,
      Option.getD_some]

/-- The claims that are read to find the graph that serves a field are of the right kinds. -/
structure RootEntry.IsReadable (fed : Federation) (entry : RootEntry) : Prop where
  field : ∀ a ∈ entry.field.claims, Join.FitsField a
  type : Join.NoGraph entry.field.claims → ∀ a ∈ fed.claimsOn entry.type, Join.FitsType a

/-- What is found of the graph that serves a field. -/
inductive Finds (fed : Federation) (entry : RootEntry) : Except Failure (Option String) → Prop
  | refused {e : Failure} (refused : fed.Refuses entry e) : Finds fed entry (.error e)
  | graph {graph : String} (readable : entry.IsReadable fed) (served : fed.Serves entry graph) :
      Finds fed entry (.ok (some graph))
  | none (unnamed : Join.NoGraph entry.field.claims)
      (unclaimed : Join.NoGraph (fed.claimsOn entry.type)) : Finds fed entry (.ok none)

/-- The claims on the type are read when the field has none that names a graph. -/
theorem finds_of_unnamed (declared : entry.IsDeclared fed)
    (fits : ∀ a ∈ entry.field.claims, Join.FitsField a)
    (unnamed : Join.NoGraph entry.field.claims) :
    fed.Finds entry ((fed.typeClaims entry.type).map (List.findSome? Join.TypeClaim.graph)) := by
  rw [declared.typeClaims]
  cases read : Join.typeClaimsOf ((fed.schema.appliedTo? entry.type).getD []) with
  | error cause =>
    obtain ⟨a, claim, misread⟩ := Join.exists_misread_of_typeClaimsOf read
    exact .refused (.typeClaim unnamed claim misread)
  | ok claims =>
    obtain ⟨fitsType, rfl⟩ := Join.typeClaimsOf_eq_ok_iff.1 read
    change fed.Finds entry (.ok (List.findSome? _ _))
    cases found : ((Join.appliedAs "join__type" ((fed.schema.appliedTo? entry.type).getD [])).map
      Join.TypeClaim.ofApplication).findSome? Join.TypeClaim.graph with
    | none => exact .none unnamed (Join.findSome?_typeGraph_eq_none_iff.1 found)
    | some graph =>
      exact .graph ⟨fits, fun _ => fitsType⟩
        (.ofType unnamed (Join.findSome?_typeGraph_eq_some_iff.1 found))

theorem finds_clientOf? (declared : entry.IsDeclared fed) :
    fed.Finds entry (fed.clientOf? entry.type entry.name) := by
  rw [clientOf?, declared.fieldClaims]
  cases read : Join.fieldClaimsOf (entry.field.applied?.getD []) with
  | error cause =>
    obtain ⟨a, claim, misread⟩ := Join.exists_misread_of_fieldClaimsOf read
    exact .refused (.fieldClaim claim misread)
  | ok claims =>
    obtain ⟨fits, rfl⟩ := Join.fieldClaimsOf_eq_ok_iff.1 read
    cases found : ((Join.appliedAs "join__field" (entry.field.applied?.getD [])).map
      Join.FieldClaim.ofApplication).findSome? Join.FieldClaim.graph with
    | some graph =>
      simp only [Except.mapError, bind, Except.bind, found]
      have first := Join.findSome?_fieldGraph_eq_some_iff.1 found
      exact .graph ⟨fits, fun unnamed => absurd unnamed first.not_noGraph⟩ (.ofField first)
    | none =>
      simp only [Except.mapError, bind, Except.bind, found]
      have unnamed := Join.findSome?_fieldGraph_eq_none_iff.1 found
      have searched := finds_of_unnamed declared fits unnamed
      -- What is found for the type is what is found at all.
      cases typed : fed.typeClaims entry.type with
      | error e => rwa [typed] at searched
      | ok claims => rwa [typed] at searched

/-! ### One field -/

theorem refuses_of_clientOf (declared : entry.IsDeclared fed)
    (failed : fed.clientOf entry.type entry.name = .error e) : fed.Refuses entry e := by
  have found := finds_clientOf? declared
  rcases bind_except_eq_error_iff.1 failed with failed | ⟨client, searched, failed⟩
  · rw [failed] at found
    cases found with
    | refused refused => exact refused
  · rw [searched] at found
    cases found with
    | none unnamed unclaimed =>
      cases failed
      exact .unserved unnamed unclaimed
    | graph _ served =>
      rcases bind_except_eq_error_iff.1 failed with failed | ⟨_, _, last⟩
      · obtain ⟨unregistered, rfl⟩ := requireSubgraph_eq_error_iff.1 failed
        exact .unregistered served unregistered
      · cases last

theorem serves_of_clientOf (declared : entry.IsDeclared fed)
    (made : fed.clientOf entry.type entry.name = .ok graph) :
    entry.IsReadable fed ∧ fed.Serves entry graph ∧ graph ∈ fed.subgraphs.keys := by
  obtain ⟨searched, registered⟩ := clientOf_eq_ok_iff.1 made
  have found := finds_clientOf? declared
  rw [searched] at found
  cases found with
  | graph readable served => exact ⟨readable, served, registered⟩

theorem shapeOf_eq_error {type : TypeRef} (failed : fed.shapeOf type = .error e) :
    ∃ cause, e = .unsupported cause := by
  obtain ⟨cause, _, same⟩ := mapError_eq_error_iff.1 failed
  exact ⟨cause, same.symm⟩

theorem planArgument_eq_ok_iff {name : String} {argument : Schema.InputValue}
    {plan : ArgumentPlan} :
    fed.planArgument name argument = .ok plan ↔
      argument.isDefined ∧ fed.RoutesArgument (name, argument) plan := by
  rw [planArgument]
  by_cases defined : argument.isDefined
  · rw [if_pos defined, bind_except_eq_ok_iff]
    constructor
    · rintro ⟨shape, shaped, last⟩
      cases last
      exact ⟨defined, rfl, shaped, rfl, Option.isSome_map⟩
    · rintro ⟨_, named, shaped, default, hasDefault⟩
      obtain ⟨name, shape, value, isGiven⟩ := plan
      obtain rfl : name = _ := named
      obtain rfl : value = _ := default
      obtain rfl : isGiven = _ := hasDefault
      exact ⟨shape, shaped, by rw [Option.isSome_map]; rfl⟩
  · rw [if_neg defined]
    simp [defined, throw, throwThe, MonadExceptOf.throw]

theorem refuses_of_planArgument {argument : String × Schema.InputValue}
    (among : argument ∈ entry.field.arguments.entries)
    (failed : fed.planArgument argument.1 argument.2 = .error e) : fed.Refuses entry e := by
  rw [planArgument] at failed
  by_cases defined : argument.2.isDefined
  · rw [if_pos defined] at failed
    rcases bind_except_eq_error_iff.1 failed with failed | ⟨_, _, last⟩
    · obtain ⟨cause, rfl⟩ := shapeOf_eq_error failed
      exact .shapelessArgument among failed
    · cases last
  · rw [if_neg defined] at failed
    cases failed
    exact .undefinedArgument among (by simpa using defined)

/-- A field that is not routed is refused for a reason. -/
theorem refuses_of_planEntry (declared : entry.IsDeclared fed)
    (failed : fed.planEntry entry = .error e) : fed.Refuses entry e := by
  rw [planEntry, planRootField] at failed
  cases applied : entry.field.applied? with
  | none =>
    rw [applied] at failed
    cases failed
    exact .undefined applied
  | some _ =>
    simp only [applied, Option.isNone_some, Bool.false_eq_true, ↓reduceIte] at failed
    -- The shape is looked for first, then the graph, and then the arguments.
    rcases bind_except_eq_error_iff.1 failed with failed | ⟨_, _, failed⟩
    · obtain ⟨cause, rfl⟩ := shapeOf_eq_error failed
      exact .shapeless failed
    · rcases bind_except_eq_error_iff.1 failed with failed | ⟨_, _, failed⟩
      · exact refuses_of_clientOf declared failed
      · rcases bind_except_eq_error_iff.1 failed with failed | ⟨_, _, last⟩
        · obtain ⟨before, argument, after, listed, _, failed⟩ := mapM_except_eq_error_iff.1 failed
          have among : argument ∈ entry.field.arguments.entries := by
            rw [listed]
            exact List.mem_append_right _ List.mem_cons_self
          exact refuses_of_planArgument among failed
        · cases last

/-- A field that is routed is routed as the schema says. -/
theorem routes_of_planEntry (declared : entry.IsDeclared fed)
    (made : fed.planEntry entry = .ok plan) : fed.Routes entry plan := by
  obtain ⟨_, shape, owner, arguments, shaped, served, planned, rfl⟩ :=
    planRootField_eq_ok_iff.1 made
  obtain ⟨_, serves, registered⟩ := serves_of_clientOf declared served
  refine ⟨rfl, rfl, shaped, serves, registered, ?_, rfl⟩
  exact (mapM_except_eq_ok_iff.1 planned).imp fun _ _ made => (planArgument_eq_ok_iff.1 made).2

/-- Nothing is said against a field that is routed. -/
theorem not_refuses_of_planEntry (declared : entry.IsDeclared fed)
    (made : fed.planEntry entry = .ok plan) : ¬fed.Refuses entry e := by
  obtain ⟨defined, shape, owner, arguments, shaped, served, planned, rfl⟩ :=
    planRootField_eq_ok_iff.1 made
  obtain ⟨readable, serves, registered⟩ := serves_of_clientOf declared served
  have each : ∀ argument ∈ entry.field.arguments.entries,
      argument.2.isDefined ∧ ∃ shape, fed.shapeOf argument.2.type = .ok shape := by
    intro argument among
    obtain ⟨_, _, made⟩ := exists_right_of_forall₂ (mapM_except_eq_ok_iff.1 planned) among
    obtain ⟨defined, routes⟩ := planArgument_eq_ok_iff.1 made
    exact ⟨defined, _, routes.shape⟩
  intro refused
  -- Each reason contradicts what the routing has established in the same place.
  cases refused with
  | undefined undefined => simp [undefined] at defined
  | shapeless shapeless => cases shapeless.symm.trans shaped
  | fieldClaim claim misread =>
    exact Join.not_fitsField_of_misreads misread (readable.field _ claim)
  | typeClaim unnamed claim misread =>
    exact Join.not_fitsType_of_misreads misread (readable.type unnamed _ claim)
  | unserved unnamed unclaimed =>
    cases serves with
    | ofField first => exact first.not_noGraph unnamed
    | ofType _ first => exact first.not_noGraph unclaimed
  | unregistered servedToo unregistered =>
    rw [serves.unique servedToo] at registered
    exact unregistered registered
  | undefinedArgument among undefined => exact Bool.false_ne_true (undefined ▸ (each _ among).1)
  | shapelessArgument among shapeless =>
    obtain ⟨_, shape, shaped⟩ := each _ among
    cases shapeless.symm.trans shaped

/-! ### All fields -/

theorem nodup_names_rootEntriesFor (fed : Federation) (operation : RootOperation) :
    ((fed.rootEntriesFor operation).map RootEntry.name).Nodup := by
  rw [rootEntriesFor]
  cases fed.schema.root? (rootKind operation) with
  | none => exact List.nodup_nil
  | some type =>
    rw [List.map_map, fieldsIn]
    cases fed.schema.fieldsOf? type with
    | none => exact List.nodup_nil
    | some fields => exact fields.nodup_keys

theorem isDeclared_of_mem_rootEntriesFor (sound : fed.schema.IsSound) {operation : RootOperation}
    (member : entry ∈ fed.rootEntriesFor operation) : entry.IsDeclared fed := by
  rw [rootEntriesFor] at member
  cases root : fed.schema.root? (rootKind operation) with
  | none => simp [root] at member
  | some type =>
    rw [root] at member
    obtain ⟨f, among, rfl⟩ := List.mem_map.1 member
    exact ⟨sound.roots _ type root, among⟩

theorem isDeclared_of_mem_rootEntries (sound : fed.schema.IsSound)
    (member : entry ∈ fed.rootEntries) : entry.IsDeclared fed := by
  rcases List.mem_append.1 member with inside | inside
  · exact isDeclared_of_mem_rootEntriesFor sound inside
  · exact isDeclared_of_mem_rootEntriesFor sound inside

/-- The fields for an operation are routed one after the other. -/
theorem result_rootFieldsOf (sound : fed.schema.IsSound) (operation : RootOperation) :
    (fed.rootFieldsOf operation).result = (fed.rootEntriesFor operation).mapM fed.planEntry := by
  rw [rootFieldsOf, rootEntriesFor]
  cases root : fed.schema.root? (rootKind operation) with
  | none => rfl
  | some type =>
    obtain ⟨fields, found⟩ := Option.isSome_iff_exists.1 (sound.roots _ type root)
    have declared := fieldsOf_eq_ok_iff.2 found
    simp only [planRoot, declared, fieldsIn_eq declared, List.mapM_map, Traced.result_bind,
      Traced.result_check_id]
    exact bind_pure (fields.entries.mapM fun f => fed.planRootField operation type f.1 f.2)

/-- The fields of the root types are routed one after the other. -/
theorem result_rootFields (sound : fed.schema.IsSound) (served : ¬fed.subgraphs.isEmpty) :
    fed.rootFields.result = fed.rootEntries.mapM fed.planEntry := by
  rw [rootFields, if_neg served, rootEntries, List.mapM_append]
  simp only [Traced.result_bind, result_rootFieldsOf sound]
  rfl

theorem forall₂_routes_of_rootFields (sound : fed.schema.IsSound)
    (served : ¬fed.subgraphs.isEmpty) {plans : List RootField}
    (made : fed.rootFields.result = .ok plans) :
    List.Forall₂ fed.Routes fed.rootEntries plans := by
  rw [result_rootFields sound served, mapM_except_eq_ok_iff] at made
  have declared : ∀ entry ∈ fed.rootEntries, entry.IsDeclared fed :=
    fun _ => isDeclared_of_mem_rootEntries sound
  exact ((List.forall₂_and_left _ _).2 ⟨declared, made⟩).imp fun _ _ both =>
    routes_of_planEntry both.1 both.2

theorem not_refuses_of_rootFields (sound : fed.schema.IsSound)
    (served : ¬fed.subgraphs.isEmpty) {plans : List RootField}
    (made : fed.rootFields.result = .ok plans) (member : entry ∈ fed.rootEntries) :
    ¬fed.Refuses entry e := by
  rw [result_rootFields sound served, mapM_except_eq_ok_iff] at made
  obtain ⟨_, _, made⟩ := exists_right_of_forall₂ made member
  exact not_refuses_of_planEntry (isDeclared_of_mem_rootEntries sound member) made

/-- A failure is the refusal of the first field that is refused. -/
theorem exists_first_refused (sound : fed.schema.IsSound) (served : ¬fed.subgraphs.isEmpty)
    (failed : fed.rootFields.result = .error e) :
    ∃ before entry after, fed.rootEntries = before ++ entry :: after ∧
      (∀ b ∈ before, ∀ reason, ¬fed.Refuses b reason) ∧ fed.Refuses entry e := by
  rw [result_rootFields sound served, mapM_except_eq_error_iff] at failed
  obtain ⟨before, entry, after, listed, routed, failed⟩ := failed
  have declared : ∀ b ∈ before ++ entry :: after, b.IsDeclared fed := by
    intro b member
    exact isDeclared_of_mem_rootEntries sound (listed ▸ member)
  refine ⟨before, entry, after, listed, fun b earlier reason => ?_, ?_⟩
  · obtain ⟨_, made⟩ := routed b earlier
    exact not_refuses_of_planEntry (declared b (List.mem_append_left _ earlier)) made
  · exact refuses_of_planEntry
      (declared entry (List.mem_append_right _ List.mem_cons_self)) failed

end Federation

/-- Without subgraphs no field is routed. With subgraphs, either all fields of the root types are
routed, those of the query type first and each once in the order of its type, or the first that is
refused ends the routing, with the reason that it is refused for. -/
theorem rootFields_routes_or_refuses {schema : Schema} {fed : Federation}
    (loaded : schema.IsLoaded) (made : (Federation.ofSchema schema).result = .ok fed) :
    (fed.subgraphs.isEmpty → fed.rootFields.result = .ok []) ∧
    (¬fed.subgraphs.isEmpty →
      (∀ plans, fed.rootFields.result = .ok plans →
        List.Forall₂ fed.Routes fed.rootEntries plans) ∧
      ((∃ e, fed.rootFields.result = .error e) ↔
        ∃ entry ∈ fed.rootEntries, ∃ reason, fed.Refuses entry reason) ∧
      ∀ e, fed.rootFields.result = .error e →
        ∃ before entry after, fed.rootEntries = before ++ entry :: after ∧
          (∀ b ∈ before, ∀ reason, ¬fed.Refuses b reason) ∧ fed.Refuses entry e) ∧
    ∀ operation, ((fed.rootEntriesFor operation).map Federation.RootEntry.name).Nodup := by
  obtain ⟨same, _⟩ := Federation.exists_value_of_ofSchema made
  have sound : fed.schema.IsSound := same ▸ loaded.isSound
  refine ⟨fun none => ?_, fun served => ⟨?_, ⟨?_, ?_⟩, ?_⟩, fed.nodup_names_rootEntriesFor⟩
  · rw [Federation.rootFields, if_pos none]
    rfl
  · intro plans made
    exact Federation.forall₂_routes_of_rootFields sound served made
  · rintro ⟨e, failed⟩
    obtain ⟨before, entry, after, listed, _, refused⟩ :=
      Federation.exists_first_refused sound served failed
    rw [listed]
    exact ⟨entry, List.mem_append_right _ List.mem_cons_self, e, refused⟩
  · rintro ⟨entry, member, reason, refused⟩
    rw [exists_error_iff]
    rintro ⟨plans, made⟩
    exact Federation.not_refuses_of_rootFields sound served made member refused
  · intro e failed
    exact Federation.exists_first_refused sound served failed

/-! ### A counter -/

/-- A field that its own claim routes, while a claim on the type is misread: the graph is a text. -/
def counterText : String := String.join
  ["type Query @join__type(graph: \"A\") \x7b\n",
    "  count(limit: Int = 3, after: ID): Int @join__field(graph: A)\n",
    "\x7d\n",
    "enum join__Graph \x7b A @join__graph(name: \"a\", url: \"b\") \x7d\n",
    "directive @join__type(graph: Int) on OBJECT\n",
    "directive @join__field(graph: Int) on FIELD_DEFINITION\n",
    "directive @join__graph(name: Int, url: Int) on ENUM_VALUE\n"]

/-- A text with facts about its root fields that can be computed. -/
theorem exists_rootFields_of_any {text : String} {holds : Federation → List RootField → Bool}
    (computed : ((Schema.load text).toOption.any fun schema =>
      (Federation.ofSchema schema).result.toOption.any fun fed =>
        fed.rootFields.result.toOption.any fun plans =>
          !fed.subgraphs.isEmpty && holds fed plans) = true) :
    ∃ schema fed plans, Schema.load text = .ok schema ∧
      (Federation.ofSchema schema).result = .ok fed ∧ ¬fed.subgraphs.isEmpty ∧
      fed.rootFields.result = .ok plans ∧ holds fed plans = true := by
  obtain ⟨schema, loaded, facts⟩ := (Option.any_eq_true _ _).1 computed
  obtain ⟨fed, made, facts⟩ := (Option.any_eq_true _ _).1 facts
  obtain ⟨plans, routed, facts⟩ := (Option.any_eq_true _ _).1 facts
  obtain ⟨served, holds⟩ := Bool.and_eq_true_iff.1 facts
  exact ⟨schema, fed, plans, toOption_eq_some_iff.1 loaded, toOption_eq_some_iff.1 made,
    by simpa using served, toOption_eq_some_iff.1 routed, holds⟩

theorem exists_fed_counterText : ∃ schema fed plans, Schema.load counterText = .ok schema ∧
    (Federation.ofSchema schema).result = .ok fed ∧ ¬fed.subgraphs.isEmpty ∧
    fed.rootFields.result = .ok plans ∧
    plans.map (fun f => (f.name, f.owner, f.arguments.map ArgumentPlan.name)) =
      [("count", "A", ["limit", "after"])] ∧
    ∃ a ∈ fed.claimsOn "Query", Join.typeClaim a = .error ⟨"join__type", "graph", .enumValue⟩ := by
  have computed : ((Schema.load counterText).toOption.any fun schema =>
      (Federation.ofSchema schema).result.toOption.any fun fed =>
        fed.rootFields.result.toOption.any fun plans =>
          !fed.subgraphs.isEmpty && decide (
            plans.map (fun f => (f.name, f.owner, f.arguments.map ArgumentPlan.name)) =
              [("count", "A", ["limit", "after"])] ∧
            ∃ a ∈ fed.claimsOn "Query",
              Join.typeClaim a = .error ⟨"join__type", "graph", .enumValue⟩)) = true := by
    -- The characters are taken line by line, so that no long text is decoded.
    rewrite [Schema.load, Sdl.readDocument, Sdl.Reading.ofText, Sdl.tokens, counterText,
      String.toList_join]
    decide +kernel
  obtain ⟨schema, fed, plans, loaded, made, served, routed, facts⟩ :=
    exists_rootFields_of_any computed
  obtain ⟨listed, misread⟩ := of_decide_eq_true facts
  exact ⟨schema, fed, plans, loaded, made, served, routed, listed, misread⟩

theorem counterText_routes_count : ∃ schema fed plan, schema.IsLoaded ∧
    (Federation.ofSchema schema).result = .ok fed ∧ fed.rootFields.result = .ok [plan] ∧
    plan.name = "count" ∧ List.Forall₂ fed.Routes fed.rootEntries [plan] ∧
    ∀ entry ∈ fed.rootEntries, ∀ reason, ¬fed.Refuses entry reason := by
  obtain ⟨schema, fed, plans, loaded, made, served, routed, listed, _⟩ := exists_fed_counterText
  obtain ⟨plan, rfl, named⟩ := List.map_eq_singleton_iff.1 listed
  obtain ⟨_, told, _⟩ := rootFields_routes_or_refuses (.load loaded) made
  obtain ⟨routes, refused, _⟩ := told served
  refine ⟨schema, fed, plan, .load loaded, made, routed, (Prod.mk.inj named).1, routes _ routed, ?_⟩
  intro entry member reason refuses
  obtain ⟨e, failed⟩ := refused.2 ⟨entry, member, reason, refuses⟩
  cases routed.symm.trans failed

/-- A run of ones that is too long is not read. -/
theorem readInteger_ones {n : Nat} (long : Text.maxDigits < n) :
    Text.readInteger (String.ofList (List.replicate n '1')) = .error (.tooLong n) := by
  obtain ⟨m, rfl⟩ : ∃ m, n = m + 1 := ⟨n - 1, by omega⟩
  have plain : Text.asciiForm '1' = '1' := by decide
  have digit : (Text.digitTo? 10 '1').isSome = true := by decide
  have run : Text.isDigitRun (List.replicate (m + 1) '1') = true := by
    simp [Text.isDigitRun, List.zip_replicate, List.head?_replicate, List.getLast?_replicate]
  have digits (text : String) :
      Text.readDigits 10 text (List.replicate (m + 1) '1') = .error (.tooLong (m + 1)) := by
    simp [Text.readDigits, digit, run, long]
  rw [List.replicate_succ] at digits
  simp [Text.readInteger, Text.readIntegerTo, plain, Text.isAsciiBlank, List.replicate_succ,
    Text.afterBaseMark, digits, Except.map]

/-- More digits of an integer than are read. -/
def endlessDigits : List Char := List.replicate 4301 '1'

/-- A counter whose identifier has a default of so many digits. -/
def endlessText : String := String.join
  ["type Query \x7b\n",
    "  count(after: ID = ", String.ofList endlessDigits, "): Int @join__field(graph: A)\n",
    "\x7d\n",
    "enum join__Graph \x7b A @join__graph(name: \"a\", url: \"b\") \x7d\n",
    "directive @join__field(graph: Int) on FIELD_DEFINITION\n",
    "directive @join__graph(name: Int, url: Int) on ENUM_VALUE\n"]

theorem exists_fed_endlessText : ∃ schema fed plans, Schema.load endlessText = .ok schema ∧
    (Federation.ofSchema schema).result = .ok fed ∧ ¬fed.subgraphs.isEmpty ∧
    fed.rootFields.result = .ok plans ∧
    plans.map (fun f => (f.name, f.owner, f.arguments.map fun a => (a.name, a.hasDefault))) =
      [("count", "A", [("after", true)])] := by
  have computed : ((Schema.load endlessText).toOption.any fun schema =>
      (Federation.ofSchema schema).result.toOption.any fun fed =>
        fed.rootFields.result.toOption.any fun plans =>
          !fed.subgraphs.isEmpty && decide (
            plans.map (fun f => (f.name, f.owner, f.arguments.map fun a => (a.name, a.hasDefault)))
              = [("count", "A", [("after", true)])])) = true := by
    rewrite [Schema.load, Sdl.readDocument, Sdl.Reading.ofText, Sdl.tokens, endlessText,
      String.toList_join]
    -- The digits are taken as characters, since so long a text is not decoded.
    simp only [List.flatMap_cons, List.flatMap_nil, String.toList_ofList]
    decide +kernel
  obtain ⟨schema, fed, plans, loaded, made, served, routed, listed⟩ :=
    exists_rootFields_of_any computed
  exact ⟨schema, fed, plans, loaded, made, served, routed, of_decide_eq_true listed⟩

/-- Neither a misread claim on the type nor a default that is too long to be read keeps the fields
from being routed. -/
theorem counter_routes_despite_faults :
    (∃ schema fed plans, Schema.load counterText = .ok schema ∧
      (Federation.ofSchema schema).result = .ok fed ∧ ¬fed.subgraphs.isEmpty ∧
      fed.rootFields.result = .ok plans ∧
      ∃ a ∈ fed.claimsOn "Query", Join.MisreadsType a ⟨"join__type", "graph", .enumValue⟩) ∧
    Text.readInteger (String.ofList endlessDigits) = .error (.tooLong 4301) ∧
    ∃ schema fed plans, Schema.load endlessText = .ok schema ∧
      (Federation.ofSchema schema).result = .ok fed ∧ ¬fed.subgraphs.isEmpty ∧
      fed.rootFields.result = .ok plans ∧
      plans.map (fun f => (f.name, f.owner, f.arguments.map fun a => (a.name, a.hasDefault))) =
        [("count", "A", [("after", true)])] := by
  refine ⟨?_, readInteger_ones (by decide), exists_fed_endlessText⟩
  obtain ⟨schema, fed, plans, loaded, made, served, routed, _, a, claim, failed⟩ :=
    exists_fed_counterText
  have named : a.name = "join__type" := by simpa using (List.mem_filter.1 claim).2
  exact ⟨schema, fed, plans, loaded, made, served, routed, a, claim,
    Join.misreadsType_of_typeClaim named failed⟩

end Supergraph
