import Supergraph.Proofs.Arguments
import Supergraph.Proofs.Table
import Supergraph.Schema.Load

/-!
# The registry and its faults

Every value of the enum of graphs has to be registered: its definition has to apply the directive
for it, and the first application has to give a name and an address as texts. If all values are
registered, the registry has one subgraph for each. If some are not, the faults of all of them are
told, each with the value it is about, as long as no name or address is of another kind. The first
that is ends the reading: it is told without its value, and no other fault is told.

## Main definitions

* `Schema.EnumValue.Registers`, `Schema.EnumValue.IsWellFormed` — values that are registered
* `Schema.EnumValue.Misread`, `Schema.EnumValue.IsReadable` — names and addresses of another kind
* `Schema.EnumValue.faults` — what is wrong with a value that can be read
* `Join.Reports` — messages about a value
* `Join.faultsOf` — the faults of all values

## Main results

* `Join.reads_subgraphOf` — what is read of a value
* `Join.exists_registryOf`, `Join.registryOf_eq_of_readable`, `Join.registryOf_eq_of_misread` — the
  registry of values that are well formed, its error when they are not, and when some are misread
* `Join.reports_all_iff` — when all faults are told
* `registry_reports_iff` — the registry of a schema, or its error
-/

namespace Supergraph

namespace Schema.EnumValue

open Join

/-- The directive that registers a value: the first of its name on the definition of the value. -/
def registration? (value : EnumValue) : Option Sdl.Application :=
  value.applied?.bind fun applied => (appliedAs "join__graph" applied).head?

/-- A value stands for a subgraph of a name and an address when its registration gives both as
texts. -/
def Registers (value : EnumValue) (name url : String) : Prop :=
  ∃ a, value.registration? = some a ∧ argument? a "name" = some (.string name) ∧
    argument? a "url" = some (.string url)

/-- A value that stands for a subgraph. -/
def IsWellFormed (value : EnumValue) : Prop :=
  ∃ name url, value.Registers name url

/-- A value whose registration gives the name as something else than a text, or else the address. -/
inductive Misread (value : EnumValue) : WrongArgument → Prop
  | name {a : Sdl.Application} (registered : value.registration? = some a)
      (wrong : ¬ArgumentKind.text.Admits (argument? a "name")) :
      Misread value ⟨"join__graph", "name", .text⟩
  | url {a : Sdl.Application} (registered : value.registration? = some a)
      (fits : ArgumentKind.text.Admits (argument? a "name"))
      (wrong : ¬ArgumentKind.text.Admits (argument? a "url")) :
      Misread value ⟨"join__graph", "url", .text⟩

/-- A value whose registration, if there is one, gives the name and the address as texts or not at
all. -/
def IsReadable (value : EnumValue) : Prop :=
  ∀ a ∈ value.registration?, ArgumentKind.text.Admits (argument? a "name") ∧
    ArgumentKind.text.Admits (argument? a "url")

/-- What is wrong with a value: it has no definition, or no registration, or some of the texts that
the registration has to give are missing. -/
def faults (key : String) (value : EnumValue) : List RegistryFault :=
  match value.applied?, value.registration? with
  | none, _ => [.undefinedValue key]
  | some _, none => [.noDirective key]
  | some _, some a =>
    (["name", "url"].filter fun argument => (textValue? a argument).isNone).map (.noArgument key)

end Schema.EnumValue

namespace Join

/-- The value that a fault is about. -/
def RegistryFault.key : RegistryFault → String
  | undefinedValue key => key
  | noDirective key => key
  | noArgument key _ => key

/-- A message that begins with the value it is about. -/
def Reports (key message : String) : Prop :=
  ∃ detail, message = graphEnum ++ "." ++ key ++ ": " ++ detail

/-- What is read of a value: an argument of the wrong kind, the subgraph that the value stands for,
or its faults. -/
inductive Reads (key : String) (value : Schema.EnumValue) :
    Except WrongArgument (Except (List RegistryFault) Subgraph) → Prop
  | misread {cause : WrongArgument} (misread : value.Misread cause) : Reads key value (.error cause)
  | subgraph {name url : String} (registers : value.Registers name url) :
      Reads key value (.ok (.ok ⟨key, name, url⟩))
  | faulty (readable : value.IsReadable) (malformed : ¬value.IsWellFormed) :
      Reads key value (.ok (.error (value.faults key)))

variable {key : String} {value : Schema.EnumValue} {a : Sdl.Application} {cause : WrongArgument}
  {values : Table Schema.EnumValue}

/-! ### One value -/

theorem textArgument_eq_error_iff {name : String} :
    textArgument a name = .error cause ↔
      ¬ArgumentKind.text.Admits (argument? a name) ∧ cause = ⟨a.name, name, .text⟩ := by
  rw [textArgument]
  cases argument? a name with
  | none => simp [ArgumentKind.Admits]
  | some l => cases l <;> simp [ArgumentKind.Admits, ArgumentKind.ofLiteral?, eq_comm]

theorem textValue?_eq_some_iff {name text : String} :
    textValue? a name = some text ↔ argument? a name = some (.string text) := by
  rw [textValue?]
  cases argument? a name with
  | none => simp
  | some l => cases l <;> simp

theorem registration?_eq {applied : List Sdl.Application}
    (defined : value.applied? = some applied) :
    value.registration? = (appliedAs "join__graph" applied).head? := by
  rw [Schema.EnumValue.registration?, defined, Option.bind_some]

theorem registration?_of_undefined (undefined : value.applied? = none) :
    value.registration? = none := by
  rw [Schema.EnumValue.registration?, undefined, Option.bind_none]

theorem name_of_registration (registered : value.registration? = some a) :
    a.name = "join__graph" := by
  obtain ⟨applied, _, first⟩ := Option.bind_eq_some_iff.1 registered
  simpa using (List.mem_filter.1 (List.mem_of_head? first)).2

/-- A value is well formed when its registration gives two texts. -/
theorem isWellFormed_iff (registered : value.registration? = some a) :
    value.IsWellFormed ↔ (textValue? a "name").isSome ∧ (textValue? a "url").isSome := by
  simp only [Option.isSome_iff_exists, textValue?_eq_some_iff]
  constructor
  · rintro ⟨name, url, _, registeredToo, named, addressed⟩
    obtain rfl := Option.some.inj (registered.symm.trans registeredToo)
    exact ⟨⟨name, named⟩, url, addressed⟩
  · rintro ⟨⟨name, named⟩, url, addressed⟩
    exact ⟨name, url, a, registered, named, addressed⟩

theorem not_isWellFormed (unregistered : value.registration? = none) : ¬value.IsWellFormed := by
  rintro ⟨_, _, _, registered, _⟩
  cases unregistered.symm.trans registered

theorem isReadable_of_unregistered (unregistered : value.registration? = none) :
    value.IsReadable := by
  rintro a registered
  cases unregistered.symm.trans registered

/-- The faults of a value that is registered are the texts that are missing. -/
theorem faults_of_registration {applied : List Sdl.Application}
    (defined : value.applied? = some applied) (registered : value.registration? = some a) :
    value.faults key = (["name", "url"].filter fun argument =>
      (textValue? a argument).isNone).map (.noArgument key) := by
  rw [Schema.EnumValue.faults, defined, registered]

/-- A value that can be read stands for a subgraph if its registration gives both texts, and is
faulty otherwise. -/
theorem reads_of_readable {applied : List Sdl.Application}
    (defined : value.applied? = some applied) (registered : value.registration? = some a)
    (readable : value.IsReadable) :
    Reads key value (match textValue? a "name", textValue? a "url" with
      | some name, some url => .ok (.ok ⟨key, name, url⟩)
      | none, some _ => .ok (.error [.noArgument key "name"])
      | some _, none => .ok (.error [.noArgument key "url"])
      | none, none => .ok (.error [.noArgument key "name", .noArgument key "url"])) := by
  have told : value.faults key = _ := faults_of_registration defined registered
  have wellFormed := isWellFormed_iff registered
  have faulty : ∀ faults, value.faults key = faults → ¬value.IsWellFormed →
      Reads key value (.ok (.error faults)) := by
    rintro _ rfl malformed
    exact .faulty readable malformed
  cases named : textValue? a "name" with
  | some name =>
    cases addressed : textValue? a "url" with
    | some url =>
      exact .subgraph ⟨a, registered, textValue?_eq_some_iff.1 named,
        textValue?_eq_some_iff.1 addressed⟩
    | none => exact faulty _ (by simp [told, named, addressed]) (by simp [wellFormed, addressed])
  | none =>
    cases addressed : textValue? a "url" with
    | some url => exact faulty _ (by simp [told, named, addressed]) (by simp [wellFormed, named])
    | none => exact faulty _ (by simp [told, named, addressed]) (by simp [wellFormed, named])

/-- What is read of a value. -/
theorem reads_subgraphOf (key : String) (value : Schema.EnumValue) :
    Reads key value (subgraphOf key value) := by
  cases defined : value.applied? with
  | none =>
    have unregistered := registration?_of_undefined defined
    have read : subgraphOf key value = .ok (.error (value.faults key)) := by
      rw [subgraphOf, Schema.EnumValue.faults, defined]
    rw [read]
    exact .faulty (isReadable_of_unregistered unregistered) (not_isWellFormed unregistered)
  | some applied =>
    cases listed : appliedAs "join__graph" applied with
    | nil =>
      have unregistered : value.registration? = none := by
        rw [registration?_eq defined, listed, List.head?_nil]
      have read : subgraphOf key value = .ok (.error (value.faults key)) := by
        rw [subgraphOf, Schema.EnumValue.faults, unregistered, defined]
        simp only [listed]
      rw [read]
      exact .faulty (isReadable_of_unregistered unregistered) (not_isWellFormed unregistered)
    | cons a rest =>
      have registered : value.registration? = some a := by
        rw [registration?_eq defined, listed, List.head?_cons]
      have called := name_of_registration registered
      simp only [subgraphOf, defined, listed]
      -- The name is looked at before the address.
      by_cases name : ArgumentKind.text.Admits (argument? a "name")
      · rw [textArgument_eq_ok_iff.2 ⟨name, rfl⟩]
        by_cases url : ArgumentKind.text.Admits (argument? a "url")
        · rw [textArgument_eq_ok_iff.2 ⟨url, rfl⟩]
          have readable : value.IsReadable := by
            rintro _ registeredToo
            obtain rfl := Option.some.inj (registered.symm.trans registeredToo)
            exact ⟨name, url⟩
          exact reads_of_readable defined registered readable
        · rw [textArgument_eq_error_iff.2 ⟨url, rfl⟩, called]
          exact .misread (.url registered name url)
      · rw [textArgument_eq_error_iff.2 ⟨name, rfl⟩, called]
        exact .misread (.name registered name)

/-- A value is misread when it cannot be read. -/
theorem isReadable_iff : value.IsReadable ↔ ∀ cause, ¬value.Misread cause := by
  constructor
  · rintro readable cause (⟨registered, wrong⟩ | ⟨registered, _, wrong⟩)
    · exact wrong (readable _ registered).1
    · exact wrong (readable _ registered).2
  · intro well a registered
    by_cases name : ArgumentKind.text.Admits (argument? a "name")
    · by_cases url : ArgumentKind.text.Admits (argument? a "url")
      · exact ⟨name, url⟩
      · exact absurd (.url registered name url) (well _)
    · exact absurd (.name registered name) (well _)

/-- A text that is given is of the right kind. -/
theorem isReadable_of_isWellFormed (wellFormed : value.IsWellFormed) : value.IsReadable := by
  obtain ⟨name, url, a, registered, named, addressed⟩ := wellFormed
  intro _ registeredToo
  obtain rfl := Option.some.inj (registered.symm.trans registeredToo)
  rw [named, addressed]
  constructor <;> simp [ArgumentKind.Admits, ArgumentKind.ofLiteral?]

/-- Only one argument is told of a value that is misread. -/
theorem misread_unique {other : WrongArgument} (first : value.Misread cause)
    (second : value.Misread other) : cause = other := by
  rcases first with ⟨registered, wrong⟩ | ⟨registered, fits, wrong⟩ <;>
    rcases second with ⟨registeredToo, wrongToo⟩ | ⟨registeredToo, fitsToo, wrongToo⟩ <;>
    obtain rfl := Option.some.inj (registered.symm.trans registeredToo)
  · rfl
  · exact absurd fitsToo wrong
  · exact absurd fits wrongToo
  · rfl

theorem subgraphOf_eq_error_iff : subgraphOf key value = .error cause ↔ value.Misread cause := by
  have reads := reads_subgraphOf key value
  constructor
  · intro failed
    rw [failed] at reads
    cases reads
    assumption
  · intro misread
    generalize subgraphOf key value = outcome at reads
    cases reads with
    | misread other => rw [misread_unique misread other]
    | subgraph registers =>
      have readable := isReadable_of_isWellFormed ⟨_, _, registers⟩
      exact absurd misread (isReadable_iff.1 readable cause)
    | faulty readable => exact absurd misread (isReadable_iff.1 readable cause)

theorem exists_subgraphOf_iff :
    (∃ outcome, subgraphOf key value = .ok outcome) ↔ value.IsReadable := by
  -- Both sides are denied: what is read is a failure exactly when an argument is misread.
  have failing : (∃ cause, subgraphOf key value = .error cause) ↔ ∃ cause, value.Misread cause :=
    exists_congr fun _ => subgraphOf_eq_error_iff
  rw [exists_error_iff] at failing
  rw [isReadable_iff, ← not_exists, ← failing, not_not]

/-- A value that is well formed is read as its subgraph. -/
theorem exists_subgraphOf_of_isWellFormed (wellFormed : value.IsWellFormed) (key : String) :
    ∃ s, subgraphOf key value = .ok (.ok s) ∧ s.key = key ∧ value.Registers s.name s.url := by
  have reads := reads_subgraphOf key value
  generalize subgraphOf key value = outcome at reads
  cases reads with
  | misread misread =>
    exact absurd misread (isReadable_iff.1 (isReadable_of_isWellFormed wellFormed) _)
  | subgraph registers => exact ⟨_, rfl, rfl, registers⟩
  | faulty _ malformed => exact absurd wellFormed malformed

/-! ### Faults -/

/-- The faults among what is read of a value. -/
def faultsIn : Except (List RegistryFault) Subgraph → List RegistryFault
  | .error faults => faults
  | .ok _ => []

/-- A value has no faults when it is well formed. -/
theorem faults_eq_nil_iff : value.faults key = [] ↔ value.IsWellFormed := by
  cases defined : value.applied? with
  | none =>
    have told : value.faults key = [.undefinedValue key] := by
      rw [Schema.EnumValue.faults, defined]
    rw [told]
    exact iff_of_false (by simp) (not_isWellFormed (registration?_of_undefined defined))
  | some applied =>
    cases registered : value.registration? with
    | none =>
      have told : value.faults key = [.noDirective key] := by
        rw [Schema.EnumValue.faults, defined, registered]
      rw [told]
      exact iff_of_false (by simp) (not_isWellFormed registered)
    | some a =>
      rw [faults_of_registration defined registered, isWellFormed_iff registered]
      simp [Option.ne_none_iff_isSome]

/-- The faults of a value are about the value. -/
theorem key_of_mem_faults {fault : RegistryFault} (member : fault ∈ value.faults key) :
    fault.key = key := by
  rw [Schema.EnumValue.faults] at member
  split at member
  next => rw [List.mem_singleton.1 member, RegistryFault.key]
  next => rw [List.mem_singleton.1 member, RegistryFault.key]
  next =>
    obtain ⟨argument, _, rfl⟩ := List.mem_map.1 member
    rw [RegistryFault.key]

/-- Every fault is told with its value. -/
theorem reports_message (fault : RegistryFault) : Reports fault.key fault.message := by
  cases fault with
  | undefinedValue key =>
    refine ⟨"enum value definition cannot be null", String.toList_injective ?_⟩
    simp [RegistryFault.message, RegistryFault.key, toString]
  | noDirective key =>
    refine ⟨"missing @join__graph", String.toList_injective ?_⟩
    simp [RegistryFault.message, RegistryFault.key, toString]
  | noArgument key argument =>
    refine ⟨"missing '" ++ argument ++ "' argument", String.toList_injective ?_⟩
    simp [RegistryFault.message, RegistryFault.key, toString]

/-- An argument of the wrong kind is told without its value. -/
theorem not_reports_wrongArgument : ¬Reports key cause.message := by
  rintro ⟨detail, same⟩
  have first := congrArg (fun text => text.toList.head?) same
  simp [WrongArgument.message, graphEnum, toString] at first

/-- The faults that are found are those of the values. -/
theorem exists_faultsIn_eq (readable : value.IsReadable) (key : String) :
    ∃ outcome, subgraphOf key value = .ok outcome ∧ value.faults key = faultsIn outcome := by
  have reads := reads_subgraphOf key value
  generalize subgraphOf key value = outcome at reads
  cases reads with
  | misread misread => exact absurd misread (isReadable_iff.1 readable _)
  | subgraph registers => exact ⟨_, rfl, faults_eq_nil_iff.2 ⟨_, _, registers⟩⟩
  | faulty => exact ⟨_, rfl, rfl⟩

/-! ### All values -/

/-- The faults of all values, in the order of the values. -/
def faultsOf (values : Table Schema.EnumValue) : List RegistryFault :=
  values.entries.flatMap fun v => v.2.faults v.1

theorem faultsOf_eq_nil_iff : faultsOf values = [] ↔ ∀ v ∈ values.entries, v.2.IsWellFormed := by
  simp only [faultsOf, List.flatMap_eq_nil_iff, faults_eq_nil_iff]

/-- The registry is made of what is read of the values, or its error is. -/
theorem registryOf_eq {read : List (Except (List RegistryFault) Subgraph)}
    (each : List.Forall₂ (fun v outcome => subgraphOf v.1 v.2 = .ok outcome) values.entries read) :
    registryOf values = if (read.flatMap faultsIn).isEmpty
      then .ok (Table.ofList (read.filterMap fun
        | .ok s => some (s.key, s)
        | .error _ => none))
      else .error (.faults (read.flatMap faultsIn)) := by
  rw [registryOf, mapM_except_eq_ok_iff.2 each]
  rfl

/-- Values that are all well formed make a registry with one subgraph for each. -/
theorem exists_registryOf (wellFormed : ∀ v ∈ values.entries, v.2.IsWellFormed) :
    ∃ subgraphs, registryOf values = .ok subgraphs ∧
      List.Forall₂ (fun v s => s.1 = v.1 ∧ s.2.key = v.1 ∧ v.2.Registers s.2.name s.2.url)
        values.entries subgraphs.entries := by
  obtain ⟨subgraphs, each⟩ := exists_forall₂_iff.2 fun v member =>
    exists_subgraphOf_of_isWellFormed (wellFormed v member) v.1
  have read : List.Forall₂ (fun v outcome => subgraphOf v.1 v.2 = .ok outcome) values.entries
      (subgraphs.map .ok) :=
    List.forall₂_map_right_iff.2 (each.imp fun _ _ found => found.1)
  -- The subgraphs have the keys of the values, so that storing them keeps all, in this order.
  have keys : values.keys = subgraphs.map Subgraph.key :=
    map_eq_map_of_forall₂ (each.imp fun _ _ found => found.2.1.symm)
  have named : (subgraphs.map fun s => (s.key, s)).map Prod.fst = values.keys := by
    rw [keys, List.map_map]
    rfl
  have faultless : (subgraphs.map .ok).flatMap faultsIn = [] := by
    simp [List.flatMap_map, faultsIn]
  refine ⟨Table.ofList (subgraphs.map fun s => (s.key, s)), ?_, ?_⟩
  · rw [registryOf_eq read, faultless]
    simp [List.filterMap_map]
  · rw [Table.entries_ofList (named ▸ values.nodup_keys), List.forall₂_map_right_iff]
    exact each.imp fun _ _ found => ⟨found.2.1, found.2⟩

/-- The faults of values that can all be read, and are not all well formed, are the error. -/
theorem registryOf_eq_of_readable (readable : ∀ v ∈ values.entries, v.2.IsReadable)
    (malformed : ¬∀ v ∈ values.entries, v.2.IsWellFormed) :
    registryOf values = .error (.faults (faultsOf values)) := by
  obtain ⟨read, each⟩ := exists_forall₂_iff.2 fun v member =>
    exists_faultsIn_eq (readable v member) v.1
  have collected : read.flatMap faultsIn = faultsOf values := by
    rw [faultsOf, List.flatMap, List.flatMap,
      map_eq_map_of_forall₂ (each.imp fun _ _ found => found.2)]
  rw [registryOf_eq (each.imp fun _ _ found => found.1), collected, if_neg]
  rwa [List.isEmpty_iff, faultsOf_eq_nil_iff]

/-- The first value that is misread ends the reading. -/
theorem registryOf_eq_of_misread {before after : List (String × Schema.EnumValue)}
    {v : String × Schema.EnumValue} (listed : values.entries = before ++ v :: after)
    (readable : ∀ w ∈ before, w.2.IsReadable) (misread : v.2.Misread cause) :
    registryOf values = .error (.wrongArgument cause) := by
  have failed : values.entries.mapM (fun v => subgraphOf v.1 v.2) = .error cause :=
    mapM_except_eq_error_iff.2 ⟨before, v, after, listed,
      fun w member => exists_subgraphOf_iff.2 (readable w member),
      subgraphOf_eq_error_iff.2 misread⟩
  rw [registryOf, failed]
  rfl

/-- Unless all values can be read, there is a first that is misread. -/
theorem exists_first_misread (unreadable : ¬∀ v ∈ values.entries, v.2.IsReadable) :
    ∃ before v after cause, values.entries = before ++ v :: after ∧
      (∀ w ∈ before, w.2.IsReadable) ∧ v.2.Misread cause := by
  -- A list of readings that fails has a first that does.
  have failing : ¬∃ read, values.entries.mapM (fun v => subgraphOf v.1 v.2) = .ok read := by
    simpa only [mapM_except_eq_ok_iff, exists_forall₂_iff, exists_subgraphOf_iff] using unreadable
  obtain ⟨cause, failed⟩ := exists_error_iff.2 failing
  obtain ⟨before, v, after, listed, done, stopped⟩ := mapM_except_eq_error_iff.1 failed
  exact ⟨before, v, after, cause, listed,
    fun w member => exists_subgraphOf_iff.1 (done w member), subgraphOf_eq_error_iff.1 stopped⟩

/-- Values that are not all well formed make no registry. -/
theorem exists_registryOf_error (malformed : ¬∀ v ∈ values.entries, v.2.IsWellFormed) :
    ∃ e, registryOf values = .error e := by
  by_cases readable : ∀ v ∈ values.entries, v.2.IsReadable
  · exact ⟨_, registryOf_eq_of_readable readable malformed⟩
  · obtain ⟨_, _, _, _, listed, before, misread⟩ := exists_first_misread readable
    exact ⟨_, registryOf_eq_of_misread listed before misread⟩

/-- Every value that is not well formed is told of exactly when all values can be read. -/
theorem reports_all_iff {e : RegistryError} (failed : registryOf values = .error e) :
    (∀ v ∈ values.entries, ¬v.2.IsWellFormed → ∃ m ∈ e.messages, Reports v.1 m) ↔
      ∀ v ∈ values.entries, v.2.IsReadable := by
  constructor
  · intro told
    by_contra unreadable
    -- The first value that is misread is not well formed, but the only message is not about it.
    obtain ⟨before, v, after, cause, listed, readable, misread⟩ := exists_first_misread unreadable
    have stopped := registryOf_eq_of_misread listed readable misread
    obtain rfl := Except.error.inj (failed.symm.trans stopped)
    have malformed : ¬v.2.IsWellFormed := fun wellFormed =>
      isReadable_iff.1 (isReadable_of_isWellFormed wellFormed) cause misread
    obtain ⟨m, member, about⟩ := told v (by simp [listed]) malformed
    rw [RegistryError.messages, List.mem_singleton] at member
    exact not_reports_wrongArgument (member ▸ about)
  · intro readable v member malformed
    have collected := registryOf_eq_of_readable readable fun all => malformed (all v member)
    obtain rfl := Except.error.inj (failed.symm.trans collected)
    -- A value that is not well formed has a fault, which is among those of all values.
    obtain ⟨fault, found⟩ :=
      List.exists_mem_of_ne_nil _ (mt faults_eq_nil_iff.1 malformed)
    refine ⟨fault.message, List.mem_map_of_mem (List.mem_flatMap.2 ⟨v, member, found⟩), ?_⟩
    exact key_of_mem_faults found ▸ reports_message fault

theorem registry?_eq {schema : Schema} (declared : schema.body? graphEnum = some (.enum values)) :
    registry? schema = (registryOf values).map some := by
  rw [Join.registry?, declared]

end Join

/-- If all values of the enum of graphs are well formed, the registry has one subgraph for each, in
the order of the values, with its name and its address. Otherwise there is none. If all values can
be read, the error has all faults of all values, and if not, it has nothing but the argument of the
first value that is misread. So every value that is not well formed is told of exactly when all
values can be read. -/
theorem registry_reports_iff {schema : Schema} {values : Table Schema.EnumValue}
    (declared : schema.body? Join.graphEnum = some (.enum values)) :
    ((∀ v ∈ values.entries, v.2.IsWellFormed) →
      ∃ subgraphs, Join.registry? schema = .ok (some subgraphs) ∧
        List.Forall₂ (fun v s => s.1 = v.1 ∧ s.2.key = v.1 ∧ v.2.Registers s.2.name s.2.url)
          values.entries subgraphs.entries) ∧
    ((¬∀ v ∈ values.entries, v.2.IsWellFormed) →
      ∃ e, Join.registry? schema = .error e ∧
        ((∀ v ∈ values.entries, v.2.IsReadable) → e = .faults (Join.faultsOf values)) ∧
        (∀ before v after cause, values.entries = before ++ v :: after →
          (∀ w ∈ before, w.2.IsReadable) → v.2.Misread cause → e = .wrongArgument cause) ∧
        ((∀ v ∈ values.entries, ¬v.2.IsWellFormed → ∃ m ∈ e.messages, Join.Reports v.1 m) ↔
          ∀ v ∈ values.entries, v.2.IsReadable)) := by
  rw [Join.registry?_eq declared]
  constructor
  · intro wellFormed
    obtain ⟨subgraphs, made, each⟩ := Join.exists_registryOf wellFormed
    exact ⟨subgraphs, by rw [made, Except.map], each⟩
  · intro malformed
    obtain ⟨e, failed⟩ := Join.exists_registryOf_error malformed
    refine ⟨e, by rw [failed, Except.map], fun readable => ?_, ?_, Join.reports_all_iff failed⟩
    · have collected := Join.registryOf_eq_of_readable readable malformed
      exact Except.error.inj (failed.symm.trans collected)
    · intro before v after cause listed readable misread
      have stopped := Join.registryOf_eq_of_misread listed readable misread
      exact Except.error.inj (failed.symm.trans stopped)

/-- Graphs of space travel: a value without a registration, one without a name, one without a
definition, and one that is well formed. -/
def crewValues : Table Schema.EnumValue :=
  Table.ofList
    [("ASTRONAUTS", ⟨some []⟩),
      ("MISSIONS", ⟨some [⟨"join__graph", [("url", .string "http://missions")]⟩]⟩),
      ("ROCKETS", ⟨none⟩),
      ("CREW", ⟨some [⟨"join__graph",
        [("name", .string "crew"), ("url", .string "http://crew")]⟩]⟩)]

/-- A schema with these graphs and nothing else. -/
def crewSchema : Schema where
  types := Table.ofList [("join__Graph", ⟨none, [], .enum crewValues⟩)]
  roots := []
  directives := []

/-- The values can all be read, and every one that is not well formed is told of. -/
theorem crewSchema_reports_faults :
    crewSchema.body? Join.graphEnum = some (.enum crewValues) ∧
    ∃ e, Join.registry? crewSchema = .error e ∧
      e.messages = ["join__Graph.ASTRONAUTS: missing @join__graph",
        "join__Graph.MISSIONS: missing 'name' argument",
        "join__Graph.ROCKETS: enum value definition cannot be null"] ∧
      ∀ v ∈ crewValues.entries, ¬v.2.IsWellFormed → ∃ m ∈ e.messages, Join.Reports v.1 m := by
  have declared : crewSchema.body? Join.graphEnum = some (.enum crewValues) := rfl
  obtain ⟨_, incomplete⟩ := registry_reports_iff declared
  have malformed : ¬∀ v ∈ crewValues.entries, v.2.IsWellFormed := fun wellFormed =>
    Join.not_isWellFormed rfl (wellFormed ("ASTRONAUTS", ⟨some []⟩) (.head _))
  have readable : ∀ v ∈ crewValues.entries, v.2.IsReadable := by
    have each : ∀ v ∈ crewValues.entries, ∃ outcome, Join.subgraphOf v.1 v.2 = .ok outcome :=
      exists_forall₂_iff.1 ⟨_, mapM_except_eq_ok_iff.1 rfl⟩
    exact fun v member => Join.exists_subgraphOf_iff.1 (each v member)
  obtain ⟨e, failed, collected, _, told⟩ := incomplete malformed
  refine ⟨declared, e, failed, ?_, told.2 readable⟩
  rw [collected readable]
  rfl

/-- The value of the enum of graphs that has a name. -/
def Join.graphValue? (schema : Schema) (key : String) : Option Schema.EnumValue :=
  match schema.body? graphEnum with
  | some (.enum values) => values.get? key
  | _ => none

theorem Join.graphValue?_eq_some_iff {schema : Schema} {key : String} {value : Schema.EnumValue} :
    graphValue? schema key = some value ↔ ∃ values,
      schema.body? graphEnum = some (.enum values) ∧ values.get? key = some value := by
  rw [graphValue?]
  cases schema.body? graphEnum with
  | none => simp
  | some body => cases body <;> simp

/-- A supergraph with two values that are not well formed: the name of the first is a number, and
the second is not registered. -/
def muddledText : String := String.join
  ["type Query \x7b ping: Int \x7d\n",
    "enum join__Graph \x7b ASTRONAUTS @join__graph(name: 1, url: \"a\")\n",
    "  MISSIONS \x7d\n",
    "directive @join__graph(name: String, url: String) on ENUM_VALUE\n"]

/-- The value that is not registered is not told of. -/
theorem muddledText_misses_value : ∃ schema values value e,
    Schema.load muddledText = .ok schema ∧
    schema.body? Join.graphEnum = some (.enum values) ∧
    values.get? "MISSIONS" = some value ∧ ¬value.IsWellFormed ∧
    Join.registry? schema = .error e ∧
    e.messages = ["@join__graph argument 'name' must be a string"] ∧
    ¬∃ m ∈ e.messages, Join.Reports "MISSIONS" m := by
  have computed : ((Schema.load muddledText).toOption.any fun schema =>
      ((Join.graphValue? schema "MISSIONS").any fun v => v.registration?.isNone) &&
        Join.registry? schema = .error (.wrongArgument ⟨"join__graph", "name", .text⟩)) = true := by
    -- The characters are taken line by line, so that no long text is decoded.
    rewrite [Schema.load, Sdl.readDocument, Sdl.Reading.ofText, Sdl.tokens, muddledText,
      String.toList_join]
    decide +kernel
  obtain ⟨schema, loaded, facts⟩ := (Option.any_eq_true _ _).1 computed
  simp only [Bool.and_eq_true, decide_eq_true_eq] at facts
  obtain ⟨among, failed⟩ := facts
  obtain ⟨value, found, unregistered⟩ := (Option.any_eq_true _ _).1 among
  obtain ⟨values, declared, present⟩ := Join.graphValue?_eq_some_iff.1 found
  refine ⟨schema, values, value, _, toOption_eq_some_iff.1 loaded, declared, present,
    Join.not_isWellFormed (Option.isNone_iff_eq_none.1 unregistered), failed, rfl, ?_⟩
  rintro ⟨m, member, about⟩
  rw [Join.RegistryError.messages, List.mem_singleton] at member
  exact Join.not_reports_wrongArgument (member ▸ about)

end Supergraph
