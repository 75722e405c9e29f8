import Supergraph.Command.Run
import Supergraph.Proofs.Gateway

/-!
# What commands report

A command that runs on a tree ends with the code zero, with the code one after a report, or with a
problem that it does not report. The problems that escape are those of a configuration that is not
read, of a gateway or a supergraph, and of a project that cannot be started.

## Main definitions

* `BadConfig`, `Command.BadStart` — the cases in which a configuration is not read or written
* `Command.Resolves` — the project that a command works on
* `Command.Outcome.IsReported`, `Command.Outcome.IsBroken` — how runs end
* `Command.Escapes` — the cases in which a command ends with a problem that it does not report

## Main results

* `Command.looks_loadConfig`, `Command.looks_resolveProject` — configurations and projects
* `Command.breaksWhen_initialise` — starting a project
* `Command.run_reports_iff` — all commands
-/

namespace Supergraph

open Yaml (Data)

variable {t : FileTree}

/-! ### Configurations -/

/-- The configuration that the file at a path says, or none when nothing lies there. -/
def FileTree.Configures (t : FileTree) (path : Path) (found : Option Config) : Prop :=
  t.kindOf path = .ok none ∧ none = found ∨ ∃ text, t.Says path text ∧
    ∃ config, Config.ofText path.text text = .ok config ∧ some config = found

/-- What lies at a path is not read as a configuration, and no command reports why. -/
inductive BadConfig (t : FileTree) (path : Path) : Prop
  /-- Looking at the path is refused, since a name in it is too long. -/
  | refused {fault : FileFault} (refused : t.kindOf path = .error fault)
  | directory (found : t.kindOf path = .ok (some .directory))
  /-- What the file holds is no text. -/
  | undecodable (read : t.read path = .ok none)
  /-- The text is no YAML. -/
  | malformed {text : String} {fault : Yaml.Fault} (said : t.Says path text)
      (refused : Config.ofText path.text text = .error (.yaml fault))
  /-- What would be reported holds an integer of too many digits. -/
  | tooLong {text : String} (said : t.Says path text)
      (refused : Config.ofText path.text text = .error .tooLong)

namespace Command

/-- What lies at the path of a configuration is read as one. Why it is none is reported when its
members are wrong or it is no mapping. -/
theorem looks_loadConfig (path : Path) :
    Looks (loadConfig path) t (t.Configures path) (BadConfig t path) := by
  have both : Looks (loadConfig path) t
      (fun found => ∃ kind, t.kindOf path = .ok kind ∧ (kind = none ∧ none = found ∨
        kind ≠ none ∧ ∃ text, t.Says path text ∧
          ∃ config, Config.ofText path.text text = .ok config ∧ some config = found))
      ((∃ fault, t.kindOf path = .error fault) ∨ ∃ kind, t.kindOf path = .ok kind ∧ kind ≠ none ∧
        (((∃ fault, t.read path = .error fault) ∨ t.read path = .ok none) ∨
          ∃ text, t.Says path text ∧ ∃ cause, Config.ofText path.text text = .error cause ∧
            (Problem.config cause).isReported = false)) := by
    refine (looks_kindOf path).bind fun kind _ => ?_
    -- Nothing at the path is no configuration, and anything else is read as one.
    cases kind with
    | none => exact (looks_pure none).congr (by simp) (by simp)
    | some kind =>
      have rest := (looks_readText path).bind fun text _ =>
        (looks_check (t := t) .config (Config.ofText path.text text)).bind fun config _ =>
          looks_pure (some config)
      exact rest.congr (by simp) (by simp)
  refine both.congr (fun found => ?_) ?_
  · constructor
    · rintro ⟨kind, present, ⟨rfl, same⟩ | ⟨_, said⟩⟩
      · exact .inl ⟨present, same⟩
      · exact .inr said
    · rintro (⟨absent, same⟩ | ⟨text, said, rest⟩)
      · exact ⟨none, absent, .inl ⟨rfl, same⟩⟩
      · exact ⟨_, said.kindOf_eq, .inr ⟨by simp, text, said, rest⟩⟩
  · constructor
    · rintro (⟨fault, refused⟩ | ⟨kind, present, something, (unread | undecodable) |
        ⟨text, said, cause, wrong, unreported⟩⟩)
      · exact .refused refused
      · obtain ⟨kind, rfl⟩ := Option.ne_none_iff_exists'.1 something
        obtain rfl := (FileTree.exists_read_error_iff present).1 unread
        exact .directory present
      · exact .undecodable undecodable
      · cases cause with
        | yaml => exact .malformed said wrong
        | tooLong => exact .tooLong said wrong
        | _ => cases unreported
    · rintro (refused | directory | undecodable | ⟨said, refused⟩ | ⟨said, refused⟩)
      · exact .inl ⟨_, refused⟩
      · have unread := (FileTree.exists_read_error_iff directory).2 rfl
        exact .inr ⟨_, directory, by simp, .inl (.inl unread)⟩
      · have file := FileTree.kindOf_eq_file_iff.2 ⟨_, undecodable⟩
        exact .inr ⟨_, file, by simp, .inl (.inr undecodable)⟩
      · exact .inr ⟨_, said.kindOf_eq, by simp, .inr ⟨_, said, _, refused, rfl⟩⟩
      · exact .inr ⟨_, said.kindOf_eq, by simp, .inr ⟨_, said, _, refused, rfl⟩⟩

/-- The project that a command works on: that of the configuration at the path that has been set, or
the usual one when nothing lies there. -/
def Resolves (t : FileTree) (s : Settings) (project : Project) : Prop :=
  ∃ name found, s.config = some name ∧ t.Configures (.ofText name) found ∧
    s.project (found.getD (.ofProject (.text (t.home.head?.getD "")))) = project

/-- The project of a command is found unless no path has been set or the configuration there is not
read. -/
theorem looks_resolveProject (s : Settings) :
    Looks (resolveProject s) t (Resolves t s)
      (s.config = none ∨ ∃ name, s.config = some name ∧ BadConfig t (.ofText name)) := by
  cases named : s.config with
  | none =>
    rw [resolveProject, named]
    exact (looks_throw noPath).congr (by simp [Resolves, named])
      (by simp [noPath, Problem.isReported])
  | some name =>
    have both : Looks (resolveProject s) t
        (fun project => ∃ found, t.Configures (.ofText name) found ∧
          s.project (found.getD (.ofProject (.text (t.home.head?.getD "")))) = project)
        (BadConfig t (.ofText name) ∨ ∃ found, t.Configures (.ofText name) found ∧ False) := by
      rw [resolveProject, named]
      refine (looks_loadConfig (.ofText name)).bind fun found _ => ?_
      cases found with
      -- The usual project is called like the directory that the command runs in.
      | none => exact ⟨.ok _, fun log => ⟨log, rfl⟩, by simp, by simp⟩
      | some config => exact looks_pure _
    exact both.congr (by simp [Resolves, named]) (by simp)

/-! ### Outcomes -/

/-- A run ends with the code zero, or with the code one after a line that begins as reports of
errors do. -/
def Outcome.IsReported (o : Outcome) : Prop :=
  o.ending = .exit 0 ∨ o.ending = .exit 1 ∧ ∃ rest, o.output = "Error: " ++ rest

/-- A run ends with a problem that is not reported. -/
def Outcome.IsBroken (o : Outcome) : Prop :=
  ∃ problem, o.ending = .broken problem

/-- A run is broken in a bad case and reported otherwise. -/
def Outcome.BreaksWhen (o : Outcome) (bad : Prop) : Prop :=
  o.IsReported ∧ ¬bad ∨ o.IsBroken ∧ bad

theorem Outcome.IsReported.not_isBroken {o : Outcome} (reported : o.IsReported) : ¬o.IsBroken := by
  rintro ⟨problem, broken⟩
  rcases reported with ending | ⟨ending, _⟩ <;> cases ending.symm.trans broken

/-- Work is reported unless it ends with a problem that no command reports. -/
theorem breaksWhen_ofWork {α : Type} (verbosity : Nat) (output : α → String)
    (work : Except Problem α × List Event) :
    (Outcome.ofWork verbosity output work).BreaksWhen (Breaks work.1) := by
  obtain ⟨result, events⟩ := work
  rw [Outcome.ofWork]
  cases result with
  | ok a => exact .inl ⟨.inl rfl, not_breaks_ok⟩
  | error problem =>
    simp only
    cases reported : problem.isReported with
    | true => exact .inl ⟨.inr ⟨rfl, _, String.append_assoc ..⟩, by simp [reported]⟩
    | false => exact .inr ⟨⟨problem, rfl⟩, by simp [reported]⟩

/-! ### Starting a project -/

/-- The text of the configuration that is written for a new project. -/
def Settings.usualText (s : Settings) (home : String) : String :=
  (Config.ofProject (.text (if (s.name.getD "").isEmpty then home else s.name.getD ""))).text

/-- A project is not started, and the problem is not reported. -/
inductive BadStart (t : FileTree) (s : Settings) : Prop
  /-- Something that is no path has been set for the configuration. -/
  | unset (unset : s.config = none)
  /-- Looking at the path is refused, since a name in it is too long. -/
  | refused {name : String} {fault : FileFault} (named : s.config = some name)
      (refused : t.kindOf (.ofText name) = .error fault)
  /-- No file can be put at the path, and what lies there need not be kept. -/
  | barred {name : String} (named : s.config = some name)
      (fresh : t.kindOf (.ofText name) = .ok none ∨ s.force = true)
      (barred : t.IsBarred (.ofText name))
  /-- The directory of the gateway cannot be made when the configuration has been written. -/
  | output {name : String} {t' : FileTree} {fault : FileFault} (named : s.config = some name)
      (fresh : t.kindOf (.ofText name) = .ok none ∨ s.force = true)
      (written : t.write (.ofText name) (s.usualText (t.home.head?.getD "")) = .ok t')
      (refused : t'.makeDirectory (.ofText Config.usualOutput) = .error fault)

section Start

variable {s : Settings} {name : String} {fault : FileFault} {kind : Option FileKind}
  {t' : FileTree}

/-- A configuration that is there is kept, and this is reported. -/
theorem isReported_initialise_of_stale {found : FileKind} (named : s.config = some name)
    (present : t.kindOf (.ofText name) = .ok (some found)) (kept : s.force = false) :
    ((initialise s : StateM FileTree _).run t).1.IsReported := by
  have looked : (FileSystem.kindOf (.ofText name) : StateM FileTree _).run t =
      (.ok (some found), t) := present ▸ rfl
  rw [initialise, named]
  simp only
  rw [run_bind_of_run looked]
  simp only [kept]
  exact .inr ⟨rfl, _, String.append_assoc ..⟩

/-- When no configuration is kept, it is written and the directory of the gateway is made. -/
theorem ending_initialise_of_fresh (named : s.config = some name)
    (found : t.kindOf (.ofText name) = .ok kind) (fresh : kind = none ∨ s.force = true) :
    ((initialise s : StateM FileTree _).run t).1.ending =
      match t.write (.ofText name) (s.usualText (t.home.head?.getD "")) with
      | .error fault => .broken (.file fault)
      | .ok t' =>
        match t'.makeDirectory (.ofText Config.usualOutput) with
        | .error fault => .broken (.file fault)
        | .ok _ => .exit 0 := by
  have looked : (FileSystem.kindOf (.ofText name) : StateM FileTree _).run t = (.ok kind, t) :=
    found ▸ rfl
  have home : (FileSystem.homeName : StateM FileTree _).run t = (t.home.head?.getD "", t) := rfl
  have goesOn : (kind.isSome && !s.force) = false := by
    rcases fresh with rfl | forced
    · rfl
    · simp [forced]
  rw [initialise, named]
  simp only
  rw [run_bind_of_run looked]
  simp only [goesOn, Bool.false_eq_true, if_false]
  rw [run_bind_of_run home, Settings.usualText]
  -- What the text says does not matter to whether it is written.
  generalize (Config.ofProject (.text _)).text = text
  cases written : t.write (.ofText name) text with
  | error fault =>
    have wrote : (FileSystem.write (.ofText name) text : StateM FileTree _).run t =
        (.error fault, t) := run_updateTree_of_error written
    rw [run_bind_of_run wrote]
    rfl
  | ok t' =>
    have wrote : (FileSystem.write (.ofText name) text : StateM FileTree _).run t =
        (.ok (), t') := run_updateTree_of_ok written
    rw [run_bind_of_run wrote]
    simp only
    cases made : t'.makeDirectory (.ofText Config.usualOutput) with
    | error fault =>
      have refused : (FileSystem.makeDirectory (.ofText Config.usualOutput) :
          StateM FileTree _).run t' = (.error fault, t') := run_updateTree_of_error made
      rw [run_bind_of_run refused]
      rfl
    | ok t'' =>
      have done : (FileSystem.makeDirectory (.ofText Config.usualOutput) :
          StateM FileTree _).run t' = (.ok (), t'') := run_updateTree_of_ok made
      rw [run_bind_of_run done]
      rfl

/-- When the path can be looked at, and the files can be made unless the configuration is kept, this
is no bad start. -/
theorem not_badStart (named : s.config = some name) (found : t.kindOf (.ofText name) = .ok kind)
    (fine : kind = none ∨ s.force = true → ∃ t' t'',
      t.write (.ofText name) (s.usualText (t.home.head?.getD "")) = .ok t' ∧
        t'.makeDirectory (.ofText Config.usualOutput) = .ok t'') : ¬BadStart t s := by
  have same : ∀ {other}, s.config = some other → other = name := by
    intro other namedToo
    exact Option.some.inj (namedToo.symm.trans named)
  have goesOn : t.kindOf (.ofText name) = .ok none ∨ s.force = true →
      kind = none ∨ s.force = true :=
    Or.imp_left fun absent => Except.ok.inj (found.symm.trans absent)
  rintro (unset | ⟨namedToo, refused⟩ | ⟨namedToo, fresh, barred⟩ |
    ⟨namedToo, fresh, writtenToo, refused⟩)
  · cases unset.symm.trans named
  · obtain rfl := same namedToo
    cases refused.symm.trans found
  · obtain rfl := same namedToo
    obtain ⟨t', _, written, _⟩ := fine (goesOn fresh)
    exact FileTree.exists_write_iff.1 ⟨t', written⟩ barred
  · obtain rfl := same namedToo
    obtain ⟨t', _, written, made⟩ := fine (goesOn fresh)
    cases written.symm.trans writtenToo
    cases made.symm.trans refused

/-- A project is started, or the problem is reported, unless no file or directory can be made where
they belong. -/
theorem breaksWhen_initialise (s : Settings) :
    ((initialise s : StateM FileTree _).run t).1.BreaksWhen (BadStart t s) := by
  cases named : s.config with
  | none =>
    refine .inr ⟨⟨noPath, ?_⟩, .unset named⟩
    rw [initialise, named]
    rfl
  | some name =>
    cases found : t.kindOf (.ofText name) with
    | error fault =>
      have looked : (FileSystem.kindOf (.ofText name) : StateM FileTree _).run t =
          (.error fault, t) := found ▸ rfl
      refine .inr ⟨⟨.file fault, ?_⟩, .refused named found⟩
      rw [initialise, named]
      simp only
      rw [run_bind_of_run looked]
      rfl
    | ok kind =>
      by_cases fresh : kind = none ∨ s.force = true
      · have ending := ending_initialise_of_fresh named found fresh
        have freshToo : t.kindOf (.ofText name) = .ok none ∨ s.force = true :=
          fresh.imp_left fun (absent : kind = none) => absent ▸ found
        cases written : t.write (.ofText name) (s.usualText (t.home.head?.getD "")) with
        | error fault =>
          have barred : t.IsBarred (.ofText name) := by
            by_contra free
            obtain ⟨t', made⟩ := FileTree.exists_write_iff.2 free
            cases written.symm.trans made
          rw [written] at ending
          exact .inr ⟨⟨_, ending⟩, .barred named freshToo barred⟩
        | ok t' =>
          cases made : t'.makeDirectory (.ofText Config.usualOutput) with
          | error fault =>
            simp only [written, made] at ending
            exact .inr ⟨⟨_, ending⟩, .output named freshToo written made⟩
          | ok t'' =>
            simp only [written, made] at ending
            exact .inl ⟨.inl ending, not_badStart named found fun _ => ⟨t', t'', written, made⟩⟩
      · obtain ⟨something, kept⟩ := not_or.1 fresh
        obtain ⟨there, rfl⟩ := Option.ne_none_iff_exists'.1 something
        have reported := isReported_initialise_of_stale named found (Bool.not_eq_true _ ▸ kept)
        exact .inl ⟨reported, not_badStart named found fun again => absurd again fresh⟩

end Start

/-! ### All commands -/

/-- A command ends with a problem that it does not report. -/
inductive Escapes (t : FileTree) : Invocation → Prop
  /-- Something that is no path has been set for the configuration. -/
  | unset {i : Invocation} (reads : i.verb ≠ .init) (unset : i.settings.config = none) : Escapes t i
  | config {i : Invocation} {name : String} (reads : i.verb ≠ .init)
      (named : i.settings.config = some name) (bad : BadConfig t (.ofText name)) : Escapes t i
  | generate {s : Settings} {project : Project} (resolved : Resolves t s project)
      (bad : BadGateway t project) : Escapes t ⟨.generate, s⟩
  | plan {s : Settings} {project : Project} (resolved : Resolves t s project)
      (bad : BadSupergraph t project.supergraph) : Escapes t ⟨.plan, s⟩
  | init {s : Settings} (bad : BadStart t s) : Escapes t ⟨.init, s⟩

theorem Outcome.BreaksWhen.congr {o : Outcome} {bad bad' : Prop} (breaks : o.BreaksWhen bad)
    (same : bad ↔ bad') : o.BreaksWhen bad' :=
  breaks.imp (And.imp_right (mt same.2)) (And.imp_right same.1)

/-- Commands that first look for their project break when it is not found, and when their work on it
does. -/
theorem breaksWhen_project {α : Type} (s : Settings) (verbosity : Nat) (output : α → String)
    {work : Project → Work (StateM FileTree) α} {bad : Project → Prop}
    (breaks : ∀ project log, Breaks ((work project).runOn log t).1.1 ↔ bad project) :
    (Outcome.ofWork verbosity output ((resolveProject s >>= work).runOn [] t).1).BreaksWhen
      ((s.config = none ∨ ∃ name, s.config = some name ∧ BadConfig t (.ofText name)) ∨
        ∃ project, Resolves t s project ∧ bad project) := by
  refine (breaksWhen_ofWork verbosity output _).congr ?_
  -- A project that is found is the only one, so that breaking on some project is breaking on it.
  obtain ⟨result, ran, gives, unresolved⟩ := looks_resolveProject (t := t) s
  obtain ⟨log, ran⟩ := ran []
  cases result with
  | error problem =>
    have nothing : ∀ project, ¬Resolves t s project := by
      intro project resolved
      cases (gives project).2 resolved
    rw [runOn_bind_of_error ran, ← unresolved]
    simp [nothing]
  | ok project =>
    have only : ∀ other, Resolves t s other ↔ other = project := by
      intro other
      rw [← gives, Except.ok.injEq, eq_comm]
    rw [runOn_bind_of_ok ran, breaks, ← unresolved]
    simp [only]

/-- A plan is shown, or the problem is reported, unless the supergraph is not read at all. -/
theorem breaks_render_iff (project : Project) (log : List Event) :
    Breaks ((do
        return Document.render (← compileFile project.supergraph) project.planFormat :
          Work (StateM FileTree) String).runOn log t).1.1 ↔
      BadSupergraph t project.supergraph := by
  have work := (looks_compileFile (t := t) project.supergraph).bind fun plan _ =>
    looks_pure (Document.render plan project.planFormat)
  obtain ⟨result, ran, _, breaks⟩ := work
  obtain ⟨log', ran⟩ := ran log
  rw [ran, breaks]
  simp

/-- A command ends with a problem that it does not report in exactly the cases that are listed. -/
theorem breaksWhen_run (i : Invocation) :
    ((i.run : StateM FileTree _).run t).1.BreaksWhen (Escapes t i) := by
  obtain ⟨verb, s⟩ := i
  cases verb with
  | init =>
    refine (breaksWhen_initialise s).congr ⟨.init, ?_⟩
    rintro (⟨reads, _⟩ | ⟨reads, _, _⟩ | _ | _ | bad)
    · exact absurd rfl reads
    · exact absurd rfl reads
    · exact bad
  | generate =>
    have breaks := breaksWhen_project (t := t) s s.verbosity gatewayReport breaks_generate_iff
    refine Outcome.BreaksWhen.congr breaks ?_
    constructor
    · rintro ((unset | ⟨name, named, bad⟩) | ⟨project, resolved, bad⟩)
      · exact .unset (by simp) unset
      · exact .config (by simp) named bad
      · exact .generate resolved bad
    · rintro (⟨_, unset⟩ | ⟨_, named, bad⟩ | ⟨resolved, bad⟩)
      · exact .inl (.inl unset)
      · exact .inl (.inr ⟨_, named, bad⟩)
      · exact .inr ⟨_, resolved, bad⟩
  | plan =>
    have breaks := breaksWhen_project (t := t) s s.verbosity id breaks_render_iff
    refine Outcome.BreaksWhen.congr breaks ?_
    constructor
    · rintro ((unset | ⟨name, named, bad⟩) | ⟨project, resolved, bad⟩)
      · exact .unset (by simp) unset
      · exact .config (by simp) named bad
      · exact .plan resolved bad
    · rintro (⟨_, unset⟩ | ⟨_, named, bad⟩ | _ | ⟨resolved, bad⟩)
      · exact .inl (.inl unset)
      · exact .inl (.inr ⟨_, named, bad⟩)
      · exact .inr ⟨_, resolved, bad⟩

/-- A command line that is understood ends with the code zero, or with the code one after a report,
exactly when no problem escapes; and when one does, the run ends with it. -/
theorem run_reports_iff (arguments : List String) (i : Invocation)
    (understood : Invocation.ofArguments arguments = .ok i) (t : FileTree) :
    (((run arguments : StateM FileTree _).run t).1.IsReported ↔ ¬Escapes t i) ∧
      (((run arguments : StateM FileTree _).run t).1.IsBroken ↔ Escapes t i) := by
  have breaks : ((run arguments : StateM FileTree _).run t).1.BreaksWhen (Escapes t i) := by
    rw [run, understood]
    exact breaksWhen_run i
  rcases breaks with ⟨reported, fine⟩ | ⟨broken, escapes⟩
  · exact ⟨by simp [reported, fine], by simp [reported.not_isBroken, fine]⟩
  · have unreported : ¬((run arguments : StateM FileTree _).run t).1.IsReported :=
      fun reported => reported.not_isBroken broken
    exact ⟨by simp [unreported, escapes], by simp [broken, escapes]⟩

theorem shopTree_reports_plan : ∃ i, Invocation.ofArguments ["plan", "-s", "shop.graphql"] = .ok i ∧
    ((run ["plan", "-s", "shop.graphql"] : StateM FileTree _).run (shopTree [])).1.IsReported ∧
    ¬Escapes (shopTree []) i := by
  have computed : (match ((run ["plan", "-s", "shop.graphql"] :
      StateM FileTree _).run (shopTree [])).1 with
    | ⟨_, _, .exit code⟩ => code == 0
    | ⟨_, _, .broken _⟩ => false) = true := by decide +kernel
  have understood : Invocation.ofArguments ["plan", "-s", "shop.graphql"] =
      .ok ⟨.plan, { supergraph := some "shop.graphql" }⟩ := by decide +kernel
  have reported : ((run ["plan", "-s", "shop.graphql"] :
      StateM FileTree _).run (shopTree [])).1.IsReported := by
    refine .inl ?_
    split at computed
    next ended =>
      rw [ended, beq_iff_eq.1 computed]
    next => cases computed
  exact ⟨_, understood, reported, (run_reports_iff _ _ understood _).1.1 reported⟩

/-- A tree whose configuration is no YAML. -/
def malformedTree : FileTree :=
  ⟨[([Config.fileName], .file (some "["))], []⟩

theorem malformedTree_breaks_generate : ∃ i problem,
    Invocation.ofArguments ["generate"] = .ok i ∧
    ((run ["generate"] : StateM FileTree _).run malformedTree).1.ending = .broken problem ∧
    ((run ["generate"] : StateM FileTree _).run malformedTree).1.output = "" := by
  have understood : Invocation.ofArguments ["generate"] = .ok ⟨.generate, {}⟩ := by decide +kernel
  have computed : (match ((run ["generate"] : StateM FileTree _).run malformedTree).1 with
    | ⟨output, _, .broken _⟩ => output == ""
    | ⟨_, _, .exit _⟩ => false) = true := by decide +kernel
  split at computed
  next ended =>
    refine ⟨_, _, understood, by rw [ended], ?_⟩
    rw [ended, beq_iff_eq.1 computed]
  next => cases computed

end Command

end Supergraph
