import Supergraph.Gateway.Project
import Supergraph.Proofs.Files.Obstacle
import Supergraph.Proofs.Files.Work
import Supergraph.Proofs.Traced

/-!
# What generating a gateway changes

Up to the first file that is written, generating only looks at files. From there on it changes
places of staged files, and of the files that it moves into place before a step is refused. Those
stay where they are: a run leaves everything but staged files as it was exactly when they held the
same texts before.

## Main definitions

* `Project.prepare` — what is done before the first file is written
* `Project.after`, `Project.outcome` — the store after a run, and what the run ends with
* `Project.inPlace` — the files that a run moves into place

## Main results

* `generate_eq` — generating is preparing and then installing
* `map_fst_inPlace` — a run that gives a gateway has moved all of its files into place
* `generate_keeps_files_iff` — what a run changes, and when it changes nothing
* `generate_keeps_files_of_free` — on a tree, a run that fails without a directory in the way
-/

namespace Supergraph

open LawfulStore (tree)

/-! ### Preparing -/

section Prepare

variable {m : Type → Type} [Monad m] [FileSystem m]

/-- What is done before the first file is written: the directory, the plan and the artifacts. -/
def Project.prepare (project : Project) : Work m (Path × Plan × List (String × String)) := do
  let output ← project.directory
  let plan ← compileFile project.supergraph
  let port ← Work.check .port (portOfValue project.port)
  let artifacts ← Work.check .unregistered (Emit.artifacts plan port project.planFormat)
  return (output, plan, artifacts)

/-- What is told and given back when all files are in place. -/
def Project.conclude (project : Project) (output : Path) (plan : Plan) (files : List Path) :
    Work m Gateway := do
  Work.tell (files.map fun file => .fileWritten file.text)
  unless project.name.isWritable do throw (.config .tooLong)
  Work.tell [.gatewayGenerated project.name.message output.text]
  return ⟨plan, files⟩

/-- Generating is preparing, then installing the files, and then telling of them. -/
theorem generate_eq [LawfulMonad m] (project : Project) :
    (project.generate : Work m Gateway) = project.prepare >>= fun prepared =>
      Work.ask InstallFault.problem (install prepared.1 prepared.2.2) >>= fun files =>
        project.conclude prepared.1 prepared.2.1 files := by
  simp only [Project.generate, Project.prepare, Project.conclude, bind_assoc, pure_bind]

end Prepare

section PrepareOn

variable {σ : Type} {project : Project} {log log' : List Event} {s s' : σ}

/-- The gateway that is given back has the plan and the files that are in place, and telling of them
changes nothing. -/
theorem eq_of_conclude {output : Path} {plan : Plan} {files : List Path} {gateway : Gateway}
    (ran : (project.conclude output plan files : Work (StateM σ) _).runOn log s =
      ((.ok gateway, log'), s')) : gateway = ⟨plan, files⟩ ∧ s' = s := by
  obtain ⟨_, _, _, told, ran⟩ := runOn_bind_eq_ok ran
  cases told
  obtain ⟨_, ran⟩ := runOn_guard_eq_ok ran
  obtain ⟨_, _, _, told, last⟩ := runOn_bind_eq_ok ran
  cases told
  cases last
  exact ⟨rfl, rfl⟩

/-- The last event is told when the name of the project can be told. -/
theorem runOn_conclude_of_writable (writable : project.name.isWritable = true) (output : Path)
    (plan : Plan) (files : List Path) (log : List Event) (s : σ) :
    ∃ log', (project.conclude output plan files : Work (StateM σ) _).runOn log s =
      ((.ok ⟨plan, files⟩, log'), s) := by
  simp only [Project.conclude, writable]
  exact ⟨_, rfl⟩

/-- When the name of the project cannot be told, the work ends with this problem. -/
theorem runOn_conclude_of_unwritable (long : project.name.isWritable = false) (output : Path)
    (plan : Plan) (files : List Path) (log : List Event) (s : σ) :
    ∃ log', (project.conclude output plan files : Work (StateM σ) _).runOn log s =
      ((.error (.config .tooLong), log'), s) := by
  simp only [Project.conclude, long]
  exact ⟨_, rfl⟩

theorem map_fst_artifacts {plan : Plan} {port : Int} {format : PlanFormat}
    {files : List (String × String)} (made : Emit.artifacts plan port format = .ok files) :
    files.map Prod.fst = Emit.artifactNames format := by
  obtain ⟨service, _, last⟩ := bind_except_eq_ok_iff.1 made
  cases last
  rfl

/-- The names of the artifacts are distinct, and none is that of a staged file. -/
theorem installable_of_names {format : PlanFormat} {files : List (String × String)}
    (names : files.map Prod.fst = Emit.artifactNames format) : Installable files := by
  have apart : (Emit.artifactNames format).Nodup ∧
      ∀ name ∈ Emit.artifactNames format, ¬IsStagedName name ∧ name ≠ ".." := by
    cases format <;> decide
  rw [← names] at apart
  exact ⟨apart.1, fun f member => (apart.2 f.1 (List.mem_map_of_mem member)).1,
    fun f member => (apart.2 f.1 (List.mem_map_of_mem member)).2⟩

theorem path_of_runOn_pathOf {data : Yaml.Data} {path : Path}
    (ran : (pathOf data : Work (StateM σ) _).runOn log s = ((.ok path, log'), s')) :
    ∃ text, data = .text text ∧ path = Path.ofText text := by
  cases data with
  | text text =>
    cases ran
    exact ⟨text, rfl, rfl⟩
  | _ => cases ran

variable [FileSystem (StateM σ)]

/-- The directory of the gateway is the path that the output is. -/
theorem path_of_runOn_directory {path : Path}
    (ran : (project.directory : Work (StateM σ) _).runOn log s = ((.ok path, log'), s')) :
    ∃ text, project.output = .text text ∧ path = Path.ofText text := by
  obtain ⟨output, _, _, said, ran⟩ := runOn_bind_eq_ok ran
  obtain ⟨kind, _, _, _, ran⟩ := runOn_bind_eq_ok ran
  obtain ⟨_, ran⟩ := runOn_guard_eq_ok ran
  obtain ⟨admitted, _, _, _, ran⟩ := runOn_bind_eq_ok ran
  obtain ⟨_, last⟩ := runOn_guard_eq_ok ran
  cases last
  exact path_of_runOn_pathOf said

/-- What has been prepared is the directory of the project, a plan, and the artifacts. -/
theorem prepared_of_runOn {output : Path} {plan : Plan} {artifacts : List (String × String)}
    (ran : (project.prepare : Work (StateM σ) _).runOn log s =
      ((.ok (output, plan, artifacts), log'), s')) :
    (∃ text, project.output = .text text ∧ output = Path.ofText text) ∧
      artifacts.map Prod.fst = Emit.artifactNames project.planFormat := by
  obtain ⟨directory, _, _, given, ran⟩ := runOn_bind_eq_ok ran
  obtain ⟨plan, _, _, _, ran⟩ := runOn_bind_eq_ok ran
  obtain ⟨port, _, _, _, ran⟩ := runOn_bind_eq_ok ran
  obtain ⟨artifacts, _, _, checked, last⟩ := runOn_bind_eq_ok ran
  cases last
  exact ⟨path_of_runOn_directory given, map_fst_artifacts (check_eq_ok checked)⟩

section Quiet

variable [LawfulStore σ]

theorem quiet_pathOf (data : Yaml.Data) : Quiet (pathOf data : Work (StateM σ) Path) := by
  cases data with
  | text text => exact quiet_pure _
  | _ => exact quiet_throw _

theorem quiet_kindOf (path : Path) : Quiet (kindOf path : Work (StateM σ) (Option FileKind)) :=
  quiet_ask fun _ => LawfulStore.kindOf_keeps rfl

theorem quiet_mayWrite (path : Path) : Quiet (mayWrite path : Work (StateM σ) Bool) :=
  quiet_step fun _ => LawfulStore.mayWrite_keeps rfl

theorem quiet_directory (project : Project) :
    Quiet (project.directory : Work (StateM σ) Path) :=
  (quiet_pathOf project.output).bind fun output => (quiet_kindOf output).bind fun _ =>
    .guard ((quiet_mayWrite output).bind fun _ => .guard (quiet_pure output))

theorem quiet_readText (path : Path) : Quiet (readText path : Work (StateM σ) String) := by
  refine (quiet_ask fun _ => LawfulStore.read_keeps rfl).bind fun text => ?_
  cases text with
  | none => exact quiet_throw _
  | some text => exact quiet_pure _

theorem quiet_compileFile (supergraph : Yaml.Data) :
    Quiet (compileFile supergraph : Work (StateM σ) Plan) :=
  (quiet_pathOf supergraph).bind fun path => (quiet_kindOf path).bind fun _ =>
    .guard ((quiet_tell _).bind fun _ => (quiet_readText path).bind fun _ =>
      (quiet_tell _).bind fun _ => quiet_check _ _)

/-- Preparing changes nothing. -/
theorem quiet_prepare (project : Project) :
    Quiet (project.prepare : Work (StateM σ) (Path × Plan × List (String × String))) :=
  (quiet_directory project).bind fun _ => (quiet_compileFile project.supergraph).bind fun _ =>
    (quiet_check _ _).bind fun _ => (quiet_check _ _).bind fun _ => quiet_pure _

/-- Telling of the files changes nothing. -/
theorem quiet_conclude (project : Project) (output : Path) (plan : Plan) (files : List Path) :
    Quiet (project.conclude output plan files : Work (StateM σ) Gateway) :=
  (quiet_tell _).bind fun _ => .guard ((quiet_tell _).bind fun _ => quiet_pure _)

end Quiet

end PrepareOn

/-! ### The whole run -/

section Generate

variable {σ : Type} [FileSystem (StateM σ)]

/-- The files that a run moves into place, with their paths. There are none when it ends with a
problem before all files are staged. -/
def Project.inPlace (project : Project) (s : σ) : List (Path × String) :=
  match (project.prepare : Work (StateM σ) _).runOn [] s with
  | ((.ok (output, _, artifacts), _), s₁) =>
    ((installed output artifacts : StateM σ _).run s₁).1.map fun f => (output.child f.1, f.2)
  | _ => []

/-- What a run ends with. -/
def Project.outcome (project : Project) (s : σ) : Except Problem Gateway :=
  ((Work.finish project.generate : StateM σ _).run s).1.1

/-- The store after a run. -/
def Project.after (project : Project) (s : σ) : σ :=
  ((Work.finish project.generate : StateM σ _).run s).2

variable {project : Project} {output : Path} {plan : Plan} {artifacts : List (String × String)}
  {log : List Event} {s s₁ : σ} {e : Problem}

theorem inPlace_of_unprepared
    (prepared : (project.prepare : Work (StateM σ) _).runOn [] s = ((.error e, log), s₁)) :
    project.inPlace s = [] := by
  rw [Project.inPlace, prepared]

theorem inPlace_of_prepared
    (prepared : (project.prepare : Work (StateM σ) _).runOn [] s =
      ((.ok (output, plan, artifacts), log), s₁)) :
    project.inPlace s = ((installed output artifacts : StateM σ _).run s₁).1.map fun f =>
      (output.child f.1, f.2) := by
  rw [Project.inPlace, prepared]

theorem after_of_unprepared
    (prepared : (project.prepare : Work (StateM σ) _).runOn [] s = ((.error e, log), s₁)) :
    project.after s = s₁ := by
  change ((project.generate : Work (StateM σ) _).runOn [] s).2 = s₁
  rw [generate_eq, runOn_bind_of_error prepared]

/-- A run gives a gateway when the files are installed and the name of the project can be told. -/
theorem outcome_of_installed {files : List Path} {s₂ : σ}
    (writable : project.name.isWritable = true)
    (prepared : (project.prepare : Work (StateM σ) _).runOn [] s =
      ((.ok (output, plan, artifacts), log), s₁))
    (installing : (install output artifacts : StateM σ _).run s₁ = (.ok files, s₂)) :
    project.outcome s = .ok ⟨plan, files⟩ := by
  have asked : (Work.ask InstallFault.problem (install output artifacts)).runOn log s₁ =
      ((.ok files, log), s₂) := runOn_ask installing
  obtain ⟨log', concluded⟩ := runOn_conclude_of_writable writable output plan files log s₂
  change ((project.generate : Work (StateM σ) _).runOn [] s).1.1 = _
  rw [generate_eq, runOn_bind_of_ok prepared, runOn_bind_of_ok asked, concluded]

/-- Files that have been installed are all in place. -/
theorem installs_of_runOn {directory : Path} {files : List (String × String)} {paths : List Path}
    {log' : List Event} {s' : σ}
    (asked : (Work.ask InstallFault.problem (install directory files)).runOn log s =
      ((.ok paths, log'), s')) :
    ((installed directory files : StateM σ _).run s).1 = files ∧
      Installs directory files s files (.ok paths) s' := by
  have installs := installs_run directory files s
  cases installing : (install directory files : StateM σ _).run s with
  | mk result s₁ =>
    have given : (Work.ask InstallFault.problem (install directory files)).runOn log s =
        ((result.mapError InstallFault.problem, log), s₁) := runOn_ask installing
    have same := given.symm.trans asked
    rw [installing] at installs
    cases result with
    | error fault => cases same
    | ok _ =>
      cases same
      have all := installs.placed_eq.1
      rw [all] at installs
      exact ⟨all, installs⟩

/-- A run that gives a gateway has moved all of its files into place. -/
theorem map_fst_inPlace {gateway : Gateway} (generated : project.outcome s = .ok gateway) :
    (project.inPlace s).map Prod.fst = gateway.files := by
  cases ran : (project.generate : Work (StateM σ) _).runOn [] s with
  | mk outcome s' =>
    obtain ⟨result, events⟩ := outcome
    have ended : result = .ok gateway := by
      rw [← generated]
      exact (congrArg (·.1.1) ran).symm
    subst ended
    rw [generate_eq] at ran
    obtain ⟨⟨output, plan, artifacts⟩, log, s₁, prepared, ran⟩ := runOn_bind_eq_ok ran
    obtain ⟨files, _, _, asked, concluded⟩ := runOn_bind_eq_ok ran
    obtain ⟨all, installs⟩ := installs_of_runOn asked
    obtain rfl := installs.placed_eq.2
    rw [inPlace_of_prepared prepared, all, (eq_of_conclude concluded).1]
    simp [List.map_map, Function.comp_def]

variable [LawfulStore σ]

/-- When the files have been prepared, they are installed, and nothing else happens to the tree. -/
theorem tree_after_of_prepared
    (prepared : (project.prepare : Work (StateM σ) _).runOn [] s =
      ((.ok (output, plan, artifacts), log), s₁)) :
    tree (project.after s) = tree ((install output artifacts : StateM σ _).run s₁).2 := by
  change tree ((project.generate : Work (StateM σ) _).runOn [] s).2 = _
  rw [generate_eq, runOn_bind_of_ok prepared]
  cases installing : (install output artifacts : StateM σ _).run s₁ with
  | mk result s₂ =>
    have asked : (Work.ask InstallFault.problem (install output artifacts)).runOn log s₁ =
        ((result.mapError InstallFault.problem, log), s₂) := runOn_ask installing
    cases result with
    | ok files => rw [runOn_bind_of_ok asked, quiet_conclude project output plan files log s₂]
    | error fault => rw [runOn_bind_of_error asked]

/-- A run changes places of staged files and of the files that it moves into place, which hold their
texts in the end. -/
theorem frame_generate (project : Project) (s : σ) :
    FileTree.Frame (fun place => IsStaged place ∨ ∃ f ∈ project.inPlace s, At (tree s) f.1 place)
        (tree s) (tree (project.after s)) ∧
      (∀ f ∈ project.inPlace s, (tree (project.after s)).read f.1 = .ok (some f.2)) ∧
      ∀ f ∈ project.inPlace s, ∀ place, At (tree s) f.1 place → ¬IsStaged place := by
  have quiet := quiet_prepare project [] s
  cases ran : (project.prepare : Work (StateM σ) _).runOn [] s with
  | mk outcome s₁ =>
    obtain ⟨result, log⟩ := outcome
    have same : tree s₁ = tree s := by simpa [ran] using quiet
    cases result with
    | error e =>
      rw [inPlace_of_unprepared ran, after_of_unprepared ran, same]
      exact ⟨.refl _ _, by simp, by simp⟩
    | ok prepared =>
      obtain ⟨output, plan, artifacts⟩ := prepared
      have installable := installable_of_names (prepared_of_runOn ran).2
      have installs := installs_run output artifacts s₁
      have frame := installs.frame
      rw [same] at frame
      rw [inPlace_of_prepared ran, tree_after_of_prepared ran]
      refine ⟨frame.mono ?_, ?_, ?_⟩
      · rintro place (staged | ⟨f, member, here⟩)
        · exact .inl staged
        · exact .inr ⟨_, List.mem_map_of_mem member, here⟩
      · intro g member
        obtain ⟨f, among, rfl⟩ := List.mem_map.1 member
        exact installs.read installable among
      · rintro g member place here
        obtain ⟨f, among, rfl⟩ := List.mem_map.1 member
        have inside := installs.subset among
        exact not_isStaged_of_locate here (installable.down f inside) (installable.plain f inside)

/-- A run changes nothing but staged files and the files that it moves into place, which hold their
texts in the end. So it leaves all other files as they were exactly when those held their texts
before. -/
theorem generate_keeps_files_iff (project : Project) (s : σ) :
    (∀ place, ¬IsStaged place → (∀ f ∈ project.inPlace s, ¬At (tree s) f.1 place) →
        (tree (project.after s)).item? place = (tree s).item? place) ∧
      (∀ f ∈ project.inPlace s, (tree (project.after s)).read f.1 = .ok (some f.2)) ∧
      ((∀ place, ¬IsStaged place →
          (tree (project.after s)).item? place = (tree s).item? place) ↔
        ∀ f ∈ project.inPlace s, (tree s).read f.1 = .ok (some f.2)) := by
  obtain ⟨frame, written, unstaged⟩ := frame_generate project s
  have others : ∀ place, ¬IsStaged place → (∀ f ∈ project.inPlace s, ¬At (tree s) f.1 place) →
      (tree (project.after s)).item? place = (tree s).item? place := by
    intro place plain apart
    refine frame.others place ?_
    rintro (staged | ⟨f, member, here⟩)
    · exact plain staged
    · exact apart f member here
  refine ⟨others, written, ?_, ?_⟩
  · intro kept f member
    obtain ⟨place, located, present⟩ := FileTree.read_eq_ok_iff.1 (written f member)
    have here := frame.locate_eq_ok_iff.1 located
    refine FileTree.read_eq_ok_iff.2 ⟨place, here, ?_⟩
    rw [← kept place (unstaged f member place here), present]
  · intro same place plain
    by_cases inside : ∃ f ∈ project.inPlace s, At (tree s) f.1 place
    · obtain ⟨f, member, here⟩ := inside
      obtain ⟨before, located, present⟩ := FileTree.read_eq_ok_iff.1 (same f member)
      obtain ⟨after, reached, found⟩ := FileTree.read_eq_ok_iff.1 (written f member)
      cases located.symm.trans here
      cases (frame.locate_eq_ok_iff.1 reached).symm.trans here
      rw [present, found]
    · push Not at inside
      exact others place plain inside

end Generate

/-! ### Runs on a tree -/

section Tree

variable {project : Project} {t : FileTree}

/-- A run that ends with a problem leaves everything on a tree but staged files as it was, when no
directory has the name of an artifact and the name of the project can be told. -/
theorem generate_keeps_files_of_free (failed : (project.outcome t).isOk = false)
    (writable : project.name.isWritable = true)
    (free : ∀ text, project.output = .text text → ∀ name ∈ Emit.artifactNames project.planFormat,
      t.isBlocked ((Path.ofText text).child name) = false) {place : Place}
    (plain : ¬IsStaged place) : (project.after t).item? place = t.item? place := by
  -- A run that failed was refused before its first move, since no move can be refused here.
  have untouched : project.inPlace t = [] := by
    cases ran : (project.prepare : Work (StateM FileTree) _).runOn [] t with
    | mk outcome t₁ =>
      obtain ⟨result, log⟩ := outcome
      cases result with
      | error e => exact inPlace_of_unprepared ran
      | ok prepared =>
        obtain ⟨output, plan, artifacts⟩ := prepared
        obtain ⟨⟨text, said, rfl⟩, names⟩ := prepared_of_runOn ran
        have installable := installable_of_names names
        have quiet := quiet_prepare project [] t
        rw [ran] at quiet
        have same : t₁ = t := quiet
        subst same
        rw [inPlace_of_prepared ran]
        have installs := installs_run (Path.ofText text) artifacts t₁
        cases installing : (install (Path.ofText text) artifacts : StateM FileTree _).run t₁ with
        | mk ended t₂ =>
          rw [installing] at installs
          cases ended with
          | ok files =>
            -- All files are installed and the name can be told, so the run has given a gateway.
            rw [outcome_of_installed writable ran installing] at failed
            cases failed
          | error cause =>
            rw [installs.placed_eq_nil_of_free installable fun f member =>
              free text said f.1 (names ▸ List.mem_map_of_mem member), List.map_nil]
  refine (frame_generate project t).1.others place ?_
  simp [untouched, plain]

end Tree

/-- A project whose supergraph has one field. -/
def smallShop : Project :=
  ⟨.text "shop", .text "shop.graphql", .text "out", .int 8000, .yaml⟩

/-- A tree with the supergraph, and with other items in the directory of the gateway. -/
def shopTree (others : List (Place × Item)) : FileTree :=
  ⟨(["shop.graphql"], .file (some "type Query { count: Int }")) :: (["out"], .directory) :: others,
    []⟩

/-- A disk on which there is no room for the third file: the write that is refused is the sixth
step. -/
def fullDisk : Disk where
  tree := shopTree []
  refusals := [none, none, none, none, none, some ⟨28, "No space left on device", some (some "")⟩]

theorem fullDisk_keeps_files :
    (smallShop.outcome fullDisk).isOk = false ∧
      ∀ place, ¬IsStaged place →
        (tree (smallShop.after fullDisk)).item? place = (tree fullDisk).item? place := by
  refine ⟨by decide +kernel, (generate_keeps_files_iff smallShop fullDisk).2.2.2 ?_⟩
  have none : smallShop.inPlace fullDisk = [] := by
    rw [← List.isEmpty_iff]
    decide +kernel
  simp [none]

/-- A tree with a directory in the place of the second file. -/
def blockedTree : FileTree :=
  shopTree [(["query_plan.py", "out"], .directory)]

theorem blockedTree_gains_file :
    (smallShop.outcome blockedTree).isOk = false ∧ ¬IsStaged ["schema_types.py", "out"] ∧
      blockedTree.item? ["schema_types.py", "out"] = none ∧
      (tree (smallShop.after blockedTree)).item? ["schema_types.py", "out"] ≠ none := by
  refine ⟨by decide +kernel, ?_, by decide +kernel, by decide +kernel⟩
  rw [isStaged_cons]
  decide

end Supergraph
