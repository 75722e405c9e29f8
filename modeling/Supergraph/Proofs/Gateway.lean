import Supergraph.Proofs.Files.Clearing
import Supergraph.Proofs.Files.Looking
import Supergraph.Proofs.Generation
import Supergraph.Proofs.Registered

/-!
# What is not reported of gateways

Generating a gateway on a tree ends with the gateway, with a problem that commands report, or with
one that they do not. The last happens when a path is none or cannot be looked at, when a supergraph
holds no text, when the port is none, when a staged file can be neither written nor taken away, and
when the name of the project cannot be told in the end.

## Main definitions

* `FileTree.Plans` — the plan of the supergraph in a file
* `BadSupergraph`, `BadProject`, `BadGateway` — the cases in which the problem is not reported
* `IsReady` — the directory, the plan and the port are there

## Main results

* `looks_compileFile` — reading and planning a supergraph
* `looks_prepare` — what is done before the first file is written
* `breaks_generate_iff` — generating a gateway
-/

namespace Supergraph

open Yaml (Data)

variable {t : FileTree}

/-! ### Supergraphs -/

/-- The plan of the supergraph in the file that data name. -/
def FileTree.Plans (t : FileTree) (supergraph : Data) (plan : Plan) : Prop :=
  ∃ name text, supergraph = .text name ∧ t.Says (.ofText name) text ∧
    (compileText text).result = .ok plan

/-- Nothing is read for a supergraph, and no command reports why. -/
inductive BadSupergraph (t : FileTree) : Data → Prop
  /-- What stands for its path is no text. -/
  | notPath {supergraph : Data} (other : ∀ name, supergraph ≠ .text name) :
      BadSupergraph t supergraph
  /-- Looking at the path is refused, since a name in it is too long. -/
  | refused {name : String} {fault : FileFault}
      (refused : t.kindOf (.ofText name) = .error fault) : BadSupergraph t (.text name)
  /-- What the file holds is no text. -/
  | undecodable {name : String} (read : t.read (.ofText name) = .ok none) :
      BadSupergraph t (.text name)

theorem looks_pathOf (data : Data) :
    Looks (pathOf data) t (fun path => ∃ name, data = .text name ∧ path = .ofText name)
      (∀ name, data ≠ .text name) := by
  cases data with
  | text name => exact (looks_pure _).congr (by simp [eq_comm]) (by simp)
  | bytes => exact (looks_throw _).congr (by simp) (by simp [Problem.isReported])
  | _ => exact (looks_throw _).congr (by simp) (by simp [Problem.isReported])

theorem looks_trace {α : Type} (x : Traced α) :
    Looks (Work.trace x : Work (StateM FileTree) α) t (x.result = .ok ·) False := by
  have both := (looks_tell (t := t) x.events).bind fun _ _ => looks_check Problem.plan x.result
  exact both.congr (by simp) (by simp [Problem.isReported])

/-- A plan is made for the text of a file. -/
theorem looks_plan (path : Path) :
    Looks (do
        Work.tell [.schemaRead path.text]
        Work.trace (compileText (← readText path)) : Work (StateM FileTree) Plan) t
      (fun plan => ∃ text, t.Says path text ∧ (compileText text).result = .ok plan)
      ((∃ fault, t.read path = .error fault) ∨ t.read path = .ok none) := by
  have both := (looks_tell (t := t) [Event.schemaRead path.text]).bind fun _ _ =>
    (looks_readText path).bind fun text _ => looks_trace (compileText text)
  exact both.congr (by simp) (by simp)

/-- A plan is made for the supergraph in a file. When none is made, the problem is reported unless
the supergraph is not read at all. -/
theorem looks_compileFile (supergraph : Data) :
    Looks (compileFile supergraph) t (t.Plans supergraph) (BadSupergraph t supergraph) := by
  have both : Looks (compileFile supergraph) t
      (fun plan => ∃ path, (∃ name, supergraph = .text name ∧ path = .ofText name) ∧
        ∃ kind, t.kindOf path = .ok kind ∧ kind = some .file ∧
          ∃ text, t.Says path text ∧ (compileText text).result = .ok plan)
      ((∀ name, supergraph ≠ .text name) ∨
        ∃ path, (∃ name, supergraph = .text name ∧ path = .ofText name) ∧
          ((∃ fault, t.kindOf path = .error fault) ∨
            ∃ kind, t.kindOf path = .ok kind ∧ kind = some .file ∧
              ((∃ fault, t.read path = .error fault) ∨ t.read path = .ok none))) := by
    refine (looks_pathOf supergraph).bind fun path _ => (looks_kindOf path).bind fun kind _ => ?_
    -- What is no file is reported, so that only files are left to be read.
    split
    next file => exact (looks_plan path).congr (by simp [file]) (by simp [file])
    next other =>
      exact (looks_throw _).bind_error.congr (by simp [other])
        (by simp [other, Problem.isReported])
  refine both.congr (fun plan => ?_) ?_
  · constructor
    · rintro ⟨_, ⟨name, rfl, rfl⟩, _, _, _, text, said, made⟩
      exact ⟨name, text, rfl, said, made⟩
    · rintro ⟨name, text, rfl, said, made⟩
      exact ⟨_, ⟨name, rfl, rfl⟩, _, said.kindOf_eq, rfl, text, said, made⟩
  · constructor
    · rintro (other | ⟨_, ⟨name, rfl, rfl⟩, ⟨fault, refused⟩ | ⟨_, found, rfl, unread⟩⟩)
      · exact .notPath other
      · exact .refused refused
      · -- A file that is there is read, so that only its bytes can be wrong.
        obtain ⟨text, read⟩ := FileTree.kindOf_eq_file_iff.1 found
        rcases unread with ⟨fault, refused⟩ | undecodable
        · rw [read] at refused
          cases refused
        · exact .undecodable undecodable
    · rintro (other | @⟨name, fault, refused⟩ | @⟨name, read⟩)
      · exact .inl other
      · exact .inr ⟨_, ⟨name, rfl, rfl⟩, .inl ⟨fault, refused⟩⟩
      · have file := FileTree.kindOf_eq_file_iff.2 ⟨_, read⟩
        exact .inr ⟨_, ⟨name, rfl, rfl⟩, .inr ⟨_, file, rfl, .inr read⟩⟩

/-! ### Gateways -/

/-- Plans that are made have artifacts. -/
theorem exists_artifacts_of_plans {supergraph : Data} {plan : Plan}
    (planned : t.Plans supergraph plan) (port : Int) (format : PlanFormat) :
    ∃ artifacts, Emit.artifacts plan port format = .ok artifacts := by
  obtain ⟨_, _, _, _, made⟩ := planned
  obtain ⟨schema, _, made⟩ := Traced.bind_eq_ok_iff.1 made
  obtain ⟨fed, _, made⟩ := Traced.bind_eq_ok_iff.1 made
  have referring : plan.RefersToRegistered := refersToRegistered_of_compile made
  have written := Emit.serviceModule_of_registered port referring.routes
  exact ⟨_, bind_except_eq_ok_iff.2 ⟨_, written, rfl⟩⟩

/-- All that a gateway is made of is there: its directory, its plan and its port. -/
structure IsReady (t : FileTree) (project : Project) (name : String) (plan : Plan) : Prop where
  said : project.output = .text name
  directory : t.kindOf (.ofText name) = .ok (some .directory)
  planned : t.Plans project.supergraph plan
  port : ∃ port, portOfValue project.port = .ok port

/-- Something that a gateway is made of is not there, and no command reports why. -/
inductive BadProject (t : FileTree) (project : Project) : Prop
  /-- What stands for the path of the directory is no text. -/
  | notPath (other : ∀ name, project.output ≠ .text name)
  /-- Looking at the path is refused, since a name in it is too long. -/
  | refused {name : String} {fault : FileFault} (said : project.output = .text name)
      (refused : t.kindOf (.ofText name) = .error fault)
  | supergraph {name : String} (said : project.output = .text name)
      (directory : t.kindOf (.ofText name) = .ok (some .directory))
      (bad : BadSupergraph t project.supergraph)
  | port {name : String} {plan : Plan} {cause : PortError} (said : project.output = .text name)
      (directory : t.kindOf (.ofText name) = .ok (some .directory))
      (planned : t.Plans project.supergraph plan)
      (refused : portOfValue project.port = .error cause)

theorem looks_artifacts {supergraph : Data} {plan : Plan} (planned : t.Plans supergraph plan)
    (port : Int) (format : PlanFormat) :
    Looks (Work.check .unregistered (Emit.artifacts plan port format) :
        Work (StateM FileTree) (List (String × String))) t
      (Emit.artifacts plan port format = .ok ·) False := by
  obtain ⟨artifacts, made⟩ := exists_artifacts_of_plans planned port format
  refine (looks_check .unregistered _).congr (fun _ => Iff.rfl) ?_
  simp [made]

/-- What is prepared on a tree: the directory, the plan and the artifacts. -/
def Prepares (t : FileTree) (project : Project)
    (prepared : Path × Plan × List (String × String)) : Prop :=
  ∃ name port, project.output = .text name ∧ t.kindOf (.ofText name) = .ok (some .directory) ∧
    t.Plans project.supergraph prepared.2.1 ∧ portOfValue project.port = .ok port ∧
    prepared.1 = .ofText name ∧
    Emit.artifacts prepared.2.1 port project.planFormat = .ok prepared.2.2

/-- The directory of the gateway is given if one is there. Trees admit files to every directory. -/
theorem looks_directory (project : Project) :
    Looks project.directory t
      (fun output => ∃ name, project.output = .text name ∧ output = .ofText name ∧
        t.kindOf output = .ok (some .directory))
      ((∀ name, project.output ≠ .text name) ∨
        ∃ name fault, project.output = .text name ∧ t.kindOf (.ofText name) = .error fault) := by
  have both : Looks project.directory t
      (fun given => ∃ output, (∃ name, project.output = .text name ∧ output = .ofText name) ∧
        ∃ kind, t.kindOf output = .ok kind ∧ kind = some .directory ∧ output = given)
      ((∀ name, project.output ≠ .text name) ∨
        ∃ output, (∃ name, project.output = .text name ∧ output = .ofText name) ∧
          ((∃ fault, t.kindOf output = .error fault) ∨
            ∃ kind, t.kindOf output = .ok kind ∧ False)) := by
    refine (looks_pathOf project.output).bind fun output _ =>
      (looks_kindOf output).bind fun kind _ => ?_
    split
    next directory =>
      have rest : Looks (do
          unless ← mayWrite output do throw .locked
          return output : Work (StateM FileTree) Path) t
          (fun given => ∃ admitted, true = admitted ∧ output = given)
          (False ∨ ∃ admitted, true = admitted ∧ False) := by
        refine (looks_mayWrite output).bind fun admitted same => ?_
        subst same
        exact looks_pure output
      exact rest.congr (by simp [directory]) (by simp)
    next other =>
      exact (looks_throw _).bind_error.congr (by simp [other]) (by simp [Problem.isReported])
  refine both.congr (fun given => ?_) ?_
  · constructor
    · rintro ⟨_, ⟨name, said, rfl⟩, _, directory, rfl, rfl⟩
      exact ⟨name, said, rfl, directory⟩
    · rintro ⟨name, said, rfl, directory⟩
      exact ⟨_, ⟨name, said, rfl⟩, _, directory, rfl, rfl⟩
  · constructor
    · rintro (other | ⟨_, ⟨name, said, rfl⟩, ⟨fault, refused⟩ | ⟨_, _, impossible⟩⟩)
      · exact .inl other
      · exact .inr ⟨name, fault, said, refused⟩
      · exact impossible.elim
    · rintro (other | ⟨name, fault, said, refused⟩)
      · exact .inl other
      · exact .inr ⟨_, ⟨name, said, rfl⟩, .inl ⟨fault, refused⟩⟩

/-- Everything is prepared for a gateway, or the problem is reported, unless something is not
there. -/
theorem looks_prepare (project : Project) :
    Looks project.prepare t (Prepares t project) (BadProject t project) := by
  have parts : Looks project.prepare t _ _ :=
    (looks_directory project).bind fun output _ =>
      (looks_compileFile project.supergraph).bind fun plan planned =>
        (looks_check .port (portOfValue project.port)).bind fun port _ =>
          (looks_artifacts planned port project.planFormat).bind fun artifacts _ =>
            looks_pure (output, plan, artifacts)
  refine parts.congr (fun prepared => ?_) ?_
  · constructor
    · rintro ⟨_, ⟨name, said, rfl, directory⟩, plan, planned, port, valid, artifacts, made, rfl⟩
      exact ⟨name, port, said, directory, planned, valid, rfl, made⟩
    · obtain ⟨output, plan, artifacts⟩ := prepared
      rintro ⟨name, port, said, directory, planned, valid, rfl, made⟩
      exact ⟨_, ⟨name, said, rfl, directory⟩, plan, planned, port, valid, artifacts, made, rfl⟩
  · constructor
    · rintro ((other | ⟨name, fault, said, refused⟩) |
        ⟨_, ⟨name, said, rfl, directory⟩, bad | ⟨plan, planned, ⟨cause, refused, _⟩ |
          ⟨_, _, impossible | ⟨_, _, impossible⟩⟩⟩⟩)
      · exact .notPath other
      · exact .refused said refused
      · exact .supergraph said directory bad
      · exact .port said directory planned refused
      · exact impossible.elim
      · exact impossible.elim
    · rintro (other | ⟨said, refused⟩ | ⟨said, directory, bad⟩ |
        ⟨said, directory, planned, refused⟩)
      · exact .inl (.inl other)
      · exact .inl (.inr ⟨_, _, said, refused⟩)
      · exact .inr ⟨_, ⟨_, said, rfl, directory⟩, .inl bad⟩
      · exact .inr ⟨_, ⟨_, said, rfl, directory⟩, .inr ⟨_, planned, .inl ⟨_, refused, rfl⟩⟩⟩

/-- A gateway is not generated, and no command reports why. -/
inductive BadGateway (t : FileTree) (project : Project) : Prop
  | unprepared (bad : BadProject t project)
  /-- A staged file can be neither written nor taken away. -/
  | staged {name file : String} {plan : Plan} (ready : IsReady t project name plan)
      (listed : file ∈ Emit.artifactNames project.planFormat)
      (barred : t.IsBarred (stagedPath (.ofText name) file))
  /-- All files are in place, but the name of the project, which is told last, is an integer of too
  many digits. -/
  | untold {name : String} {plan : Plan} (ready : IsReady t project name plan)
      (free : ∀ file ∈ Emit.artifactNames project.planFormat,
        ¬t.IsBarred (stagedPath (.ofText name) file))
      (unblocked : ∀ file ∈ Emit.artifactNames project.planFormat,
        t.isBlocked ((Path.ofText name).child file) = false)
      (long : project.name.isWritable = false)

/-- When everything is there, a gateway is bad for a staged file that is barred, or for the name of
the project when all files can be put in place. -/
theorem badGateway_iff {project : Project} {name : String} {plan : Plan}
    (ready : IsReady t project name plan) (prepared : ¬BadProject t project) :
    BadGateway t project ↔
      (∃ file ∈ Emit.artifactNames project.planFormat,
        t.IsBarred (stagedPath (.ofText name) file)) ∨
      (∀ file ∈ Emit.artifactNames project.planFormat,
        ¬t.IsBarred (stagedPath (.ofText name) file)) ∧
      (∀ file ∈ Emit.artifactNames project.planFormat,
        t.isBlocked ((Path.ofText name).child file) = false) ∧
      project.name.isWritable = false := by
  have same : ∀ {other plan'}, IsReady t project other plan' → other = name := by
    intro other plan' readyToo
    exact Data.text.inj (readyToo.said.symm.trans ready.said)
  constructor
  · rintro (bad | ⟨readyToo, listed, barred⟩ | ⟨readyToo, free, unblocked, long⟩)
    · exact absurd bad prepared
    · obtain rfl := same readyToo
      exact .inl ⟨_, listed, barred⟩
    · obtain rfl := same readyToo
      exact .inr ⟨free, unblocked, long⟩
  · rintro (⟨file, listed, barred⟩ | ⟨free, unblocked, long⟩)
    · exact .staged ready listed barred
    · exact .untold ready free unblocked long

/-- When everything is there, a gateway is generated, or the problem is reported, unless a staged
file can be neither written nor taken away, or the name of the project cannot be told. -/
theorem breaks_install_iff {project : Project} {name : String} {plan : Plan}
    {artifacts : List (String × String)} (ready : IsReady t project name plan)
    (prepared : ¬BadProject t project)
    (names : artifacts.map Prod.fst = Emit.artifactNames project.planFormat) (log : List Event) :
    Breaks ((Work.ask InstallFault.problem (install (.ofText name) artifacts) >>= fun files =>
        project.conclude (.ofText name) plan files : Work (StateM FileTree) _).runOn log t).1.1 ↔
      BadGateway t project := by
  have inside : t.isBlocked (.ofText name) = true :=
    FileTree.kindOf_eq_directory_iff.1 ready.directory
  have installable := installable_of_names names
  rw [badGateway_iff ready prepared, ← names]
  simp only [List.mem_map, exists_exists_and_eq_and, forall_exists_index, and_imp,
    forall_apply_eq_imp_iff₂]
  by_cases barred : ∃ f ∈ artifacts, t.IsBarred (stagedPath (.ofText name) f.1)
  · obtain ⟨left, t', installing⟩ := run_install_of_barred inside barred
    have asked : (Work.ask InstallFault.problem (install (.ofText name) artifacts)).runOn log t =
        ((.error (.file left), log), t') := runOn_ask installing
    rw [runOn_bind_of_error asked, breaks_error]
    exact ⟨fun _ => .inl barred, fun _ => rfl⟩
  have free : ∀ f ∈ artifacts, ¬t.IsBarred (stagedPath (.ofText name) f.1) := by
    simpa using barred
  obtain ⟨installs, refuses⟩ := run_install_of_free inside installable free
  by_cases blocked : ∃ f ∈ artifacts, t.isBlocked ((Path.ofText name).child f.1) = true
  · -- A file that cannot be moved to where it belongs is reported.
    obtain ⟨fault, t', installing⟩ := refuses blocked
    have asked : (Work.ask InstallFault.problem (install (.ofText name) artifacts)).runOn log t =
        ((.error (.writing fault), log), t') := runOn_ask installing
    rw [runOn_bind_of_error asked, breaks_error]
    refine ⟨fun unreported => absurd unreported (by simp [Problem.isReported]), ?_⟩
    rintro (wrong | ⟨_, unblocked, _⟩)
    · exact absurd wrong barred
    · obtain ⟨f, member, inTheWay⟩ := blocked
      cases (unblocked f member).symm.trans inTheWay
  · have unblocked : ∀ f ∈ artifacts, t.isBlocked ((Path.ofText name).child f.1) = false := by
      simpa using blocked
    obtain ⟨t', installing⟩ := installs unblocked
    have asked : (Work.ask InstallFault.problem (install (.ofText name) artifacts)).runOn log t =
        ((.ok ((artifacts.map Prod.fst).map (Path.ofText name).child), log), t') :=
      runOn_ask installing
    rw [runOn_bind_of_ok asked]
    cases long : project.name.isWritable with
    | true =>
      obtain ⟨log', concluded⟩ := runOn_conclude_of_writable long (.ofText name) plan
        ((artifacts.map Prod.fst).map (Path.ofText name).child) log t'
      rw [concluded]
      refine ⟨fun broken => absurd broken not_breaks_ok, ?_⟩
      rintro (wrong | ⟨_, _, short⟩)
      · exact absurd wrong barred
      · cases short
    | false =>
      obtain ⟨log', concluded⟩ := runOn_conclude_of_unwritable long (.ofText name) plan
        ((artifacts.map Prod.fst).map (Path.ofText name).child) log t'
      rw [concluded, breaks_error]
      exact ⟨fun _ => .inr ⟨free, unblocked, rfl⟩, fun _ => rfl⟩

/-- A gateway is generated, or the problem is reported, unless a staged file can be neither written
nor taken away, something is not there to begin with, or the name of the project cannot be told. -/
theorem breaks_generate_iff (project : Project) (log : List Event) :
    Breaks ((project.generate : Work (StateM FileTree) _).runOn log t).1.1 ↔
      BadGateway t project := by
  obtain ⟨result, ran, gives, breaks⟩ := looks_prepare (t := t) project
  obtain ⟨log₁, ran⟩ := ran log
  rw [generate_eq]
  cases result with
  | error problem =>
    -- Without a directory, a plan and a port no file is staged.
    have unready : ∀ name plan, ¬IsReady t project name plan := by
      intro name plan ready
      obtain ⟨port, valid⟩ := ready.port
      obtain ⟨artifacts, made⟩ :=
        exists_artifacts_of_plans ready.planned port project.planFormat
      cases (gives (.ofText name, plan, artifacts)).2
        ⟨name, port, ready.said, ready.directory, ready.planned, valid, rfl, made⟩
    have same : Breaks (.error problem : Except Problem Gateway) ↔ BadProject t project := by
      rw [breaks_error, ← breaks, breaks_error]
    rw [runOn_bind_of_error ran, same]
    constructor
    · exact .unprepared
    · rintro (bad | ⟨ready, _, _⟩ | ⟨ready, _, _, _⟩)
      · exact bad
      · exact absurd ready (unready _ _)
      · exact absurd ready (unready _ _)
  | ok prepared =>
    obtain ⟨output, plan, artifacts⟩ := prepared
    obtain ⟨name, port, said, directory, planned, valid, rfl, made⟩ := (gives _).1 rfl
    rw [runOn_bind_of_ok ran]
    exact breaks_install_iff ⟨said, directory, planned, port, valid⟩
      (fun bad => not_breaks_ok (breaks.2 bad)) (map_fst_artifacts made) log₁

end Supergraph
