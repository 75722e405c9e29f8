import Supergraph.Proofs.Reporting

/-!
# The plan that is shown is the plan that is written

One command generates a gateway and writes the plan document beside the modules; another one prints
the document and writes nothing. Both find their project and its plan for themselves. When a gateway
is generated, the other command prints on the same tree what has been written, and the warnings of
the document are those that the report counts.

## Main definitions

* `Command.leftOutLines` — what is reported of fields that have been left out

## Main results

* `generated_of_runOn` — what is true when a gateway has been generated
* `Command.resolves_of_same` — the project depends on three of the settings only
* `Command.plan_shows_what_generate_writes` — both commands on one tree
-/

namespace Supergraph

/-- The plan document is one of the artifacts. -/
theorem document_mem_artifacts {plan : Plan} {port : Int} {format : PlanFormat}
    {files : List (String × String)} (made : Emit.artifacts plan port format = .ok files) :
    (Emit.documentName format, Document.render plan format) ∈ files := by
  obtain ⟨service, _, last⟩ := bind_except_eq_ok_iff.1 made
  cases last
  simp [Emit.artifactNames]

section Generate

variable {project : Project} {gateway : Gateway} {log log' : List Event} {t t' : FileTree}

/-- When a gateway has been generated, its plan is that of the supergraph, its files are the
artifacts in the directory of the project, and the document there is that of the plan. -/
theorem generated_of_runOn
    (ran : (project.generate : Work (StateM FileTree) _).runOn log t = ((.ok gateway, log'), t')) :
    ∃ name, project.output = .text name ∧ t.Plans project.supergraph gateway.plan ∧
      gateway.files = (Emit.artifactNames project.planFormat).map (Path.ofText name).child ∧
      t'.read ((Path.ofText name).child (Emit.documentName project.planFormat)) =
        .ok (some (Document.render gateway.plan project.planFormat)) := by
  rw [generate_eq] at ran
  obtain ⟨⟨output, plan, artifacts⟩, log₁, t₁, prepared, ran⟩ := runOn_bind_eq_ok ran
  obtain ⟨files, log₂, t₂, asked, concluded⟩ := runOn_bind_eq_ok ran
  obtain ⟨⟨name, port, said, _, planned, _, rfl, made⟩, rfl⟩ :=
    (looks_prepare project).gives_of_runOn prepared
  obtain ⟨rfl, rfl⟩ := eq_of_conclude concluded
  have names := map_fst_artifacts made
  have installs := (installs_of_runOn asked).2
  obtain rfl := installs.placed_eq.2
  -- The document is among the files that hold their texts in the end.
  have written := installs.read (installable_of_names names) (document_mem_artifacts made)
  exact ⟨name, said, planned, by rw [names], written⟩

end Generate

namespace Command

/-! ### Runs that end well -/

/-- Work that ends a run with the code zero has given what is written. -/
theorem output_of_exit_zero {α : Type} {verbosity : Nat} {output : α → String}
    {work : Except Problem α × List Event}
    (ended : (Outcome.ofWork verbosity output work).ending = .exit 0) :
    ∃ a, work.1 = .ok a ∧ (Outcome.ofWork verbosity output work).output = output a := by
  obtain ⟨result, events⟩ := work
  cases result with
  | ok a => exact ⟨a, rfl, rfl⟩
  | error problem =>
    rw [Outcome.ofWork] at ended
    simp only at ended
    split at ended <;> cases ended

variable {s s' : Settings} {t : FileTree} {project : Project} {plan : Plan}

/-- The project depends on what has been set for the configuration, and its supergraph and format on
what has been set for them. -/
theorem resolves_of_same (config : s'.config = s.config) (supergraph : s'.supergraph = s.supergraph)
    (format : s'.format = s.format) (resolved : Resolves t s project) :
    ∃ other, Resolves t s' other ∧ other.supergraph = project.supergraph ∧
      other.planFormat = project.planFormat := by
  obtain ⟨name, found, named, configured, rfl⟩ := resolved
  refine ⟨_, ⟨name, found, config.trans named, configured, rfl⟩, ?_, ?_⟩
  · simp only [Settings.project, supergraph]
  · simp only [Settings.project, format]

/-- What is reported of fields that have been left out, given the warnings about them. -/
def leftOutLines (warnings : List String) : List String :=
  if warnings.isEmpty then []
  else
    "" :: s!"{warnings.length} field(s) left out of the query plan:"
      :: warnings.map fun warning => s!"  {warning}"

theorem gatewayReport_eq (gateway : Gateway) :
    gatewayReport gateway =
      lines ((gateway.files.map fun file => s!"Generated {file.text}")
        ++ leftOutLines (gateway.plan.warnings.map Warning.message)) := by
  rw [gatewayReport, leftOutLines, List.isEmpty_map, List.isEmpty_map, List.length_map,
    List.length_map, List.map_map]
  rfl

/-- A generating run that ends well has found its project and generated the gateway of it. -/
theorem generated_of_exit_zero
    (ended : ((generate s : StateM FileTree _).run t).1.ending = .exit 0) :
    ∃ project gateway log log', Resolves t s project ∧
      (project.generate : Work (StateM FileTree) _).runOn log t =
        ((.ok gateway, log'), ((generate s : StateM FileTree _).run t).2) ∧
      ((generate s : StateM FileTree _).run t).1.output = gatewayReport gateway := by
  have run : (generate s : StateM FileTree _).run t =
      (Outcome.ofWork s.verbosity gatewayReport
          ((resolveProject s >>= Project.generate : Work (StateM FileTree) _).runOn [] t).1,
        ((resolveProject s >>= Project.generate : Work (StateM FileTree) _).runOn [] t).2) := rfl
  rw [run] at ended ⊢
  obtain ⟨gateway, done, output⟩ := output_of_exit_zero ended
  cases ran : (resolveProject s >>= Project.generate : Work (StateM FileTree) _).runOn [] t with
  | mk outcome t' =>
    obtain ⟨result, log'⟩ := outcome
    rw [ran] at done output
    cases done
    obtain ⟨project, log, t₁, found, generated⟩ := runOn_bind_eq_ok ran
    obtain ⟨resolved, rfl⟩ := (looks_resolveProject s).gives_of_runOn found
    exact ⟨project, gateway, log, log', resolved, generated, output⟩

/-- When a project is found and its plan is made, the plan is shown. -/
theorem showPlan_of_plans (resolved : Resolves t s project)
    (planned : t.Plans project.supergraph plan) :
    ((showPlan s : StateM FileTree _).run t).1.ending = .exit 0 ∧
      ((showPlan s : StateM FileTree _).run t).1.output =
        Document.render plan project.planFormat := by
  have work := (looks_resolveProject (t := t) s).bind fun project _ =>
    (looks_compileFile (t := t) project.supergraph).bind fun plan _ =>
      looks_pure (Document.render plan project.planFormat)
  obtain ⟨log, ran⟩ := work.runOn_of_gives ⟨project, resolved, plan, planned, rfl⟩ []
  have run : ((showPlan s : StateM FileTree _).run t).1 = Outcome.ofWork s.verbosity id
      ((resolveProject s >>= fun project => compileFile project.supergraph >>= fun plan =>
        pure (Document.render plan project.planFormat) :
          Work (StateM FileTree) _).runOn [] t).1 := rfl
  rw [run, ran]
  exact ⟨rfl, rfl⟩

/-! ### Both commands -/

/-- When a command line generates a gateway and another one shows a plan, for the same configuration
and with the same supergraph and format set, and the first ends well on a tree, then so does the
second on that tree, and it prints what the first has written to the file of the document. The
warnings of the document are those that the first has counted and listed. -/
theorem plan_shows_what_generate_writes (generating showing : List String) (s s' : Settings)
    (understood : Invocation.ofArguments generating = .ok ⟨.generate, s⟩)
    (understoodToo : Invocation.ofArguments showing = .ok ⟨.plan, s'⟩)
    (config : s'.config = s.config) (supergraph : s'.supergraph = s.supergraph)
    (format : s'.format = s.format) (t : FileTree)
    (ended : ((run generating : StateM FileTree _).run t).1.ending = .exit 0) :
    ((run showing : StateM FileTree _).run t).1.ending = .exit 0 ∧
      ∃ project name plan warnings, Resolves t s project ∧ project.output = .text name ∧
        ((run generating : StateM FileTree _).run t).2.read
            ((Path.ofText name).child (Emit.documentName project.planFormat)) =
          .ok (some ((run showing : StateM FileTree _).run t).1.output) ∧
        ((run showing : StateM FileTree _).run t).1.output =
          Document.render plan project.planFormat ∧
        (Document.members plan).lookup "warnings" = some (.list (warnings.map .text)) ∧
        ((run generating : StateM FileTree _).run t).1.output =
          lines (((Emit.artifactNames project.planFormat).map fun file =>
            s!"Generated {((Path.ofText name).child file).text}") ++ leftOutLines warnings) := by
  have first : (run generating : StateM FileTree _) = generate s := by rw [run, understood]; rfl
  have second : (run showing : StateM FileTree _) = showPlan s' := by rw [run, understoodToo]; rfl
  rw [first] at ended
  rw [first, second]
  obtain ⟨project, gateway, log, log', resolved, generated, output⟩ := generated_of_exit_zero ended
  obtain ⟨name, said, planned, files, written⟩ := generated_of_runOn generated
  -- The projects may differ in all but the supergraph and the format.
  obtain ⟨other, resolvedToo, sameSupergraph, sameFormat⟩ :=
    resolves_of_same config supergraph format resolved
  rw [← sameSupergraph] at planned
  obtain ⟨endedToo, shown⟩ := showPlan_of_plans resolvedToo planned
  rw [sameFormat] at shown
  refine ⟨endedToo, project, name, gateway.plan, gateway.plan.warnings.map Warning.message,
    resolved, said, ?_, shown, ?_, ?_⟩
  · rw [shown, written]
  · rw [List.map_map]
    rfl
  · rw [output, gatewayReport_eq, files, List.map_map]
    rfl

/-- A tree with a supergraph whose items have a weight that nobody owns. -/
def stockTree : FileTree :=
  ⟨[(["stock.graphql"], .file (some "type Query { count: Int } type Item { weight: Int }")),
    (["out"], .directory)], []⟩

/-- The plan of the stock is shown as it has been written, and the weight is reported. -/
theorem stockTree_shows_what_generate_writes :
    ∃ generating showing : StateM FileTree Outcome,
      generating = run ["generate", "-s", "stock.graphql", "--format", "json", "-o", "out"] ∧
      showing = run ["-v", "plan", "--format", "json", "-s", "stock.graphql"] ∧
      (generating.run stockTree).1.ending = .exit 0 ∧ (showing.run stockTree).1.ending = .exit 0 ∧
      (generating.run stockTree).1.output = lines
        ["Generated out/schema_types.py", "Generated out/query_plan.py",
          "Generated out/service.py", "Generated out/plan.json", "",
          "1 field(s) left out of the query plan:",
          "  [Item.weight] no owning subgraph could be resolved"] ∧
      ∃ path, (generating.run stockTree).2.read path =
        .ok (some (showing.run stockTree).1.output) := by
  have generating : Invocation.ofArguments
      ["generate", "-s", "stock.graphql", "--format", "json", "-o", "out"] =
        .ok ⟨.generate,
          { supergraph := some "stock.graphql", output := some "out", format := some .json }⟩ := by
    decide +kernel
  have showing : Invocation.ofArguments ["-v", "plan", "--format", "json", "-s", "stock.graphql"] =
        .ok ⟨.plan,
          { supergraph := some "stock.graphql", format := some .json, verbosity := 1 }⟩ := by
    decide +kernel
  have computed : (match ((run
      ["generate", "-s", "stock.graphql", "--format", "json", "-o", "out"] :
        StateM FileTree _).run stockTree).1 with
    | ⟨output, _, .exit code⟩ => code == 0 && output == lines
        ["Generated out/schema_types.py", "Generated out/query_plan.py",
          "Generated out/service.py", "Generated out/plan.json", "",
          "1 field(s) left out of the query plan:",
          "  [Item.weight] no owning subgraph could be resolved"]
    | ⟨_, _, .broken _⟩ => false) = true := by decide +kernel
  split at computed
  next output _ code ran =>
    obtain ⟨zero, reported⟩ := Bool.and_eq_true_iff.1 computed
    have ended : ((run ["generate", "-s", "stock.graphql", "--format", "json", "-o", "out"] :
        StateM FileTree _).run stockTree).1.ending = .exit 0 := by rw [ran, beq_iff_eq.1 zero]
    obtain ⟨endedToo, _, _, _, _, _, _, written, _⟩ :=
      plan_shows_what_generate_writes _ _ _ _ generating showing rfl rfl rfl stockTree ended
    exact ⟨_, _, rfl, rfl, ended, endedToo, by rw [ran, beq_iff_eq.1 reported], _, written⟩
  next => cases computed

end Command

end Supergraph
