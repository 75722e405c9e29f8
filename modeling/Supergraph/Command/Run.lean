import Supergraph.Command.Invocation
import Supergraph.Gateway.Project

/-!
# Running commands

A command line is run on the files: what it writes to its output, the events it tells on the way,
and how it ends. A reported problem is one line of the output and ends a command with the code one.

## Main definitions

* `Outcome`, `Ending` — what a run does, and how it ends
* `resolveProject` — the project that a command works on
* `initialise`, `generate`, `showPlan` — the three commands
* `run` — runs a command line
-/

namespace Supergraph.Command

/-- How a run ends. -/
inductive Ending where
  | exit (code : Nat)
  /-- A problem that no command reports. -/
  | broken (problem : Problem)
  deriving Repr

/-- What a run writes, and how it ends. -/
structure Outcome where
  output : String
  diagnostics : String
  ending : Ending
  deriving Repr

/-- What is done in place of a command. -/
def Stop.outcome : Stop → Outcome
  | help verb => ⟨helpOf verb, "", .exit 0⟩
  | version => ⟨versionText, "", .exit 0⟩
  | refused verb error =>
    ⟨"", usageOf verb ++ s!"{titleOf verb}: error: {error.message}\n", .exit 2⟩

/-- The events of a level that is shown, as lines. Warnings always are, and more with every degree
of verbosity. -/
def shownEvents (verbosity : Nat) (events : List Event) : String :=
  lines ((events.filter fun e => 2 - verbosity ≤ e.level.rank).map Event.line)

/-- The project that a configuration describes, with what has been set in place of what it says. An
empty text sets nothing. What has been set in place of a port and is none stands there as an empty
list. -/
def Settings.project (s : Settings) (c : Config) : Project :=
  let given (text : Option String) (otherwise : Yaml.Data) : Yaml.Data :=
    match text with
    | some text => if text.isEmpty then otherwise else .text text
    | none => otherwise
  { name := c.project
    supergraph := given s.supergraph c.supergraph
    output := given s.output c.output
    port := match s.port with
      | .unset => .int c.port
      | .nothing => .list []
      | .number n => .int n
    planFormat := s.format.getD c.planFormat }

variable {m : Type → Type} [Monad m] [FileSystem m]

/-- The configuration in the file at a path, if anything lies there. -/
def loadConfig (path : Path) : Work m (Option Config) := do
  if (← kindOf path).isNone then return none
  let config ← Work.check .config (Config.ofText path.text (← readText path))
  return some config

/-- What is wrong with something that has been set in place of a path and is none. -/
def noPath : Problem := .notPath (Yaml.Data.kindName (.list none []))

/-- The project that a command works on. -/
def resolveProject (s : Settings) : Work m Project := do
  let some config := s.config | throw noPath
  match ← loadConfig (Path.ofText config) with
  | some config => return s.project config
  | none =>
    let home ← (FileSystem.homeName : m String)
    return s.project (.ofProject (.text home))

/-- What a run does whose work is done, given what it writes for the result. -/
def Outcome.ofWork {α : Type} (verbosity : Nat) (output : α → String)
    (work : Except Problem α × List Event) : Outcome :=
  let diagnostics := shownEvents verbosity work.2
  match work.1 with
  | .ok a => ⟨output a, diagnostics, .exit 0⟩
  | .error problem =>
    if problem.isReported then ⟨s!"Error: {problem.message}\n", diagnostics, .exit 1⟩
    else ⟨"", diagnostics, .broken problem⟩

/-! ### The commands -/

/-- Writes a configuration file and makes the output directory. -/
def initialise (s : Settings) : m Outcome := do
  let some config := s.config | return ⟨"", "", .broken noPath⟩
  let path := Path.ofText config
  match ← FileSystem.kindOf path with
  | .error fault => return ⟨"", "", .broken (.file fault)⟩
  | .ok found =>
    -- A configuration that is there is kept unless it is to be replaced.
    if found.isSome && !s.force then
      let error := s!"Error: {path.text} already exists. Use --force to overwrite.\n"
      return ⟨error, "", .exit 1⟩
    let home ← FileSystem.homeName
    let given := s.name.getD ""
    let name := if given.isEmpty then home else given
    match ← FileSystem.write path (Config.ofProject (.text name)).text with
    | .error fault => return ⟨"", "", .broken (.file fault)⟩
    | .ok () =>
      let created := s!"Created {path.text}\n"
      match ← FileSystem.makeDirectory (Path.ofText Config.usualOutput) with
      | .error fault => return ⟨created, "", .broken (.file fault)⟩
      | .ok () =>
        let steps := lines [s!"Created {Config.usualOutput}/",
          "",
          s!"Project '{name}' initialized!",
          "Next steps:",
          s!"  1. Put the composed supergraph SDL in {Config.usualSupergraph}",
          "  2. Run 'gatewaygen generate'"]
        return ⟨created ++ steps, "", .exit 0⟩

/-- What is said about a gateway that has been generated. -/
def gatewayReport (g : Gateway) : String :=
  let files := g.files.map fun file => s!"Generated {file.text}"
  let warnings := g.plan.warnings.map fun warning => s!"  {warning.message}"
  let heading := s!"{warnings.length} field(s) left out of the query plan:"
  lines (files ++ if warnings.isEmpty then [] else "" :: heading :: warnings)

/-- Generates the gateway of the configured project. -/
def generate (s : Settings) : m Outcome := do
  let work : Work m Gateway := do
    (← resolveProject s).generate
  return Outcome.ofWork s.verbosity gatewayReport (← work.finish)

/-- Shows the plan of the configured supergraph. -/
def showPlan (s : Settings) : m Outcome := do
  let work : Work m String := do
    let project ← resolveProject s
    return Document.render (← compileFile project.supergraph) project.planFormat
  return Outcome.ofWork s.verbosity id (← work.finish)

/-- Runs a command. -/
def Invocation.run (i : Invocation) : m Outcome :=
  match i.verb with
  | .init => initialise i.settings
  | .generate => generate i.settings
  | .plan => showPlan i.settings

/-- Runs a command line. -/
def run (arguments : List String) : m Outcome :=
  match Invocation.ofArguments arguments with
  | .ok invocation => invocation.run
  | .error stop => return stop.outcome

end Supergraph.Command
