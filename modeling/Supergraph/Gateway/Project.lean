import Supergraph.Emit.Artifact
import Supergraph.Files.Staging
import Supergraph.Gateway.Work
import Supergraph.Plan.Compile

/-!
# Projects

A project names a supergraph and the directory of the gateway that is generated from it. Generating
looks at the directory first, then makes the plan, then the texts of all files, and only then writes
them.

## Main definitions

* `Project` — the projects
* `compileFile` — the plan of the supergraph in a file
* `Project.directory` — the directory of the gateway
* `Project.generate`, `generateGateway` — generate the gateway of a project
-/

namespace Supergraph

open Yaml (Data)

/-- A request for a gateway. -/
structure Project where
  name : Data
  supergraph : Data
  output : Data
  port : Value
  planFormat : PlanFormat

/-- A plan, and the paths of the files that were generated from it. -/
structure Gateway where
  plan : Plan
  files : List Path

variable {m : Type → Type} [Monad m]

/-- The path that data say. -/
def pathOf : Data → Work m Path
  | .text text => pure (Path.ofText text)
  | .bytes _ => throw .bytesForPath
  | other => throw (.notPath other.kindName)

/-- The problem with a gateway whose files were not installed. -/
def InstallFault.problem : InstallFault → Problem
  | refused cause => .writing cause
  | remains cause => .file cause

variable [FileSystem m]

/-- The plan of the supergraph in a file. -/
def compileFile (supergraph : Data) : Work m Plan := do
  let path ← pathOf supergraph
  unless (← kindOf path) = some .file do throw .supergraph
  Work.tell [.schemaRead path.text]
  Work.trace (compileText (← readText path))

/-- The directory of the gateway, if it is one that files may be put into. -/
def Project.directory (project : Project) : Work m Path := do
  let output ← pathOf project.output
  unless (← kindOf output) = some .directory do throw .output
  unless ← mayWrite output do throw .locked
  return output

/-- Generates the gateway of a project. -/
def Project.generate (project : Project) : Work m Gateway := do
  let output ← project.directory
  let plan ← compileFile project.supergraph
  -- All texts are made before the first file is written.
  let port ← Work.check .port (portOfValue project.port)
  let artifacts ← Work.check .unregistered (Emit.artifacts plan port project.planFormat)
  let files ← Work.ask InstallFault.problem (install output artifacts)
  Work.tell (files.map fun file => .fileWritten file.text)
  -- What is told last names the project, whatever its name is.
  unless project.name.isWritable do throw (.config .tooLong)
  Work.tell [.gatewayGenerated project.name.message output.text]
  return ⟨plan, files⟩

/-- Generates a gateway. A project without a name has that of the file of its supergraph. -/
def generateGateway (name : String) (supergraph output : Data) (port : Value) : Work m Gateway := do
  let name ← if name.isEmpty then do pure (← pathOf supergraph).stem else pure name
  Project.generate ⟨.text name, supergraph, output, port, .yaml⟩

end Supergraph
