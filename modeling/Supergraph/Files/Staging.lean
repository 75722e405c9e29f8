import Supergraph.Files.System

/-!
# Staged writing

Several files are written to a directory as one. Each is first written under a staged path; when all
of them are written, they are moved to where they belong. When a step is refused, the staged files
are taken away.

## Main definitions

* `stage`, `publish`, `discard` — the three passes
* `install` — the passes together
* `InstallFault` — why files were not installed
-/

namespace Supergraph

/-- Where a file of a directory is written first. -/
def stagedPath (directory : Path) (name : String) : Path :=
  directory.child (name ++ ".partial")

/-- Why files were not installed. -/
inductive InstallFault where
  /-- A step was refused, and the staged files are gone. -/
  | refused (cause : FileFault)
  /-- A step was refused, and taking the staged files away was refused too. -/
  | remains (cause : FileFault)
  deriving DecidableEq, Repr

variable {m : Type → Type} [Monad m] [FileSystem m]

/-- Writes files under their staged paths until one is refused. Gives the staged paths that were
used. -/
def stage (directory : Path) : List (String × String) → m (List Path × Except FileFault Unit)
  | [] => return ([], .ok ())
  | (name, text) :: rest => do
    let path := stagedPath directory name
    match ← FileSystem.write path text with
    | .error fault => return ([path], .error fault)
    | .ok () =>
      let (paths, result) ← stage directory rest
      return (path :: paths, result)

/-- Moves staged files to where they belong until one is refused. -/
def publish (directory : Path) : List String → m (Except FileFault Unit)
  | [] => return .ok ()
  | name :: rest => do
    match ← FileSystem.move (stagedPath directory name) (directory.child name) with
    | .error fault => return .error fault
    | .ok () => publish directory rest

/-- Takes files away until one is refused. -/
def discard : List Path → m (Except FileFault Unit)
  | [] => return .ok ()
  | path :: rest => do
    match ← FileSystem.remove path with
    | .error fault => return .error fault
    | .ok () => discard rest

/-- Writes named texts to a directory and gives the paths of the files. -/
def install (directory : Path) (files : List (String × String)) :
    m (Except InstallFault (List Path)) := do
  let names := files.map Prod.fst
  let (staged, written) ← stage directory files
  let result ← match written with
    | .error fault => pure (.error fault)
    | .ok () => publish directory names
  match result with
  | .ok () => return .ok (names.map directory.child)
  | .error fault =>
    -- Files that have been moved stay where they are; only staged ones are taken away.
    match ← discard staged with
    | .ok () => return .error (.refused fault)
    | .error left => return .error (.remains left)

end Supergraph
