import Supergraph.Files.System
import Supergraph.Gateway.Problem
import Supergraph.Plan.Traced
import Supergraph.Text.LineEnd

/-!
# Work

Work on files that tells events on the way and may end with a problem. What was told before a
problem stays told.

## Main definitions

* `Work` — work over some kind of effect
* `Work.tell`, `Work.trace`, `Work.ask`, `Work.check` — events, planning, steps on files, and
  results
* `readText` — the text of a file
* `kindOf`, `mayWrite` — questions about a path
-/

namespace Supergraph

/-- Work that tells events and may end with a problem. -/
abbrev Work (m : Type → Type) := ExceptT Problem (StateT (List Event) m)

variable {m : Type → Type} [Monad m] {α ε : Type}

namespace Work

/-- Tells events. -/
def tell (events : List Event) : Work m Unit :=
  modify (· ++ events)

/-- A result, with the problem that its error is. -/
def check (cause : ε → Problem) : Except ε α → Work m α
  | .ok a => pure a
  | .error e => throw (cause e)

/-- A step of planning. -/
def trace (x : Traced α) : Work m α := do
  tell x.events
  check .plan x.result

/-- A step that answers with a result. -/
def ask (cause : ε → Problem) (step : m (Except ε α)) : Work m α := do
  let result ← (step : StateT (List Event) m (Except ε α))
  check cause result

/-- The events that work tells, and what it ends with. -/
def finish (work : Work m α) : m (Except Problem α × List Event) :=
  StateT.run (ExceptT.run work) []

end Work

variable [FileSystem m]

/-- The text of a file, with line feeds only. -/
def readText (path : Path) : Work m String := do
  match ← Work.ask .file (FileSystem.read path) with
  | none => throw (.undecodable path.text)
  | some text => return String.ofList (Text.unifyLineEnds text.toList)

/-- What lies at a path. -/
def kindOf (path : Path) : Work m (Option FileKind) :=
  Work.ask .file (FileSystem.kindOf path)

/-- Whether files may be put into the directory at a path. -/
def mayWrite (path : Path) : Work m Bool :=
  liftM (FileSystem.mayWrite path : m Bool)

end Supergraph
