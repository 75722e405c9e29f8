import Supergraph.Plan.Compile

/-!
# Planners

A planner keeps the warnings of what it has been asked. Planning one or all entities adds to them;
making a whole plan begins anew.

## Main definitions

* `Planner` — a federation with the warnings so far
* `Planner.planEntity`, `Planner.planEntities`, `Planner.compile` — what a planner is asked
-/

namespace Supergraph

/-- A federation with the warnings of what has been planned for it. -/
structure Planner where
  fed : Federation
  warnings : List Warning
  deriving Inhabited

namespace Planner

/-- The planner that has not been asked anything. -/
def ofFederation (fed : Federation) : Planner := ⟨fed, []⟩

/-- What a step ends with, and the planner with the warnings that the step told. -/
def after {α : Type} (p : Planner) (step : Traced α) : Except Failure α × Planner :=
  (step.result, { p with warnings := p.warnings ++ step.warnings })

/-- Plans one entity. -/
def planEntity (p : Planner) (type : String) : Except Failure EntityPlan × Planner :=
  p.after (p.fed.planEntity type)

/-- Plans all entities. -/
def planEntities (p : Planner) : Except Failure (Table EntityPlan) × Planner :=
  p.after p.fed.planEntities

/-- Makes the whole plan, forgetting earlier warnings. -/
def compile (p : Planner) : Except Failure Plan × Planner :=
  { p with warnings := [] }.after p.fed.compile

end Planner

end Supergraph
