import Supergraph.Gateway.Work
import Supergraph.Proofs.Files.Store

/-!
# Work on a store

Work runs on a store after some events. It goes on with what it has given, the events it has told
and the store it has left, or it ends with a problem there. Work that only looks at files leaves the
tree of a store as it is.

## Main definitions

* `Work.runOn` — what work ends with, its events, and the store then
* `Quiet` — work that leaves the tree as it is

## Main results

* `runOn_bind_of_ok`, `runOn_bind_of_error`, `runOn_bind_eq_ok` — one piece of work after the other
* `runOn_guard_eq_ok` — work behind a guard
* `Quiet.bind`, `Quiet.guard`, `quiet_ask` — when work is quiet
-/

namespace Supergraph

open LawfulStore (tree)

section Run

variable {σ α β : Type} {log log' : List Event} {s s' : σ}

/-- Work on a store after some events: what it ends with, the events, and the store then. -/
def Work.runOn (work : Work (StateM σ) α) (log : List Event) (s : σ) :
    (Except Problem α × List Event) × σ :=
  ((ExceptT.run work).run log).run s

/-- A step goes on with what it has given and the store that it has left. -/
theorem run_bind_of_run {step : StateM σ α} {after : α → StateM σ β} {a : α}
    (ran : step.run s = (a, s')) : (step >>= after).run s = (after a).run s' := by
  rw [StateT.run_bind, ran]
  rfl

variable {work : Work (StateM σ) α} {next : α → Work (StateM σ) β}

theorem runOn_bind_of_ok {a : α} (ran : work.runOn log s = ((.ok a, log'), s')) :
    (work >>= next).runOn log s = (next a).runOn log' s' := by
  change ((ExceptT.run work).run log).run s = _ at ran
  rw [Work.runOn, ExceptT.run_bind, StateT.run_bind, StateT.run_bind, ran]
  rfl

theorem runOn_bind_of_error {e : Problem} (ran : work.runOn log s = ((.error e, log'), s')) :
    (work >>= next).runOn log s = ((.error e, log'), s') := by
  change ((ExceptT.run work).run log).run s = _ at ran
  rw [Work.runOn, ExceptT.run_bind, StateT.run_bind, StateT.run_bind, ran]
  rfl

/-- One piece of work after the other succeeds when both do. -/
theorem runOn_bind_eq_ok {b : β} (ran : (work >>= next).runOn log s = ((.ok b, log'), s')) :
    ∃ a log₁ s₁, work.runOn log s = ((.ok a, log₁), s₁) ∧
      (next a).runOn log₁ s₁ = ((.ok b, log'), s') := by
  cases first : work.runOn log s with
  | mk outcome s₁ =>
    obtain ⟨result, log₁⟩ := outcome
    cases result with
    | error e =>
      rw [runOn_bind_of_error first] at ran
      cases ran
    | ok a =>
      rw [runOn_bind_of_ok first] at ran
      exact ⟨a, log₁, s₁, rfl, ran⟩

/-- Work behind a guard succeeds when the guard holds and the work does. -/
theorem runOn_guard_eq_ok {c : Prop} [Decidable c] {e : Problem}
    {next : PUnit → Work (StateM σ) β} {b : β}
    (ran : (if c then next ⟨⟩ else throw e >>= next).runOn log s = ((.ok b, log'), s')) :
    c ∧ (next ⟨⟩).runOn log s = ((.ok b, log'), s') := by
  split at ran
  next holds => exact ⟨holds, ran⟩
  next =>
    obtain ⟨_, _, _, thrown, _⟩ := runOn_bind_eq_ok ran
    cases thrown

/-- A step gives what it gives, and tells nothing. -/
theorem runOn_step {step : StateM σ α} {a : α} (ran : step.run s = (a, s')) :
    @Work.runOn σ α (step : StateT (List Event) (StateM σ) α) log s = ((.ok a, log), s') := by
  change ((Except.ok (step.run s).1, log), (step.run s).2) = _
  rw [ran]

/-- A step that answers with a result ends with it, and tells nothing. -/
theorem runOn_ask {ε : Type} {cause : ε → Problem} {step : StateM σ (Except ε α)}
    {result : Except ε α} (ran : step.run s = (result, s')) :
    (Work.ask cause step).runOn log s = ((result.mapError cause, log), s') := by
  rw [Work.ask, runOn_bind_of_ok (runOn_step ran)]
  cases result <;> rfl

theorem check_eq_ok {ε : Type} {cause : ε → Problem} {x : Except ε α} {a : α}
    (ran : (Work.check cause x : Work (StateM σ) α).runOn log s = ((.ok a, log'), s')) :
    x = .ok a := by
  cases x with
  | ok b =>
    cases ran
    rfl
  | error e => cases ran

end Run

section Quiet

variable {σ α β : Type} [FileSystem (StateM σ)] [LawfulStore σ]

/-- Work that changes nothing, whatever it ends with. -/
def Quiet (work : Work (StateM σ) α) : Prop :=
  ∀ log s, tree (work.runOn log s).2 = tree s

variable {work : Work (StateM σ) α} {next : α → Work (StateM σ) β}

theorem Quiet.bind (first : Quiet work) (second : ∀ a, Quiet (next a)) : Quiet (work >>= next) := by
  intro log s
  cases ran : work.runOn log s with
  | mk outcome s₁ =>
    obtain ⟨result, log₁⟩ := outcome
    have same : tree s₁ = tree s := by simpa [ran] using first log s
    cases result with
    | error e => rw [runOn_bind_of_error ran, same]
    | ok a => rw [runOn_bind_of_ok ran, second a log₁ s₁, same]

theorem quiet_pure (a : α) : Quiet (pure a : Work (StateM σ) α) :=
  fun _ _ => rfl

theorem quiet_throw (e : Problem) : Quiet (throw e : Work (StateM σ) α) :=
  fun _ _ => rfl

theorem quiet_tell (events : List Event) : Quiet (Work.tell events : Work (StateM σ) Unit) :=
  fun _ _ => rfl

/-- Work behind a guard is quiet if it is quiet without. -/
theorem Quiet.guard {c : Prop} [Decidable c] {e : Problem} {next : PUnit → Work (StateM σ) β}
    (after : Quiet (next ⟨⟩)) : Quiet (if c then next ⟨⟩ else throw e >>= next) := by
  split
  · exact after
  · exact (quiet_throw e).bind fun _ => after

theorem quiet_check {ε : Type} (cause : ε → Problem) (x : Except ε α) :
    Quiet (Work.check cause x : Work (StateM σ) α) := by
  cases x with
  | ok a => exact quiet_pure a
  | error e => exact quiet_throw (cause e)

/-- A step that keeps the tree is quiet. -/
theorem quiet_step {step : StateM σ α} (keeps : ∀ s, tree (step.run s).2 = tree s) :
    Quiet ((step : StateT (List Event) (StateM σ) α) : Work (StateM σ) α) :=
  fun _ s => keeps s

theorem quiet_ask {ε : Type} {cause : ε → Problem} {step : StateM σ (Except ε α)}
    (keeps : ∀ s, tree (step.run s).2 = tree s) : Quiet (Work.ask cause step) :=
  (quiet_step keeps).bind fun result => quiet_check cause result

end Quiet

end Supergraph
