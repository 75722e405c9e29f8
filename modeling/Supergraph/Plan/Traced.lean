import Supergraph.Plan.Event
import Supergraph.Plan.Failure

/-!
# Results with events

A step of planning ends with a value or a failure and tells what happened on the way. What happened
before a failure stays told.

## Main definitions

* `Traced` — events together with a value or a failure
* `Traced.tell`, `Traced.fail`, `Traced.check` — one event, a failure, a result without events
-/

namespace Supergraph

/-- The events of a step and what it ends with. -/
structure Traced (α : Type) where
  events : List Event
  result : Except Failure α

namespace Traced

variable {α β : Type}

/-- A value without events. -/
def done (a : α) : Traced α := ⟨[], .ok a⟩

/-- One step after the other. A failure ends both. -/
def andThen (x : Traced α) (next : α → Traced β) : Traced β :=
  match x.result with
  | .ok a => ⟨x.events ++ (next a).events, (next a).result⟩
  | .error e => ⟨x.events, .error e⟩

instance : Monad Traced where
  pure := done
  bind := andThen

/-- A failure without events. -/
def fail (e : Failure) : Traced α := ⟨[], .error e⟩

/-- One event. -/
def tell (e : Event) : Traced Unit := ⟨[e], .ok ()⟩

/-- A result without events. -/
def check {ε : Type} (cause : ε → Failure) (x : Except ε α) : Traced α :=
  ⟨[], x.mapError cause⟩

/-- The warnings that were told. -/
def warnings (x : Traced α) : List Warning :=
  warningsIn x.events

end Traced

end Supergraph
