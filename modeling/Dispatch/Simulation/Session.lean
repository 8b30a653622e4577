/-
Dispatch/Simulation/Session.lean

A dispatcher on a virtual clock, from one group of tasks to the next.
-/
import Dispatch.Simulation.SimulatedTask

namespace Dispatch

/-- A dispatcher with what its tasks share, and the time. -/
structure Session (σ β : Type) where
  dispatcher : Dispatcher
  world : SimulatedWorld σ β
  now : Nat := 0

namespace Session

variable {σ β : Type}

/-- What was counted so far. -/
def metrics (s : Session σ β) : Metrics := s.world.shared.metrics

/-- Puts other metrics in the place of those that are there. -/
def withMetrics (s : Session σ β) (metrics : Metrics) : Session σ β :=
  { s with world := { s.world with shared := { s.world.shared with metrics } } }

/-- What guards the calls. -/
def guards (s : Session σ β) : Guards := s.world.shared.guards

/-- The state of every registered backend. -/
def health (s : Session σ β) : List (String × Health) :=
  s.dispatcher.registry.names.map fun name => (name, s.guards.breakers.health name s.now)

/-- Lets time pass while no task is handled. -/
def advance (s : Session σ β) (d : Duration) : Session σ β := { s with now := s.now + d.nanos }

variable [ConversationStore σ]

/-- Calls the store. -/
def callStore (s : Session σ β) (c : StoreCall) : Session σ β × StoreAnswer :=
  let r := ConversationStore.call s.world.store c (s.dispatcher.timeOfDay s.now)
  ({ s with world := { s.world with store := r.1 } }, r.2)

/-- Handles tasks side by side until all of them are over. -/
def handle (s : Session σ β) (behaviour : Behaviour β) (requests : List TaskRequest) :
    Session σ β × List SimulatedTask :=
  let tasks := requests.map fun request => { request : SimulatedTask }
  let r := (SimulatedTask.process s.dispatcher behaviour).run s.now s.world tasks
  ({ s with now := r.1, world := r.2.1 }, r.2.2)

end Session

end Dispatch
