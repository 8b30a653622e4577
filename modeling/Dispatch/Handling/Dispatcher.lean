/-
Dispatch/Handling/Dispatcher.lean

A dispatcher: a valid configuration and the backends that are there to be called.

What the router is told comes from both.  Only registered backends are in the catalog, and of
those only the ones that the configuration does not disable.  The capabilities that a backend is
declared with take the place of those it advertises.
-/
import Dispatch.Backend.Registry
import Dispatch.Conversation.Window
import Dispatch.Handling.Error
import Dispatch.Metrics.Basic
import Dispatch.Resilience.Guards

namespace Dispatch

/-- What stays the same while tasks are handled. -/
structure Dispatcher where
  config : Config
  registry : Registry := .empty
  /-- The time of day at a time of the clock. -/
  timeOfDay : Nat → Timestamp := fun _ => Timestamp.epoch

/-- What all tasks share. -/
structure Shared where
  guards : Guards
  metrics : Metrics := {}

/-- A registered backend with the answer of its own health check. -/
structure BackendHealth where
  descriptor : Descriptor
  reachable : Bool
  deriving DecidableEq, Repr

namespace Dispatcher

/-- A dispatcher, if the configuration is valid. -/
def ofConfig (config : Config) (registry : Registry) : Except HandlingError Dispatcher :=
  match config.validate with
  | .ok () => .ok { config, registry }
  | .error f => .error (.ofConfig (.fault f))

/-- What all tasks share at first. -/
def shared (d : Dispatcher) : Shared := { guards := Guards.ofConfig d.config }

/-- What the router is told of a registered backend, unless it is disabled. -/
def descriptor? (d : Dispatcher) (b : Breakers) (now : Nat) (name : String) (a : Adapter) :
    Option Descriptor :=
  let declared := d.config.backends.get? name
  if declared.any fun c => !c.enabled then none
  else some {
    name
    capabilities := (declared.map BackendConfig.capabilities).getD a.capabilities
    health := b.health name now
    ranks := d.config.ranksOf name }

/-- What the router is told at a time. -/
def catalog (d : Dispatcher) (b : Breakers) (now : Nat) : Catalog :=
  d.registry.filterMap (d.descriptor? b now)

/-- The state of every backend of the catalog. -/
def healthReport (d : Dispatcher) (b : Breakers) (now : Nat) : List BackendHealth :=
  (d.catalog b now).entries.filterMap fun e =>
    (d.registry.get? e.1).map fun a => { descriptor := e.2, reachable := a.reachable }

/-- The history that a backend is sent. -/
def windowFor (d : Dispatcher) (a : Adapter) (history : Conversation) : Conversation :=
  history.window (d.config.history.windowBudget a.capabilities)

end Dispatcher

end Dispatch
