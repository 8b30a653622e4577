/-
Dispatch/Backend/Descriptor.lean

What the router knows of a backend: its name, its capabilities, the state of its circuit, and
its rank in every rule that names it.
-/
import Dispatch.Backend.Capabilities
import Dispatch.Task.Kind

namespace Dispatch

/-- The state of a backend's circuit. -/
inductive Health where
  /-- Calls pass. -/
  | closed
  /-- Calls fail at once. -/
  | open
  /-- One trial call may pass. -/
  | halfOpen
  deriving DecidableEq, Repr, Inhabited

/-- The name of a state. -/
def Health.name : Health → String
  | closed => "closed"
  | .open => "open"
  | halfOpen => "half_open"

/-- The place of a backend in the rule of one kind; rank 0 is preferred. -/
structure Rank where
  kind : TaskKind
  rank : Nat
  deriving DecidableEq, Repr, Inhabited

/-- What the router knows of a backend. -/
structure Descriptor where
  name : String
  capabilities : Capabilities
  health : Health := .closed
  ranks : List Rank := []
  deriving DecidableEq, Repr, Inhabited

end Dispatch
