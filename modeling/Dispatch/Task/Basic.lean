/-
Dispatch/Task/Basic.lean

Tasks: a payload with its kind, and what the caller asks for beside it.

The kind is never chosen by the caller.  `Task.ofPayload` is the only way to a task that does
not copy one, and it classifies.
-/
import Dispatch.Backend.Capabilities
import Dispatch.Task.Classification

namespace Dispatch

/-- One unit of work of a caller. -/
structure Task where
  id : String
  kind : TaskKind
  payload : String
  /-- The conversation that the task continues. -/
  conversation : Option String := none
  project : Option String := none
  /-- The backend that the caller asks for, whatever the kind. -/
  backend : Option String := none
  requirements : Requirements := {}
  deriving DecidableEq, Repr

/-- A task with nothing but a payload. -/
def Task.ofPayload (id payload : String) : Task :=
  { id, kind := TaskKind.classify payload, payload }

end Dispatch
