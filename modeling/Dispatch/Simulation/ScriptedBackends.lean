/-
Dispatch/Simulation/ScriptedBackends.lean

Backends that do what their scripts say.

Whatever is sent to a backend takes the next entry of its script, whichever task sends it.  Past
the end of the script a backend replies at once.  All that is sent is written down.
-/
import Dispatch.Simulation.SimulatedTask

namespace Dispatch

/-- What a backend does once; parts of a reply that are left out have defaults. -/
structure ScriptEntry where
  delay : Duration := Duration.zero
  failure : Option Failure := none
  content : Option String := none
  model : Option String := none
  usage : TokenUsage := { prompt := 10, completion := 5 }
  deriving DecidableEq, Repr

/-- What a backend with a name does with a payload. -/
def ScriptEntry.attempt (e : ScriptEntry) (backend payload : String) :
    ScriptedAttempt Response where
  delay := e.delay
  outcome :=
    match e.failure with
    | some failure => .error failure
    | none => .ok {
        content := e.content.getD s!"{backend} says: {payload}"
        model := e.model.getD s!"{backend}-model"
        usage := e.usage }

/-- Something that was sent to a backend. -/
structure Sending where
  backend : String
  payload : String
  window : Conversation
  deriving DecidableEq, Repr

/-- Scripts that are left, and what was sent. -/
structure ScriptedBackends where
  scripts : Table (List ScriptEntry) := .empty
  /-- All that was sent, the latest first. -/
  sent : List Sending := []
  deriving Repr

namespace ScriptedBackends

/-- Takes the next entry of a script. -/
def behaviour : Behaviour ScriptedBackends := fun b backend window task =>
  let script := (b.scripts.get? backend).getD []
  let entry := script.head?.getD {}
  ({ scripts := b.scripts.insert backend script.tail
     sent := { backend, payload := task.payload, window } :: b.sent },
    entry.attempt backend task.payload)

end ScriptedBackends

end Dispatch
