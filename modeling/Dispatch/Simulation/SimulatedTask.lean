/-
Dispatch/Simulation/SimulatedTask.lean

Tasks on a virtual clock, with backends whose behaviour is given.

The behaviour of all backends is a state and a function: when a backend is sent a window and a
task, the function says how long the outcome takes and what it is.  Stores answer at once.
-/
import Dispatch.Handling.Basic
import Dispatch.Simulation.ScriptedCall

namespace Dispatch

/-- What a backend does with a window and a task that it is sent. -/
abbrev Behaviour (β : Type) :=
  β → (backend : String) → (window : Conversation) → Task → β × ScriptedAttempt Response

/-- What simulated tasks share. -/
structure SimulatedWorld (σ β : Type) where
  shared : Shared
  store : σ
  backends : β

/-- A task, how far it has come, and what the attempt that is running does. -/
structure SimulatedTask where
  request : TaskRequest
  stage : Option HandlingStage := none
  attempt : Option (ScriptedAttempt Response) := none

namespace SimulatedTask

variable {σ β : Type} [ConversationStore σ]

/-- The step that a call takes at a time, given what its running attempt does. -/
def callStep? (attempt : Option (ScriptedAttempt Response)) (now : Nat) (c : Call Response) :
    Option (CallPlan → Breakers → Call Response → Breakers × Call Response) :=
  match c.stage with
  | .ready => some fun plan b c => c.attempt plan now b
  | .running a =>
    let expiry : Option (CallPlan → Breakers → Call Response → Breakers × Call Response) :=
      if a.expiresAt ≤ now then some fun plan b c => c.expire plan now b else none
    match attempt with
    | none => expiry
    | some planned =>
      if Clock.fires a.since planned.delay ≤ now then
        some fun plan b c => c.complete plan now planned.outcome b
      else expiry
  | .waiting t => if t ≤ now then some fun _ b c => (b, c.wake) else none
  | .finished _ | .cancelled | .crashed _ => none

/-- Sends a window to a backend if the step has just started an attempt. -/
def send (behaviour : Behaviour β) (r : TaskRequest) (before : Call Response)
    (stage : HandlingStage) (backends : β) : β × Option (ScriptedAttempt Response) :=
  match before.stage, stage with
  | .ready, .calling _ _ current _ =>
    match current.call.stage with
    | .running _ =>
      let sent := behaviour backends current.backend current.window r.task
      (sent.1, some sent.2)
    | _ => (backends, none)
  | _, _ => (backends, none)

/-- The step that a task takes at a time. -/
def step? (d : Dispatcher) (behaviour : Behaviour β) (now : Nat) (w : SimulatedWorld σ β)
    (s : SimulatedTask) : Option (SimulatedWorld σ β × SimulatedTask) :=
  let r := s.request
  match s.stage with
  | none =>
    let (shared, stage) := Handling.begin r now w.shared
    some ({ w with shared }, { s with stage := some stage })
  | some (.calling history reason current rest) =>
    (callStep? s.attempt now current.call).map fun step =>
      let stage : HandlingStage := .calling history reason current rest
      let (shared, stage) := Handling.callStep d r now step w.shared stage
      let (backends, attempt) := send behaviour r current.call stage w.backends
      ({ w with shared, backends }, { s with stage := some stage, attempt })
  | some stage =>
    (Handling.request? r stage).map fun call =>
      let (store, answer) := ConversationStore.call w.store call (d.timeOfDay now)
      let (shared, stage) := Handling.answered d r now answer w.shared stage
      ({ w with shared, store }, { s with stage := some stage })

/-- When a task goes on. -/
def wake? (s : SimulatedTask) : Option Nat :=
  match s.stage with
  | none => some 0
  | some (.calling _ _ current _) =>
    match current.call.stage with
    | .running a =>
      let outcomeAt := s.attempt.map fun planned => Clock.fires a.since planned.delay
      (a.expiresAt :: outcomeAt.toList).min?
    | .waiting t => some t
    | .ready | .finished _ | .cancelled | .crashed _ => some 0
  | some stage => if Handling.isOver stage then none else some 0

/-- Tasks as processes over what they share. -/
def process (d : Dispatcher) (behaviour : Behaviour β) :
    Process (SimulatedWorld σ β) SimulatedTask where
  step? := step? d behaviour
  wake? := wake?
  -- every candidate is one call; the store is asked four times at most
  limit _ := d.registry.size * (3 * d.config.resilience.retry.maxAttempts + 5) + 6

/-- The result of a task that has come to one. -/
def result? (s : SimulatedTask) : Option (Except HandlingError TaskResponse) :=
  match s.stage with
  | some (.finished result) => some result
  | _ => none

end SimulatedTask

end Dispatch
