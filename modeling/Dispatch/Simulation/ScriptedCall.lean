/-
Dispatch/Simulation/ScriptedCall.lean

Guarded calls of a backend whose behaviour is known beforehand, on a virtual clock.

A script says of every attempt how long it takes and what comes of it.  An outcome that is there
at the very time at which the attempt runs out of time counts, and a call that is abandoned at a
time has taken every step up to it.
-/
import Dispatch.Resilience.Guards
import Dispatch.Simulation.Process

namespace Dispatch

/-- What an attempt does. -/
structure ScriptedAttempt (α : Type) where
  /-- Time until the outcome is there. -/
  delay : Duration := Duration.zero
  outcome : Except Failure α

/-- A call and the script of its attempts. -/
structure ScriptedCall (α : Type) where
  plan : CallPlan
  /-- Spends a token of this caller first. -/
  caller : Option String := none
  /-- What the attempt with a number does; the first has the number 0. -/
  script : Nat → ScriptedAttempt α
  /-- When the call is abandoned. -/
  abandonAt : Option Nat := none
  /-- The call, once it has begun. -/
  call : Option (Call α) := none

namespace ScriptedCall

variable {α : Type}

/-- Spends the caller's token, if there is a caller, and begins the call. -/
def begin (s : ScriptedCall α) (now : Nat) (g : Guards) : Guards × Call α :=
  let call := Call.start s.plan now
  match s.caller with
  | none => (g, call)
  | some caller =>
    match g.admission caller now with
    | (g, .ok ()) => (g, call)
    | (g, .error e) => (g, call.finish (.error e))

/-- What the script says of the attempt that is running. -/
def current (s : ScriptedCall α) (c : Call α) : ScriptedAttempt α := s.script (c.attempts - 1)

/-- When the outcome of a running attempt is there. -/
def outcomeAt (s : ScriptedCall α) (c : Call α) (a : RunningAttempt) : Nat :=
  Clock.fires a.since (s.current c).delay

/-- Whether the call is to be abandoned by now. -/
def abandoned (s : ScriptedCall α) (now : Nat) : Bool := s.abandonAt.any fun t => t ≤ now

/-- The step that a call takes at a time. -/
def callStep? (s : ScriptedCall α) (now : Nat) (b : Breakers) (c : Call α) :
    Option (Breakers × Call α) :=
  match c.stage with
  | .ready => some (c.attempt s.plan now b)
  | .running a =>
    if s.outcomeAt c a ≤ now then some (c.complete s.plan now (s.current c).outcome b)
    else if a.expiresAt ≤ now then some (c.expire s.plan now b)
    else if s.abandoned now then some (c.cancel b)
    else none
  | .waiting t =>
    if t ≤ now then some (b, c.wake)
    else if s.abandoned now then some (c.cancel b)
    else none
  | .finished _ | .cancelled | .crashed _ => none

/-- The step that a scripted call takes at a time. -/
def step? (now : Nat) (g : Guards) (s : ScriptedCall α) : Option (Guards × ScriptedCall α) :=
  match s.call with
  | none =>
    let r := s.begin now g
    some (r.1, { s with call := some r.2 })
  | some c =>
    (s.callStep? now g.breakers c).map fun r =>
      ({ g with breakers := r.1 }, { s with call := some r.2 })

/-- When a scripted call goes on. -/
def wake? (s : ScriptedCall α) : Option Nat :=
  match s.call with
  | none => some 0
  | some c =>
    let soonest (ts : List Nat) : Option Nat := (ts ++ s.abandonAt.toList).min?
    match c.stage with
    | .ready => some 0
    | .running a => soonest [s.outcomeAt c a, a.expiresAt]
    | .waiting t => soonest [t]
    | .finished _ | .cancelled | .crashed _ => none

/-- A call begins, and every attempt starts, ends and is waited for. -/
def limit (s : ScriptedCall α) : Nat := 3 * s.plan.retry.maxAttempts + 5

/-- Scripted calls as processes over common guards. -/
def process : Process Guards (ScriptedCall α) where
  step? := step?
  wake? := wake?
  limit := limit

/-- Attempts that were started. -/
def attempts (s : ScriptedCall α) : Nat := (s.call.map Call.attempts).getD 0

/-- The result of a call that has come to one. -/
def result? (s : ScriptedCall α) : Option (Except CallError α) :=
  match s.call.map Call.stage with
  | some (.finished result) => some result
  | _ => none

end ScriptedCall

/-- Guards on a virtual clock, from one group of calls to the next. -/
structure GuardedSession where
  guards : Guards
  now : Nat := 0

namespace GuardedSession

/-- Lets time pass while nothing is called. -/
def advance (s : GuardedSession) (d : Duration) : GuardedSession :=
  { s with now := s.now + d.nanos }

/-- Makes calls side by side until all of them are over. -/
def run {α : Type} (s : GuardedSession) (calls : List (ScriptedCall α)) :
    GuardedSession × List (ScriptedCall α) :=
  let r := ScriptedCall.process.run s.now s.guards calls
  ({ now := r.1, guards := r.2.1 }, r.2.2)

/-- Spends a token of a caller. -/
def admission (s : GuardedSession) (caller : String) :
    GuardedSession × Except CallError Unit :=
  let r := s.guards.admission caller s.now
  ({ s with guards := r.1 }, r.2)

/-- Drops the buckets of callers that have been idle for a time, and says how many these
were. -/
def prune (s : GuardedSession) (idle : Duration) : GuardedSession × Nat :=
  let r := s.guards.limiter.prune idle s.now
  ({ s with guards := { s.guards with limiter := r.1 } }, r.2)

/-- Closes every circuit. -/
def resetBreakers (s : GuardedSession) : GuardedSession :=
  { s with guards := { s.guards with breakers := s.guards.breakers.reset } }

/-- The health of a backend. -/
def health (s : GuardedSession) (backend : String) : Health :=
  s.guards.breakers.health backend s.now

/-- Tokens of a caller. -/
def available (s : GuardedSession) (caller : String) : Float :=
  s.guards.limiter.available caller s.now

end GuardedSession

end Dispatch
