/-
Dispatch/Resilience/Call.lean

One guarded call: attempts with a circuit breaker, a time limit and delays in between.

A call waits in two places only, for the outcome of an attempt and for the end of a delay.
Between them it moves on in single steps, and other calls may move between any two steps:

* `attempt` asks the breaker and starts an attempt, or ends the call;
* `complete` takes in the outcome of an attempt, `expire` the end of its time;
* `wake` ends a delay;
* `cancel` abandons the call wherever it waits.

An attempt may take as long as the plan says, and never longer than the time that is left for
the whole call.  An attempt that ends for the first reason counts as a failure that may pass;
one that the call itself cuts short counts as nothing, and its permit is given back.
-/
import Dispatch.Clock.Basic
import Dispatch.Resilience.Backoff
import Dispatch.Resilience.CallError

namespace Dispatch

/-- What stays the same during a call. -/
structure CallPlan where
  backend : String
  /-- Most time for one attempt. -/
  timeout : Duration
  retry : RetrySettings
  /-- Scales the delay after the attempt with this number. -/
  factor : Nat → BinaryFraction

/-- A time of a call that cannot be computed. -/
inductive TimeFault where
  | deadline | delay | wakeUp
  deriving DecidableEq, Repr

/-- An attempt that is running. -/
structure RunningAttempt where
  permit : Permit
  since : Nat
  /-- Most time for the attempt. -/
  limit : Duration
  /-- Whether the limit is what was left for the whole call. -/
  clamped : Bool
  deriving DecidableEq, Repr

/-- When the time of an attempt is over. -/
def RunningAttempt.expiresAt (a : RunningAttempt) : Nat := Clock.fires a.since a.limit

/-- Where a call stands. -/
inductive CallStage (α : Type) where
  /-- About to start an attempt. -/
  | ready
  | running (attempt : RunningAttempt)
  /-- Waiting for the end of a delay. -/
  | waiting (wakeAt : Nat)
  | finished (result : Except CallError α)
  | cancelled
  | crashed (fault : TimeFault)
  deriving Repr

/-- A call of a backend. -/
structure Call (α : Type) where
  /-- When the call has to be over. -/
  deadline : Nat
  /-- Attempts that were started. -/
  attempts : Nat := 0
  delays : Backoff.Schedule
  stage : CallStage α
  deriving Repr

namespace Call

variable {α : Type}

/-- Begins a call. -/
def start (plan : CallPlan) (now : Nat) : Call α :=
  let delays := Backoff.Schedule.ofSettings plan.retry
  match Clock.after? now plan.retry.deadline with
  | some deadline => { deadline, delays, stage := .ready }
  | none => { deadline := now, delays, stage := .crashed .deadline }

/-- Ends a call. -/
def finish (c : Call α) (result : Except CallError α) : Call α :=
  { c with stage := .finished result }

/-- Starts an attempt, if time is left and the breaker lets it. -/
def attempt (plan : CallPlan) (now : Nat) (b : Breakers) (c : Call α) : Breakers × Call α :=
  let remaining := Duration.saturating (c.deadline - now)
  if remaining.isZero then
    (b, c.finish (.error (.deadlineExceeded plan.backend c.attempts)))
  else
    match b.acquire plan.backend now with
    | (b, none) => (b, c.finish (.error (.circuitOpen plan.backend)))
    | (b, some permit) =>
      let running : RunningAttempt := {
        permit
        since := now
        limit := min plan.timeout remaining
        clamped := remaining < plan.timeout }
      (b, { c with attempts := c.attempts + 1, stage := .running running })

/-- Uses up the permit of an attempt that failed. -/
def settleFailure (now : Nat) (b : Breakers) (permit : Permit) (failure : Failure) : Breakers :=
  if failure.category.countsAgainstBackend then b.settle permit false now else b.release permit

/-- When the delay after a failed attempt would be over. -/
def wakeUp (plan : CallPlan) (now : Nat) (c : Call α) : Except TimeFault Nat :=
  match Backoff.scaled? (plan.factor c.attempts) (c.delays.take plan.retry.maxDelay).1 with
  | none => .error .delay
  | some delay =>
    match Clock.after? now delay with
    | none => .error .wakeUp
    | some wakeUp => .ok wakeUp

/-- What a call does after a failed attempt: it ends, or it waits before the next one. -/
def afterFailure (plan : CallPlan) (now : Nat) (failure : Failure) (c : Call α) : Call α :=
  if !failure.category.isRetryable then c.finish (.error (.backend plan.backend failure))
  else if plan.retry.maxAttempts ≤ c.attempts then
    c.finish (.error (.retriesExhausted plan.backend c.attempts failure))
  else
    let delays := (c.delays.take plan.retry.maxDelay).2
    match c.wakeUp plan now with
    | .error fault => { c with delays, stage := .crashed fault }
    | .ok wakeUp =>
      if c.deadline ≤ wakeUp then
        c.finish (.error (.deadlineExceeded plan.backend c.attempts))
      else { c with delays, stage := .waiting (Clock.onGrid wakeUp) }

/-- Takes in the outcome of the running attempt. -/
def complete (plan : CallPlan) (now : Nat) (outcome : Except Failure α) (b : Breakers)
    (c : Call α) : Breakers × Call α :=
  match c.stage, outcome with
  | .running a, .ok value => (b.settle a.permit true now, c.finish (.ok value))
  | .running a, .error failure =>
    (settleFailure now b a.permit failure, c.afterFailure plan now failure)
  | _, _ => (b, c)

/-- The failure of an attempt that took too long. -/
def timedOut (limit : Duration) : Failure :=
  { category := .transient, message := "call timed out after " ++ limit.short }

/-- Ends the running attempt because its time is over. -/
def expire (plan : CallPlan) (now : Nat) (b : Breakers) (c : Call α) : Breakers × Call α :=
  match c.stage with
  | .running a =>
    if a.clamped then
      (b.release a.permit, c.finish (.error (.deadlineExceeded plan.backend c.attempts)))
    else
      let failure := timedOut a.limit
      (settleFailure now b a.permit failure, c.afterFailure plan now failure)
  | _ => (b, c)

/-- Ends a delay. -/
def wake (c : Call α) : Call α :=
  match c.stage with
  | .waiting _ => { c with stage := .ready }
  | _ => c

/-- Abandons a call; the permit of a running attempt is given back. -/
def cancel (b : Breakers) (c : Call α) : Breakers × Call α :=
  match c.stage with
  | .running a => (b.release a.permit, { c with stage := .cancelled })
  | .ready | .waiting _ => (b, { c with stage := .cancelled })
  | .finished _ | .cancelled | .crashed _ => (b, c)

/-- Whether nothing is left to do. -/
def isOver (c : Call α) : Bool :=
  match c.stage with
  | .ready | .running _ | .waiting _ => false
  | .finished _ | .cancelled | .crashed _ => true

end Call

end Dispatch
