/-
Dispatch/Metrics/Basic.lean

What is counted while tasks are handled.

Counters have 64 bits and wrap around.  A counter comes into being when it is first counted or
read, and from then on it is among those that are exported; so reading gives the metrics back as
well.  Latencies are kept as their number, their sum in seconds, and how many of them are within
each of a few bounds.
-/
import Dispatch.Duration.Seconds
import Dispatch.Resilience.CallError

namespace Dispatch

/-! ### Counters -/

/-- Counters by one label. -/
abbrev Counters := Table Nat

namespace Counters

/-- Counters wrap around here. -/
def bound : Nat := UInt64.size

/-- The value of a counter; one that is not there stands at zero. -/
def value (c : Counters) (label : String) : Nat := (c.get? label).getD 0

/-- Counts on by a number. -/
def add (c : Counters) (label : String) (n : Nat) : Counters :=
  c.insert label ((c.value label + n) % bound)

/-- Sum of all counters. -/
def total (c : Counters) : Nat := c.values.foldr (· + ·) 0

end Counters

/-- Counters by two labels. -/
abbrev CounterGrid := Table Counters

namespace CounterGrid

/-- The counters with a first label. -/
def row (g : CounterGrid) (label : String) : Counters := (g.get? label).getD .empty

/-- The value of a counter. -/
def value (g : CounterGrid) (first second : String) : Nat := (g.row first).value second

/-- Counts on by a number. -/
def add (g : CounterGrid) (first second : String) (n : Nat) : CounterGrid :=
  g.insert first ((g.row first).add second n)

end CounterGrid

/-! ### Latencies -/

/-- The latencies of a backend. -/
structure Latencies where
  count : Nat := 0
  /-- Sum in seconds. -/
  sum : Float := 0
  /-- For each bound, the number of latencies within it. -/
  within : List Nat := List.replicate 8 0

namespace Latencies

/-- The bounds, in seconds. -/
def bounds : List Float := [0.1, 0.5, 1, 2.5, 5, 10, 30, 60]

/-- Takes in a latency. -/
def observe (l : Latencies) (latency : Duration) : Latencies :=
  let seconds := Duration.floatSeconds latency.nanos
  { count := (l.count + 1) % Counters.bound
    sum := l.sum + seconds
    within := List.zipWith (fun b n => if seconds ≤ b then n + 1 else n) bounds l.within }

/-- The mean of all latencies; no time at all if there are none. -/
def mean (l : Latencies) : Duration :=
  if l.count = 0 then Duration.zero
  else (Duration.ofFloat? (l.sum / l.count.toUInt64.toFloat)).getD Duration.zero

end Latencies

/-! ### All metrics -/

/-- What is counted while tasks are handled. -/
structure Metrics where
  /-- Calls by backend and result. -/
  calls : CounterGrid := .empty
  /-- Failed calls by backend and error code. -/
  callErrors : CounterGrid := .empty
  latencies : Table Latencies := .empty
  /-- Tokens by backend and direction. -/
  tokens : CounterGrid := .empty
  /-- Failed tasks by error code. -/
  taskErrors : Counters := .empty
  /-- Tasks that are being handled. -/
  active : Int := 0

/-- Totals of one backend. -/
structure BackendStats where
  /-- Successes and failures together.  The sum is not cut to 64 bits: `2 ^ 64` calls are out of
  reach. -/
  calls : Nat
  successes : Nat
  failures : Nat
  promptTokens : Nat
  completionTokens : Nat
  meanLatency : Duration
  deriving DecidableEq, Repr

namespace Metrics

/-- The label of calls that succeed. -/
def okLabel : String := "ok"

/-- The label of calls that fail. -/
def errorLabel : String := "error"

/-- The label of tokens that were sent. -/
def promptLabel : String := "prompt"

/-- The label of tokens that came back. -/
def completionLabel : String := "completion"

/-- The latencies of a backend. -/
def latenciesOf (m : Metrics) (backend : String) : Latencies :=
  (m.latencies.get? backend).getD {}

/-- Records a call with all of its attempts. -/
def recordCall (m : Metrics) (backend : String) (elapsed : Duration)
    (outcome : Except CallError Response) : Metrics :=
  let m := { m with
    latencies := m.latencies.insert backend ((m.latenciesOf backend).observe elapsed) }
  match outcome with
  | .ok response => { m with
      calls := m.calls.add backend okLabel 1
      tokens := (m.tokens.add backend promptLabel response.usage.prompt).add backend
        completionLabel response.usage.completion }
  | .error e => { m with
      calls := m.calls.add backend errorLabel 1
      callErrors := m.callErrors.add backend e.code 1 }

/-- Records a task that failed. -/
def recordTaskError (m : Metrics) (code : String) : Metrics :=
  { m with taskErrors := m.taskErrors.add code 1 }

/-- Counts a task that is being handled from now on. -/
def track (m : Metrics) : Metrics := { m with active := m.active + 1 }

/-- Counts a task that is not being handled any more. -/
def untrack (m : Metrics) : Metrics := { m with active := m.active - 1 }

/-- The totals of a backend. -/
def stats (m : Metrics) (backend : String) : BackendStats :=
  let successes := m.calls.value backend okLabel
  let failures := m.calls.value backend errorLabel
  { successes, failures
    calls := successes + failures
    promptTokens := m.tokens.value backend promptLabel
    completionTokens := m.tokens.value backend completionLabel
    meanLatency := (m.latenciesOf backend).mean }

/-- Reads the totals of a backend. -/
def readStats (m : Metrics) (backend : String) : Metrics × BackendStats :=
  ({ m with
    calls := (m.calls.add backend okLabel 0).add backend errorLabel 0
    latencies := m.latencies.insert backend (m.latenciesOf backend)
    tokens := (m.tokens.add backend promptLabel 0).add backend completionLabel 0 },
    m.stats backend)

/-- Reads the number of failed tasks with a code. -/
def readTaskErrors (m : Metrics) (code : String) : Metrics × Nat :=
  ({ m with taskErrors := m.taskErrors.add code 0 }, m.taskErrors.value code)

/-- Reads the number of failed calls of a backend with a code. -/
def readCallErrors (m : Metrics) (backend code : String) : Metrics × Nat :=
  ({ m with callErrors := m.callErrors.add backend code 0 }, m.callErrors.value backend code)

/-- Metrics in a debug message. -/
def debugText (m : Metrics) : String :=
  "DispatchMetrics \x7b active_tasks: " ++ toString m.active ++ " \x7d"

end Metrics

end Dispatch
