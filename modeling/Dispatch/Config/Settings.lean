/-
Dispatch/Config/Settings.lean

Settings of the parts of dispatch, with their defaults.
-/
import Dispatch.Backend.Capabilities
import Dispatch.Duration.Basic

namespace Dispatch

/-- When a circuit opens and how long it stays open. -/
structure BreakerSettings where
  /-- So many failures within the window open the circuit. -/
  failureThreshold : Nat := 5
  /-- Time spent open before a trial. -/
  cooldown : Duration := .ofSecs 30
  /-- How long a failure counts. -/
  window : Duration := .ofSecs 60
  deriving DecidableEq, Repr, Inhabited

/-- How often and how long a call is tried. -/
structure RetrySettings where
  /-- Attempts in all, the first included. -/
  maxAttempts : Nat := 3
  baseDelay : Duration := .ofMillis 100
  maxDelay : Duration := .ofSecs 10
  /-- Time for all attempts and the delays between them. -/
  deadline : Duration := .ofSecs 60
  deriving DecidableEq, Repr, Inhabited

/-- The token bucket of a caller. -/
structure LimitSettings where
  capacity : Nat := 60
  /-- Tokens a second. -/
  refillRate : Float := 1.0
  deriving DecidableEq, Inhabited

/-- Settings of everything that guards calls. -/
structure ResilienceSettings where
  breaker : BreakerSettings := {}
  retry : RetrySettings := {}
  limit : LimitSettings := {}
  deriving DecidableEq, Inhabited

/-- How much history is sent with a task, and how long one attempt may take. -/
structure HistorySettings where
  /-- Most tokens of history sent with a task. -/
  maxWindowTokens : Nat := 8000
  /-- Tokens of the backend's window kept free for its response. -/
  reservedResponseTokens : Nat := 1000
  callTimeout : Duration := .ofSecs 30
  deriving DecidableEq, Repr, Inhabited

/-- Tokens of history for a backend: what its window leaves beside the response, and never more
than the most. -/
def HistorySettings.windowBudget (s : HistorySettings) (c : Capabilities) : Nat :=
  min s.maxWindowTokens (c.maxTokens - s.reservedResponseTokens)

/-- Where conversations are kept. -/
structure StorageSettings where
  databasePath : String := "switchyard.db"
  deriving DecidableEq, Repr, Inhabited

end Dispatch
