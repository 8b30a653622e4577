/-
Dispatch/Resilience/CallError.lean

Why a guarded call ends without a response.
-/
import Dispatch.Backend.Reply
import Dispatch.Resilience.Breaker
import Dispatch.Resilience.Limiter

namespace Dispatch

/-- Why a guarded call ends without a response. -/
inductive CallError where
  /-- The caller has no token left. -/
  | rateLimited (retryAfter : Duration)
  /-- The circuit refuses the call, or its next attempt. -/
  | circuitOpen (backend : String)
  /-- Every attempt that the settings allow has failed. -/
  | retriesExhausted (backend : String) (attempts : Nat) (last : Failure)
  /-- The time for all attempts is over, or would be before the next one. -/
  | deadlineExceeded (backend : String) (attempts : Nat)
  /-- A failure that is not tried again. -/
  | backend (backend : String) (failure : Failure)
  deriving DecidableEq, Repr

namespace CallError

/-- The code of an error, for programs. -/
def code : CallError → String
  | rateLimited _ => "rate_limited"
  | circuitOpen _ => "circuit_open"
  | retriesExhausted .. => "retries_exhausted"
  | deadlineExceeded .. => "deadline_exceeded"
  | backend _ failure => "backend_" ++ failure.category.name

/-- The text of an error. -/
def message : CallError → String
  | rateLimited retryAfter => rateLimitMessage retryAfter
  | circuitOpen name => circuitOpenMessage name
  | retriesExhausted name attempts last =>
    s!"Backend '{name}' failed after {attempts} attempts: " ++ last.text
  | deadlineExceeded name attempts =>
    s!"Deadline exceeded for backend '{name}' after {attempts} attempts"
  | backend name failure => s!"Backend '{name}' failed: " ++ failure.text

end CallError

end Dispatch
