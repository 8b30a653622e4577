/-
Dispatch/Handling/Error.lean

What callers are told when a task cannot be handled.

An error has a kind, the backend that it is about, if any, and a cause.  Code and message depend
on kind and backend alone, and a kind carries nothing of what a backend or the storage said; the
details stay with the cause.
-/
import Dispatch.Config.Load
import Dispatch.Resilience.CallError
import Dispatch.Routing.Router
import Dispatch.Store.Basic

namespace Dispatch

/-- What went wrong. -/
inductive ErrorKind where
  | rateLimited (retryAfter : Duration)
  | circuitOpen
  | retriesExhausted (attempts : Nat)
  | deadlineExceeded
  | unknownBackend
  | capabilityMismatch (missing : List Need)
  | noBackends
  | versionConflict (expected actual : Nat)
  | backend (category : FailureCategory)
  | conversationNotFound
  | storage
  | config
  | metrics
  deriving DecidableEq, Repr

namespace ErrorKind

/-- The code of a kind, for programs. -/
def code : ErrorKind → String
  | rateLimited _ => "rate_limited"
  | circuitOpen => "circuit_open"
  | retriesExhausted _ => "retries_exhausted"
  | deadlineExceeded => "deadline_exceeded"
  | unknownBackend => "unknown_backend"
  | capabilityMismatch _ => "capability_mismatch"
  | noBackends => "no_backends"
  | versionConflict .. => "version_conflict"
  | backend category => "backend_" ++ category.name
  | conversationNotFound => "context_not_found"
  | storage => "storage_error"
  | config => "config_error"
  | metrics => "metrics_error"

/-- What callers are told of a backend that failed. -/
def failureText : FailureCategory → String
  | .transient => "Backend failed temporarily"
  | .rateLimited => "Backend is throttling requests"
  | .authFailure => "Backend rejected its credentials"
  | .invalid => "Backend rejected the request as invalid"
  | .unknown => "Backend failed unexpectedly"

/-- The text of a kind. -/
def text : ErrorKind → String
  | rateLimited retryAfter => rateLimitMessage retryAfter
  | circuitOpen => "Backend is temporarily unavailable"
  | retriesExhausted attempts => s!"Backend failed after {attempts} attempts"
  | deadlineExceeded => "Request deadline exceeded"
  | unknownBackend => "Requested backend is not registered"
  | capabilityMismatch missing =>
    "Requested backend lacks required capabilities: " ++ ", ".intercalate (missing.map Need.name)
  | noBackends => "No backends are available"
  | versionConflict .. => "Conversation was modified concurrently, please retry"
  | backend category => failureText category
  | conversationNotFound => "Conversation not found"
  | storage => "Conversation storage is unavailable"
  | config => "Dispatch configuration is invalid"
  | metrics => "Metrics registry could not be created"

end ErrorKind

/-- Where an error comes from. -/
inductive Cause where
  | call (e : CallError)
  | route (e : RouteError)
  | store (e : StoreError)
  | config (e : LoadError)
  | metrics
  deriving DecidableEq, Repr

/-- The text of a cause, where the library words it itself. -/
def Cause.text? : Cause → Option String
  | call e => some e.message
  | route e => some e.message
  | store e => e.message?
  | config e => e.message?
  | metrics => none

/-- Why a task cannot be handled. -/
structure HandlingError where
  kind : ErrorKind
  backend : Option String := none
  cause : Option Cause := none
  deriving DecidableEq, Repr

namespace HandlingError

/-- The code of an error, for programs. -/
def code (e : HandlingError) : String := e.kind.code

/-- The text of an error. -/
def message (e : HandlingError) : String :=
  match e.backend with
  | some backend => e.kind.text ++ s!" (backend: {backend})"
  | none => e.kind.text

/-- The error of a guarded call. -/
def ofCall (e : CallError) : HandlingError :=
  let cause := some (Cause.call e)
  match e with
  | .rateLimited retryAfter => { kind := .rateLimited retryAfter, cause }
  | .circuitOpen backend => { kind := .circuitOpen, backend := some backend, cause }
  | .retriesExhausted backend attempts _ =>
    { kind := .retriesExhausted attempts, backend := some backend, cause }
  | .deadlineExceeded backend _ => { kind := .deadlineExceeded, backend := some backend, cause }
  | .backend backend failure =>
    { kind := .backend failure.category, backend := some backend, cause }

/-- The error of routing. -/
def ofRoute (e : RouteError) : HandlingError :=
  let cause := some (Cause.route e)
  match e with
  | .unknownBackend backend => { kind := .unknownBackend, backend := some backend, cause }
  | .capabilityMismatch backend missing =>
    { kind := .capabilityMismatch missing, backend := some backend, cause }
  | .noBackends => { kind := .noBackends, cause }

/-- The error of a store. -/
def ofStore (e : StoreError) : HandlingError :=
  let cause := some (Cause.store e)
  match e with
  | .versionConflict expected actual => { kind := .versionConflict expected actual, cause }
  | .notFound _ => { kind := .conversationNotFound, cause }
  | .storage | .corrupt _ => { kind := .storage, cause }

/-- The error of a configuration. -/
def ofConfig (e : LoadError) : HandlingError :=
  { kind := .config, cause := some (.config e) }

/-- The error of metrics. -/
def ofMetrics : HandlingError := { kind := .metrics, cause := some .metrics }

end HandlingError

end Dispatch
