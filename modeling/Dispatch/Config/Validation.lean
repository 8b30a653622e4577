/-
Dispatch/Config/Validation.lean

What a configuration has to say beyond its form.

`Config.validate` runs the checks in a fixed order and reports the first that fails.  The checks
are: a default backend; rules that are neither empty nor repeat a name; a table of backends, if
there is one, that declares every name of the routing; and settings that are positive where
zero would make no sense.
-/
import Dispatch.Config.Basic
import Dispatch.Text.Blank

namespace Dispatch

/-- Why a configuration is refused. -/
inductive ConfigFault where
  | defaultBackendMissing
  | emptyRule (kind : TaskKind)
  | repeatedInRule (kind : TaskKind) (backend : String)
  | undeclaredBackend (backend : String)
  | thresholdNotPositive (path : String)
  | breakerTimesNotPositive (path : String)
  | maxTokensNotPositive (backend : String)
  | noAttempts
  | baseDelayExceedsMax
  | deadlineNotPositive
  | capacityNotPositive
  | refillRateNotPositive
  | callTimeoutNotPositive
  deriving DecidableEq, Repr

namespace ConfigFault

/-- The field that is missing, if that is the fault. -/
def missingField? : ConfigFault → Option String
  | defaultBackendMissing => some "routing.default_backend"
  | _ => none

/-- What is wrong, without the words around it. -/
def detail : ConfigFault → String
  | defaultBackendMissing => "routing.default_backend"
  | emptyRule kind => s!"Rule for '{kind.tag}' lists no backends"
  | repeatedInRule kind backend => s!"Rule for '{kind.tag}' lists '{backend}' twice"
  | undeclaredBackend backend => s!"Backend '{backend}' is routed to but not declared"
  | thresholdNotPositive path => s!"{path}.failure_threshold must be positive"
  | breakerTimesNotPositive path => s!"{path}.cooldown and window must be positive"
  | maxTokensNotPositive backend =>
    s!"backends.{backend}.capabilities.max_tokens must be positive"
  | noAttempts => "resilience.retry.max_attempts must be at least 1"
  | baseDelayExceedsMax => "resilience.retry.base_delay exceeds max_delay"
  | deadlineNotPositive => "resilience.retry.deadline must be positive"
  | capacityNotPositive => "resilience.rate_limit.capacity must be positive"
  | refillRateNotPositive => "resilience.rate_limit.refill_rate must be a positive number"
  | callTimeoutNotPositive => "context.call_timeout must be positive"

/-- The text of a fault. -/
def message (f : ConfigFault) : String :=
  match f.missingField? with
  | some field => "Missing required field: " ++ field
  | none => "Config validation failed: " ++ f.detail

end ConfigFault

/-- The first name that a list holds twice, by its second place. -/
def firstRepeated? : List String → List String → Option String
  | _, [] => none
  | seen, name :: rest =>
    if name ∈ seen then some name else firstRepeated? (name :: seen) rest

/-- Fails unless a condition holds. -/
def require (condition : Bool) (fault : ConfigFault) : Except ConfigFault Unit :=
  if condition then .ok () else .error fault

/-- Runs a check on every member of a list. -/
def checkAll (check : α → Except ConfigFault Unit) : List α → Except ConfigFault Unit
  | [] => .ok ()
  | a :: rest => do
    check a
    checkAll check rest

namespace Config

/-- One rule: not empty, no name twice. -/
def validateRule (rule : TaskKind × List String) : Except ConfigFault Unit := do
  require (!rule.2.isEmpty) (.emptyRule rule.1)
  match firstRepeated? [] rule.2 with
  | some name => .error (.repeatedInRule rule.1 name)
  | none => .ok ()

/-- Breaker settings at a path of the configuration. -/
def validateBreaker (path : String) (b : BreakerSettings) : Except ConfigFault Unit := do
  require (b.failureThreshold ≠ 0) (.thresholdNotPositive path)
  require (!b.cooldown.isZero && !b.window.isZero) (.breakerTimesNotPositive path)

/-- One declared backend. -/
def validateBackend (entry : String × BackendConfig) : Except ConfigFault Unit := do
  require (entry.2.capabilities.maxTokens ≠ 0) (.maxTokensNotPositive entry.1)
  match entry.2.breaker with
  | none => .ok ()
  | some b => validateBreaker s!"backends.{entry.1}.breaker" b

/-- Retry settings. -/
def validateRetry (r : RetrySettings) : Except ConfigFault Unit := do
  require (r.maxAttempts ≠ 0) .noAttempts
  require (r.baseDelay ≤ r.maxDelay) .baseDelayExceedsMax
  require (!r.deadline.isZero) .deadlineNotPositive

/-- Limit settings: a rate that is finite and positive. -/
def validateLimit (l : LimitSettings) : Except ConfigFault Unit := do
  require (l.capacity ≠ 0) .capacityNotPositive
  require (l.refillRate.isFinite && 0.0 < l.refillRate) .refillRateNotPositive

/-- Whether the table of backends, unless it is empty, declares a name. -/
def declares (c : Config) (name : String) : Bool :=
  c.backends.isEmpty || c.backends.contains name

/-- Checks everything that the form of a document cannot say. -/
def validate (c : Config) : Except ConfigFault Unit := do
  require (!isBlankText c.routing.defaultBackend) .defaultBackendMissing
  checkAll validateRule c.routing.ruleList
  checkAll (fun name => require (c.declares name) (.undeclaredBackend name)) c.routedNames
  validateBreaker "resilience.breaker" c.resilience.breaker
  checkAll validateBackend c.backends.entries
  validateRetry c.resilience.retry
  validateLimit c.resilience.limit
  require (!c.history.callTimeout.isZero) .callTimeoutNotPositive

end Config

end Dispatch
