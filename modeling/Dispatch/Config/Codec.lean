/-
Dispatch/Config/Codec.lean

Configurations and their parts as JSON documents.

Each type has a writer `toJson` and a reader `ofJson?`.  A writer writes every field, in the
order of the type; a reader fills in the defaults of fields that are left out, and refuses a
whole number with a decimal point, a number out of range and a duration that does not parse.
-/
import Dispatch.Config.Basic
import Dispatch.Duration.Text
import Dispatch.Json.Record

namespace Dispatch

/-- A duration, from its text. -/
def Duration.ofJson? (j : Json) : Option Duration :=
  j.asStr?.bind fun s => (Duration.parse s).toOption

/-- A duration as a text. -/
def Duration.toJson (d : Duration) : Json := .str d.format

/-- A kind of task, from its tag. -/
def TaskKind.ofJson? (j : Json) : Option TaskKind := j.asChoice? TaskKind.ofTag?

/-- A kind of task as its tag. -/
def TaskKind.toJson (k : TaskKind) : Json := .str k.tag

instance : Document TaskKind := ⟨TaskKind.ofJson?, TaskKind.toJson⟩

namespace Requirements

/-- What a task needs; what is left out is not needed. -/
def ofJson? (j : Json) : Option Requirements := do
  let r ← Record.ofJson? 3 j
  pure {
    streaming := ← r.optional 0 "streaming" false Json.asBool?
    codeContext := ← r.optional 1 "code_context" false Json.asBool?
    minContextTokens := ← r.optional 2 "min_context_tokens" none (Json.asOption? Json.asNat32?) }

/-- What a task needs, with all its fields. -/
def toJson (r : Requirements) : Json := .obj [
  ("streaming", .bool r.streaming),
  ("code_context", .bool r.codeContext),
  ("min_context_tokens", .ofOption (fun n : Nat => .int n) r.minContextTokens)]

instance : Document Requirements := ⟨ofJson?, toJson⟩

end Requirements

namespace Capabilities

/-- What a backend can do; the size of its window has to be there. -/
def ofJson? (j : Json) : Option Capabilities := do
  let r ← Record.ofJson? 3 j
  pure {
    streaming := ← r.optional 0 "streaming" false Json.asBool?
    codeContext := ← r.optional 1 "code_context" false Json.asBool?
    maxTokens := ← r.required 2 "max_tokens" Json.asNat32? }

/-- What a backend can do, with all its fields. -/
def toJson (c : Capabilities) : Json := .obj [
  ("streaming", .bool c.streaming),
  ("code_context", .bool c.codeContext),
  ("max_tokens", .int c.maxTokens)]

instance : Document Capabilities := ⟨ofJson?, toJson⟩

end Capabilities

/-- The state of a name. -/
def Health.ofName? (s : String) : Option Health :=
  [Health.closed, .open, .halfOpen].find? fun h => h.name = s

/-- A state of a circuit, from its name. -/
def Health.ofJson? (j : Json) : Option Health := j.asChoice? Health.ofName?

/-- A state of a circuit as its name. -/
def Health.toJson (h : Health) : Json := .str h.name

instance : Document Health := ⟨Health.ofJson?, Health.toJson⟩

namespace Rank

/-- A rank from both its parts. -/
def ofJson? (j : Json) : Option Rank := do
  let r ← Record.ofJson? 2 j
  pure {
    kind := ← r.required 0 "kind" TaskKind.ofJson?
    rank := ← r.required 1 "rank" Json.asNat64? }

/-- A rank as both its parts. -/
def toJson (r : Rank) : Json := .obj [("kind", r.kind.toJson), ("rank", .int r.rank)]

instance : Document Rank := ⟨ofJson?, toJson⟩

end Rank

namespace Descriptor

/-- A descriptor; without a health its circuit is closed. -/
def ofJson? (j : Json) : Option Descriptor := do
  let r ← Record.ofJson? 4 j
  pure {
    name := ← r.required 0 "name" Json.asStr?
    capabilities := ← r.required 1 "capabilities" Capabilities.ofJson?
    health := ← r.optional 2 "current_health" .closed Health.ofJson?
    ranks := ← r.optional 3 "priority_rules" [] (Json.asList? Rank.ofJson?) }

/-- The members of a descriptor as an object. -/
def members (d : Descriptor) : List (String × Json) := [
  ("name", .str d.name),
  ("capabilities", d.capabilities.toJson),
  ("current_health", d.health.toJson),
  ("priority_rules", .arr (d.ranks.map Rank.toJson))]

/-- A descriptor with all its fields. -/
def toJson (d : Descriptor) : Json := .obj d.members

instance : Document Descriptor := ⟨ofJson?, toJson⟩

end Descriptor

namespace BreakerSettings

/-- Settings of a breaker. -/
def ofJson? (j : Json) : Option BreakerSettings := do
  let r ← Record.ofJson? 3 j
  let default : BreakerSettings := {}
  pure {
    failureThreshold := ← r.optional 0 "failure_threshold" default.failureThreshold Json.asNat32?
    cooldown := ← r.optional 1 "cooldown" default.cooldown Duration.ofJson?
    window := ← r.optional 2 "window" default.window Duration.ofJson? }

/-- Settings of a breaker with all their fields. -/
def toJson (s : BreakerSettings) : Json := .obj [
  ("failure_threshold", .int s.failureThreshold),
  ("cooldown", s.cooldown.toJson),
  ("window", s.window.toJson)]

instance : Document BreakerSettings := ⟨ofJson?, toJson⟩

end BreakerSettings

namespace RetrySettings

/-- Settings of retries. -/
def ofJson? (j : Json) : Option RetrySettings := do
  let r ← Record.ofJson? 4 j
  let default : RetrySettings := {}
  pure {
    maxAttempts := ← r.optional 0 "max_attempts" default.maxAttempts Json.asNat32?
    baseDelay := ← r.optional 1 "base_delay" default.baseDelay Duration.ofJson?
    maxDelay := ← r.optional 2 "max_delay" default.maxDelay Duration.ofJson?
    deadline := ← r.optional 3 "deadline" default.deadline Duration.ofJson? }

/-- Settings of retries with all their fields. -/
def toJson (s : RetrySettings) : Json := .obj [
  ("max_attempts", .int s.maxAttempts),
  ("base_delay", s.baseDelay.toJson),
  ("max_delay", s.maxDelay.toJson),
  ("deadline", s.deadline.toJson)]

instance : Document RetrySettings := ⟨ofJson?, toJson⟩

end RetrySettings

namespace LimitSettings

/-- Settings of the limiter. -/
def ofJson? (j : Json) : Option LimitSettings := do
  let r ← Record.ofJson? 2 j
  let default : LimitSettings := {}
  pure {
    capacity := ← r.optional 0 "capacity" default.capacity Json.asNat32?
    refillRate := ← r.optional 1 "refill_rate" default.refillRate Json.asFloat? }

/-- Settings of the limiter with all their fields. -/
def toJson (s : LimitSettings) : Json := .obj [
  ("capacity", .int s.capacity),
  ("refill_rate", .float s.refillRate)]

instance : Document LimitSettings := ⟨ofJson?, toJson⟩

end LimitSettings

namespace ResilienceSettings

/-- Settings of everything that guards calls. -/
def ofJson? (j : Json) : Option ResilienceSettings := do
  let r ← Record.ofJson? 3 j
  pure {
    breaker := ← r.optional 0 "breaker" {} BreakerSettings.ofJson?
    retry := ← r.optional 1 "retry" {} RetrySettings.ofJson?
    limit := ← r.optional 2 "rate_limit" {} LimitSettings.ofJson? }

/-- Settings of everything that guards calls, with all their fields. -/
def toJson (s : ResilienceSettings) : Json := .obj [
  ("breaker", s.breaker.toJson),
  ("retry", s.retry.toJson),
  ("rate_limit", s.limit.toJson)]

instance : Document ResilienceSettings := ⟨ofJson?, toJson⟩

end ResilienceSettings

namespace HistorySettings

/-- Settings of history. -/
def ofJson? (j : Json) : Option HistorySettings := do
  let r ← Record.ofJson? 3 j
  let default : HistorySettings := {}
  pure {
    maxWindowTokens := ← r.optional 0 "max_window_tokens" default.maxWindowTokens Json.asNat32?
    reservedResponseTokens :=
      ← r.optional 1 "reserved_response_tokens" default.reservedResponseTokens Json.asNat32?
    callTimeout := ← r.optional 2 "call_timeout" default.callTimeout Duration.ofJson? }

/-- Settings of history with all their fields. -/
def toJson (s : HistorySettings) : Json := .obj [
  ("max_window_tokens", .int s.maxWindowTokens),
  ("reserved_response_tokens", .int s.reservedResponseTokens),
  ("call_timeout", s.callTimeout.toJson)]

instance : Document HistorySettings := ⟨ofJson?, toJson⟩

end HistorySettings

namespace StorageSettings

/-- Settings of storage. -/
def ofJson? (j : Json) : Option StorageSettings := do
  let r ← Record.ofJson? 1 j
  let default : StorageSettings := {}
  pure { databasePath := ← r.optional 0 "database_path" default.databasePath Json.asStr? }

/-- Settings of storage with all their fields. -/
def toJson (s : StorageSettings) : Json := .obj [("database_path", .str s.databasePath)]

instance : Document StorageSettings := ⟨ofJson?, toJson⟩

end StorageSettings

namespace Routing

/-- Rules from the members of an object. -/
def rulesOf? (j : Json) : Option (TaskKind → Option (List String)) :=
  match j with
  | .obj members => do
    let rules ← Json.readAll (fun e => do
      let kind ← TaskKind.ofTag? e.1
      let backends ← Json.asList? Json.asStr? e.2
      pure (kind, backends)) members
    pure (rules.foldl (fun (r : Routing) e => r.withRule e.1 e.2) { defaultBackend := "" }).rules
  | _ => none

/-- Rules and the default backend. -/
def ofJson? (j : Json) : Option Routing := do
  let r ← Record.ofJson? 2 j
  pure {
    defaultBackend := ← r.required 0 "default_backend" Json.asStr?
    rules := ← r.optional 1 "rules" (fun _ => none) rulesOf? }

/-- Rules and the default backend, with all their fields. -/
def toJson (r : Routing) : Json := .obj [
  ("default_backend", .str r.defaultBackend),
  ("rules", .obj (r.ruleList.map fun e => (e.1.tag, .strings e.2)))]

instance : Document Routing := ⟨ofJson?, toJson⟩

end Routing

namespace BackendConfig

/-- What is said of a backend. -/
def ofJson? (j : Json) : Option BackendConfig := do
  let r ← Record.ofJson? 3 j
  pure {
    capabilities := ← r.required 0 "capabilities" Capabilities.ofJson?
    breaker := ← r.optional 1 "breaker" none (Json.asOption? BreakerSettings.ofJson?)
    enabled := ← r.optional 2 "enabled" true Json.asBool? }

/-- What is said of a backend, with all its fields. -/
def toJson (b : BackendConfig) : Json := .obj [
  ("capabilities", b.capabilities.toJson),
  ("breaker", .ofOption BreakerSettings.toJson b.breaker),
  ("enabled", .bool b.enabled)]

instance : Document BackendConfig := ⟨ofJson?, toJson⟩

end BackendConfig

namespace Config

/-- A configuration; only the routing has to be there. -/
def ofJson? (j : Json) : Option Config := do
  let r ← Record.ofJson? 5 j
  pure {
    routing := ← r.required 0 "routing" Routing.ofJson?
    backends := ← r.optional 1 "backends" .empty (Json.asTable? BackendConfig.ofJson?)
    resilience := ← r.optional 2 "resilience" {} ResilienceSettings.ofJson?
    history := ← r.optional 3 "context" {} HistorySettings.ofJson?
    storage := ← r.optional 4 "storage" {} StorageSettings.ofJson? }

/-- A configuration with all its fields. -/
def toJson (c : Config) : Json := .obj [
  ("routing", c.routing.toJson),
  ("backends", .obj (c.backends.mapValues fun _ b => b.toJson).entries),
  ("resilience", c.resilience.toJson),
  ("context", c.history.toJson),
  ("storage", c.storage.toJson)]

instance : Document Config := ⟨ofJson?, toJson⟩

end Config

end Dispatch
