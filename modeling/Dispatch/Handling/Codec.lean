/-
Dispatch/Handling/Codec.lean

What comes of tasks and calls, as JSON documents.
-/
import Dispatch.Config.Codec
import Dispatch.Handling.Basic

namespace Dispatch

/-- A duration as its seconds and the nanoseconds beyond them. -/
def Duration.pairJson (d : Duration) : Json := .arr [.int d.secs, .int d.subsec]

namespace Failure

/-- A failure from both its parts. -/
def ofJson? (j : Json) : Option Failure := do
  let r ← Record.ofJson? 2 j
  pure {
    category := ← r.required 0 "category" FailureCategory.ofJson?
    message := ← r.required 1 "message" Json.asStr? }

/-- A failure as both its parts. -/
def toJson (f : Failure) : Json := .obj [
  ("category", f.category.toJson),
  ("message", .str f.message)]

instance : Document Failure := ⟨ofJson?, toJson⟩

end Failure

/-- An error of a call, with what its kind carries. -/
def CallError.toJson (e : CallError) : Json :=
  let details := match e with
    | .rateLimited d => [("retry_after", d.pairJson)]
    | .retriesExhausted _ attempts last =>
      [("attempts", .int attempts), ("last_error", last.toJson)]
    | .deadlineExceeded _ attempts => [("attempts", .int attempts)]
    | .circuitOpen _ | .backend .. => []
  .obj ([("code", .str e.code), ("message", .str e.message)] ++ details)

/-- What a kind of error carries. -/
def ErrorKind.details : ErrorKind → List (String × Json)
  | rateLimited d => [("retry_after", d.pairJson)]
  | retriesExhausted attempts => [("attempts", .int attempts)]
  | capabilityMismatch missing => [("missing", .strings (missing.map Need.name))]
  | versionConflict expected actual => [("versions", .arr [.int expected, .int actual])]
  | _ => []

/-- The totals of a backend. -/
def BackendStats.toJson (s : BackendStats) : Json := .obj [
  ("calls", .int s.calls),
  ("successes", .int s.successes),
  ("failures", .int s.failures),
  ("prompt_tokens", .int s.promptTokens),
  ("completion_tokens", .int s.completionTokens),
  ("mean_latency", s.meanLatency.pairJson)]

/-- A backend as the router sees it, and whether it is reachable. -/
def BackendHealth.toJson (h : BackendHealth) : Json :=
  .obj (h.descriptor.members ++ [("reachable", .bool h.reachable)])

/-- A response with all of its fields. -/
def TaskResponse.members (r : TaskResponse) : List (String × Json) := [
  ("content", .str r.content),
  ("backend", .str r.backend),
  ("model", .str r.model),
  ("usage", r.usage.toJson),
  ("conversation_id", .str r.conversation),
  ("version", .int r.version),
  ("reason", r.reason.toJson)]

end Dispatch
