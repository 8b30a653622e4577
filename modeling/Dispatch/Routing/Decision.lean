/-
Dispatch/Routing/Decision.lean

Decisions of the router, and why they were made.
-/
import Dispatch.Json.Record
import Dispatch.Task.Kind

namespace Dispatch

/-- Why the candidates of a task are what they are. -/
inductive Reason where
  /-- The task asks for the backend. -/
  | explicitOverride
  /-- The rule of the task's kind. -/
  | rule (kind : TaskKind)
  | default
  /-- No candidate is healthy and capable. -/
  | degradedFallback
  /-- Neither the rule nor the default is registered. -/
  | registryFallback
  deriving DecidableEq, Repr, Inhabited

namespace Reason

/-- The tag of a reason. -/
def tag : Reason → String
  | explicitOverride => "explicit-override"
  | rule _ => "rule"
  | default => "default"
  | degradedFallback => "degraded-fallback"
  | registryFallback => "registry-fallback"

/-- A reason as people read it. -/
def text : Reason → String
  | rule kind => "rule:" ++ kind.tag
  | reason => reason.tag

/-- A reason as an object with its tag, and the kind where there is one. -/
def toJson : Reason → Json
  | rule kind => .obj [("type", .str "rule"), ("kind", .str kind.tag)]
  | reason => .obj [("type", .str reason.tag)]

/-- The reason of a tag and what stands beside it.  A reason without a kind has nothing beside
it. -/
def ofParts? (tag : String) (content : Option Json) : Option Reason :=
  if tag = "rule" then
    (content.bind fun j => j.asChoice? TaskKind.ofTag?).map rule
  else
    match content with
    | none | some .null =>
      [explicitOverride, default, degradedFallback, registryFallback].find? fun r => r.tag = tag
    | some _ => none

/-- A kind as it may stand beside a tag: under its name an empty object counts as nothing. -/
def besideTag : Json → Json
  | .obj [(name, .obj [])] => .obj [(name, .null)]
  | j => j

/-- A reason, from an object with its tag or from the tag and the kind in an array. -/
def ofJson? : Json → Option Reason
  | .obj members => do
    let tag ← (← Entries.lookup "type" members).asTag?
    ofParts? tag ((Entries.lookup "kind" members).map besideTag)
  | .arr [tag, content] => do ofParts? (← tag.asTag?) (some content)
  | _ => none

instance : Document Reason := ⟨ofJson?, toJson⟩

end Reason

/-- The backends to call for a task, in order. -/
structure Decision where
  candidates : List String
  reason : Reason
  deriving DecidableEq, Repr, Inhabited

namespace Decision

/-- A decision from both its parts. -/
def ofJson? (j : Json) : Option Decision := do
  let r ← Record.ofJson? 2 j
  pure {
    candidates := ← r.required 0 "ordered_candidates" (Json.asList? Json.asStr?)
    reason := ← r.required 1 "reason" Reason.ofJson? }

/-- A decision as both its parts. -/
def toJson (d : Decision) : Json := .obj [
  ("ordered_candidates", .strings d.candidates),
  ("reason", d.reason.toJson)]

instance : Document Decision := ⟨ofJson?, toJson⟩

end Decision

end Dispatch
