/-
Dispatch/Backend/Reply.lean

What comes back from a backend: a response with the tokens it used, or a failure.

A backend puts its failures into categories, and everything above it looks at the category
only: whether the call may be tried again, and whether the failure counts against the backend.
-/
import Dispatch.Json.Record

namespace Dispatch

/-- Tokens that a call used; counts have 32 bits. -/
structure TokenUsage where
  prompt : Nat := 0
  completion : Nat := 0
  deriving DecidableEq, Repr, Inhabited

namespace TokenUsage

/-- The largest count. -/
def maxCount : Nat := UInt32.size - 1

/-- All tokens, or the largest count. -/
def total (u : TokenUsage) : Nat := min (u.prompt + u.completion) maxCount

/-- Usage from both counts. -/
def ofJson? (j : Json) : Option TokenUsage := do
  let r ← Record.ofJson? 2 j
  pure {
    prompt := ← r.required 0 "prompt_tokens" Json.asNat32?
    completion := ← r.required 1 "completion_tokens" Json.asNat32? }

/-- Usage as both counts. -/
def toJson (u : TokenUsage) : Json := .obj [
  ("prompt_tokens", .int u.prompt),
  ("completion_tokens", .int u.completion)]

instance : Document TokenUsage := ⟨ofJson?, toJson⟩

end TokenUsage

/-- A response to a task. -/
structure Response where
  content : String
  /-- The model that wrote the content. -/
  model : String
  usage : TokenUsage
  deriving DecidableEq, Repr, Inhabited

/-- Categories of failures. -/
inductive FailureCategory where
  /-- Something that may pass: the call may be tried again. -/
  | transient
  | rateLimited
  | authFailure
  /-- The request is bad, whichever backend gets it. -/
  | invalid
  | unknown
  deriving DecidableEq, Repr, Inhabited

namespace FailureCategory

/-- The name of a category. -/
def name : FailureCategory → String
  | transient => "transient"
  | rateLimited => "rate_limited"
  | authFailure => "auth_failure"
  | invalid => "invalid"
  | unknown => "unknown"

/-- The category of a name. -/
def ofName? (s : String) : Option FailureCategory :=
  [transient, rateLimited, authFailure, invalid, unknown].find? fun c => c.name = s

/-- A category, from its name. -/
def ofJson? (j : Json) : Option FailureCategory := j.asChoice? ofName?

/-- A category as its name. -/
def toJson (c : FailureCategory) : Json := .str c.name

instance : Document FailureCategory := ⟨ofJson?, toJson⟩

/-- Whether the call may be tried again. -/
def isRetryable (c : FailureCategory) : Bool := c = .transient

/-- Whether the failure counts against the backend; a bad request says nothing of it. -/
def countsAgainstBackend (c : FailureCategory) : Bool := c ≠ .invalid

end FailureCategory

/-- A failure of a backend. -/
structure Failure where
  category : FailureCategory
  message : String
  deriving DecidableEq, Repr, Inhabited

/-- The text of a failure. -/
def Failure.text (f : Failure) : String := f.category.name ++ " backend error: " ++ f.message

end Dispatch
