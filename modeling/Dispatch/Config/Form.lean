/-
Dispatch/Config/Form.lean

The form of configuration documents: which members there are and what values they take.

The form catches unknown members, unknown kinds of task and malformed durations before the
document is read, so that everything wrong is reported at once.
-/
import Dispatch.Schema.Basic
import Dispatch.Task.Kind

namespace Dispatch.Config.Form

open Schema Schema.Rule

/-- Letters and digits of ASCII. -/
def isNameStart (c : Char) : Bool := c.isAlphanum

/-- What may follow in a backend name. -/
def isNameRest (c : Char) : Bool := c.isAlphanum || c = '.' || c = '_' || c = '-'

/-- Names of backends. -/
def namePattern : Pattern :=
  { source := "^[A-Za-z0-9][A-Za-z0-9._-]*$"
    accepts := fun s => match s.toList with
      | [] => false
      | c :: rest => isNameStart c && rest.all isNameRest }

/-- Blanks that may stand before a duration. -/
def isLeadingBlank (c : Char) : Bool :=
  c ∈ [' ', '\t', '\n', '\r', '\x0b', '\x0c', '\u00a0', '\ufeff', '\u2003', '\u2029']

/-- Durations start with a digit, after blanks. -/
def durationPattern : Pattern :=
  { source := "^\\s*[0-9]"
    accepts := fun s => match s.toList.dropWhile isLeadingBlank with
      | [] => false
      | c :: _ => c.isDigit }

/-- A duration. -/
def duration : Schema := [type .string, matching durationPattern]

/-- The name of a backend. -/
def backendName : Schema := [type .string, someCharacter, matching namePattern]

/-- A whole number from `n` on. -/
def integerFrom (n : Int) : Schema := [type .integer, atLeast n]

/-- Breaker settings. -/
def breaker : Schema := [type .object, closed [
  ("failure_threshold", integerFrom 1),
  ("cooldown", duration),
  ("window", duration)]]

/-- Capabilities of a backend. -/
def capabilities : Schema := [type .object, required "max_tokens", closed [
  ("streaming", [type .boolean]),
  ("code_context", [type .boolean]),
  ("max_tokens", integerFrom 1)]]

/-- Rules of the routing. -/
def rules : Schema := [
  type .object,
  eachName [oneOf (TaskKind.byName.map TaskKind.tag)],
  eachMember [type .array, someItem, distinctItems, eachItem backendName]]

/-- The routing. -/
def routing : Schema := [type .object, required "default_backend", closed [
  ("default_backend", backendName),
  ("rules", rules)]]

/-- The table of backends. -/
def backends : Schema := [
  type .object,
  eachName backendName,
  eachMember [type .object, required "capabilities", closed [
    ("capabilities", capabilities),
    ("breaker", breaker),
    ("enabled", [type .boolean])]]]

/-- Retry settings. -/
def retry : Schema := [type .object, closed [
  ("max_attempts", integerFrom 1),
  ("base_delay", duration),
  ("max_delay", duration),
  ("deadline", duration)]]

/-- Limit settings. -/
def rateLimit : Schema := [type .object, closed [
  ("capacity", integerFrom 1),
  ("refill_rate", [type .number, above 0])]]

/-- Settings of history and timeouts. -/
def history : Schema := [type .object, closed [
  ("max_window_tokens", integerFrom 0),
  ("reserved_response_tokens", integerFrom 0),
  ("call_timeout", duration)]]

/-- Where conversations are kept. -/
def storage : Schema := [type .object, closed [
  ("database_path", [type .string, someCharacter])]]

/-- A configuration document. -/
def document : Schema := [type .object, required "routing", closed [
  ("routing", routing),
  ("backends", backends),
  ("resilience", [type .object, closed [
    ("breaker", breaker),
    ("retry", retry),
    ("rate_limit", rateLimit)]]),
  ("context", history),
  ("storage", storage)]]

end Dispatch.Config.Form
