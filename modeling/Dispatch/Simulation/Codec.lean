/-
Dispatch/Simulation/Codec.lean

Scripts as JSON documents, and what was sent to scripted backends.

An entry of a script has an outcome, either a reply under `ok` or a failure under `err`, and the
milliseconds until it is there.  An entry without either is a reply with the default parts.
-/
import Dispatch.Handling.Codec
import Dispatch.Simulation.ScriptedBackends

namespace Dispatch

/-- A member that may be left out or `null`. -/
def Json.optionalMember? {α : Type} (j : Json) (name : String) (default : α)
    (read : Json → Option α) : Option α :=
  match j.member? name with
  | none | some .null => some default
  | some v => read v

/-- Milliseconds, which may be left out. -/
def Json.millisMember? (j : Json) (name : String) (default : Nat) : Option Duration :=
  (j.optionalMember? name default Json.asNat64?).map Duration.ofMillis

/-- What an attempt does; a reply is a text. -/
def ScriptedAttempt.ofJson? (j : Json) : Option (ScriptedAttempt String) := do
  let delay ← j.millisMember? "delay_ms" 0
  match ← j.optionalMember? "err" none fun e => (Failure.ofJson? e).map some with
  | some failure => pure { delay, outcome := .error failure }
  | none => pure { delay, outcome := .ok (← j.optionalMember? "ok" "" Json.asStr?) }

/-- What a backend does once. -/
def ScriptEntry.ofJson? (j : Json) : Option ScriptEntry := do
  let delay ← j.millisMember? "delay_ms" 0
  let failure ← j.optionalMember? "err" none fun e => (Failure.ofJson? e).map some
  let reply ← j.optionalMember? "ok" (.obj []) some
  let default : ScriptEntry := {}
  pure {
    delay, failure
    content := ← reply.optionalMember? "content" none (Json.asOption? Json.asStr?)
    model := ← reply.optionalMember? "model" none (Json.asOption? Json.asStr?)
    usage := {
      prompt := ← reply.optionalMember? "prompt" default.usage.prompt Json.asNat32?
      completion :=
        ← reply.optionalMember? "completion" default.usage.completion Json.asNat32? } }

/-- Characters of the first message that are shown. -/
def Sending.shownLength : Nat := 12

/-- What was sent: the size of the window, and how its first message begins. -/
def Sending.toJson (s : Sending) : Json := .obj [
  ("backend", .str s.backend),
  ("payload", .str s.payload),
  ("window", .int s.window.messages.length),
  ("tokens", .int s.window.tokens),
  ("version", .int s.window.version),
  ("first", .ofOption (fun m : Message => .str (String.ofList (m.content.toList.take shownLength)))
    s.window.messages.head?)]

end Dispatch
