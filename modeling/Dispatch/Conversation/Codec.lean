/-
Dispatch/Conversation/Codec.lean

Messages and conversations as JSON documents.
-/
import Dispatch.Conversation.Basic
import Dispatch.Json.Record
import Dispatch.Timestamp.Text

namespace Dispatch

/-- A point in time, from its text. -/
def Timestamp.ofJson? (j : Json) : Option Timestamp := j.asStr?.bind Timestamp.parse

/-- A point in time as a text. -/
def Timestamp.toJson (t : Timestamp) : Json := .str t.format

/-- A role, from its name. -/
def Role.ofJson? (j : Json) : Option Role := j.asChoice? Role.ofName?

/-- A role as its name. -/
def Role.toJson (r : Role) : Json := .str r.name

instance : Document Role := ⟨Role.ofJson?, Role.toJson⟩

namespace Message

/-- A message; it is not pinned unless it says so. -/
def ofJson? (j : Json) : Option Message := do
  let r ← Record.ofJson? 4 j
  pure {
    role := ← r.required 0 "role" Role.ofJson?
    content := ← r.required 1 "content" Json.asStr?
    timestamp := ← r.required 2 "timestamp" Timestamp.ofJson?
    pinned := ← r.optional 3 "pinned" false Json.asBool? }

/-- A message with all its fields. -/
def toJson (m : Message) : Json := .obj [
  ("role", m.role.toJson),
  ("content", .str m.content),
  ("timestamp", m.timestamp.toJson),
  ("pinned", .bool m.pinned)]

instance : Document Message := ⟨ofJson?, toJson⟩

end Message

namespace Conversation

/-- A conversation; project and messages may be left out. -/
def ofJson? (j : Json) : Option Conversation := do
  let r ← Record.ofJson? 6 j
  pure {
    id := ← r.required 0 "conversation_id" Json.asStr?
    project := ← r.optional 1 "project_id" none (Json.asOption? Json.asStr?)
    messages := ← r.optional 2 "messages" [] (Json.asList? Message.ofJson?)
    version := ← r.required 3 "version" Json.asNat64?
    createdAt := ← r.required 4 "created_at" Timestamp.ofJson?
    updatedAt := ← r.required 5 "updated_at" Timestamp.ofJson? }

/-- A conversation with all its fields. -/
def toJson (c : Conversation) : Json := .obj [
  ("conversation_id", .str c.id),
  ("project_id", .ofOption .str c.project),
  ("messages", .arr (c.messages.map Message.toJson)),
  ("version", .int c.version),
  ("created_at", c.createdAt.toJson),
  ("updated_at", c.updatedAt.toJson)]

/-- What is said of a conversation beside its messages and times. -/
def outline (c : Conversation) : List (String × Json) := [
  ("id", .str c.id),
  ("project", .ofOption .str c.project),
  ("version", .int c.version),
  ("tokens", .int c.tokens)]

instance : Document Conversation := ⟨ofJson?, toJson⟩

end Conversation

end Dispatch
