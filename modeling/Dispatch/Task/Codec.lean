/-
Dispatch/Task/Codec.lean

Tasks as JSON documents.
-/
import Dispatch.Config.Codec
import Dispatch.Task.Basic

namespace Dispatch

/-- A task with all of its fields. -/
def Task.toJson (t : Task) : Json := .obj [
  ("id", .str t.id),
  ("kind", t.kind.toJson),
  ("payload", .str t.payload),
  ("conversation_id", .ofOption .str t.conversation),
  ("project_id", .ofOption .str t.project),
  ("explicit_backend", .ofOption .str t.backend),
  ("requirements", t.requirements.toJson)]

end Dispatch
