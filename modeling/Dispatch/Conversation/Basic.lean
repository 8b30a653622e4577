/-
Dispatch/Conversation/Basic.lean

Conversations: messages in order, with a version that grows with every change.

Tokens are estimated, about four characters to a token, and every message costs four more.
-/
import Dispatch.Timestamp.Basic

namespace Dispatch

/-- Who says a message. -/
inductive Role where
  | system | user | assistant
  deriving DecidableEq, Repr, Inhabited

namespace Role

/-- The name of a role. -/
def name : Role → String
  | system => "system"
  | user => "user"
  | assistant => "assistant"

/-- The role of a name. -/
def ofName? (s : String) : Option Role := [system, user, assistant].find? fun r => r.name = s

/-- What to say about a text that names no role. -/
def unknownNameMessage (s : String) : String := s!"unknown role: '{s}'"

theorem ofName?_name (r : Role) : ofName? r.name = some r := by cases r <;> decide

end Role

/-- Tokens of a text: four characters make one. -/
def estimateTokens (text : String) : Nat := text.length / 4

/-- A message of a conversation. -/
structure Message where
  role : Role
  content : String
  timestamp : Timestamp
  /-- A pinned message is kept in front of the others when history is cut. -/
  pinned : Bool := false
  deriving DecidableEq, Repr, Inhabited

namespace Message

/-- Tokens that a message costs beside its content. -/
def overheadTokens : Nat := 4

/-- Tokens that a message costs. -/
def tokens (m : Message) : Nat := estimateTokens m.content + overheadTokens

/-- What a role says; what the system says is pinned. -/
def said (role : Role) (content : String) (timestamp : Timestamp) : Message :=
  { role, content, timestamp, pinned := role = .system }

end Message

/-- Tokens that a list of messages costs. -/
def tokensOf (messages : List Message) : Nat := messages.foldr (fun m n => m.tokens + n) 0

/-- A conversation. -/
structure Conversation where
  id : String
  project : Option String := none
  messages : List Message := []
  version : Nat := 0
  createdAt : Timestamp
  updatedAt : Timestamp
  deriving DecidableEq, Repr, Inhabited

namespace Conversation

/-- A conversation without messages. -/
def start (id : String) (project : Option String) (now : Timestamp) : Conversation :=
  { id, project, createdAt := now, updatedAt := now }

/-- Tokens of all messages. -/
def tokens (c : Conversation) : Nat := tokensOf c.messages

end Conversation

end Dispatch
