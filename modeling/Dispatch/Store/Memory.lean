/-
Dispatch/Store/Memory.lean

A store that keeps its conversations in memory.
-/
import Dispatch.Store.Basic
import Dispatch.Table

namespace Dispatch

/-- Conversations in memory, by their ids. -/
structure MemoryStore where
  conversations : Table Conversation := .empty
  deriving DecidableEq, Repr, Inhabited

namespace MemoryStore

/-- Gives a conversation, starting it if it is not there. -/
def getOrCreate (s : MemoryStore) (id : String) (project : Option String) (now : Timestamp) :
    MemoryStore × StoreAnswer :=
  match s.conversations.get? id with
  | some c => (s, .ok (some c))
  | none =>
    let c := Conversation.start id project now
    ({ conversations := s.conversations.insert id c }, .ok (some c))

/-- Appends messages if the conversation has the expected version. -/
def append (s : MemoryStore) (id : String) (messages : List Message) (expected : Nat)
    (now : Timestamp) : MemoryStore × StoreAnswer :=
  match s.conversations.get? id with
  | none => (s, .error (.notFound id))
  | some c =>
    if c.version = expected then
      let c := c.extended messages now
      ({ conversations := s.conversations.insert id c }, .ok (some c))
    else (s, .error (.versionConflict expected c.version))

/-- Answers a call. -/
def call (s : MemoryStore) (c : StoreCall) (now : Timestamp) : MemoryStore × StoreAnswer :=
  match c with
  | .getOrCreate id project => s.getOrCreate id project now
  | .append id messages expected => s.append id messages expected now
  | .load id => (s, .ok (s.conversations.get? id))

instance : ConversationStore MemoryStore := ⟨call⟩

end MemoryStore

end Dispatch
