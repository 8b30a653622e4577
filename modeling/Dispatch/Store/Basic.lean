/-
Dispatch/Store/Basic.lean

Stores of conversations, as their callers see them.

A store answers three calls: give me this conversation and start it if it is not there, append
these messages if the conversation still has the version that I have seen, give me this
conversation.  An append that names another version changes nothing, so a caller never writes
over what it has not seen, and no conversation is locked while a backend works on a reply.
-/
import Dispatch.Conversation.Basic

namespace Dispatch

/-- Why a store refuses a call. -/
inductive StoreError where
  /-- The conversation has another version than the caller has seen. -/
  | versionConflict (expected actual : Nat)
  | notFound (id : String)
  /-- The storage below the store fails. -/
  | storage
  /-- What is stored is no conversation. -/
  | corrupt (detail : String)
  deriving DecidableEq, Repr

/-- The text of an error; what a failing storage has to say is not known. -/
def StoreError.message? : StoreError → Option String
  | versionConflict expected actual =>
    some s!"Version conflict: expected {expected}, found {actual}"
  | notFound id => some s!"Conversation not found: {id}"
  | storage => none
  | corrupt detail => some s!"Corrupt stored data: {detail}"

/-- A call on a store. -/
inductive StoreCall where
  /-- Gives a conversation, starting it if it is not there.  The project of a conversation that
  is there stays. -/
  | getOrCreate (id : String) (project : Option String)
  /-- Appends messages, all or none, if the conversation has the expected version. -/
  | append (id : String) (messages : List Message) (expected : Nat)
  /-- Gives a conversation, if it is there. -/
  | load (id : String)
  deriving DecidableEq, Repr

/-- The conversation that a call is about. -/
def StoreCall.id : StoreCall → String
  | getOrCreate id _ => id
  | append id _ _ => id
  | load id => id

/-- The answer to a call: the conversation as it is after the call.  Only a load answers without
one. -/
abbrev StoreAnswer := Except StoreError (Option Conversation)

/-- Stores of conversations. -/
class ConversationStore (σ : Type) where
  /-- Answers a call at a time, and gives the store as the call leaves it. -/
  call : σ → StoreCall → Timestamp → σ × StoreAnswer

/-- A conversation with more messages, one version further for each of them. -/
def Conversation.extended (c : Conversation) (messages : List Message) (now : Timestamp) :
    Conversation :=
  { c with
    messages := c.messages ++ messages
    version := c.version + messages.length
    updatedAt := now }

end Dispatch
