/-
Dispatch/Simulation/FaultyStore.lean

A store that others write to, and that fails, at given calls.

Calls of each kind are counted from 0.  Before an append with a given number another writer
appends a message of its own to the conversation, if it is there.  A call that is to fail does
not reach the store.
-/
import Dispatch.Store.Basic

namespace Dispatch

/-- The kinds of calls on a store. -/
inductive StoreCallKind where
  | getOrCreate | append | load
  deriving DecidableEq, Repr

/-- The kind of a call. -/
def StoreCall.kind : StoreCall → StoreCallKind
  | getOrCreate .. => .getOrCreate
  | append .. => .append
  | load _ => .load

/-- A call that does not reach the store. -/
structure StoreFault where
  kind : StoreCallKind
  number : Nat
  /-- What is answered instead. -/
  answer : StoreAnswer

/-- A store with what happens to it. -/
structure FaultyStore (σ : Type) where
  inner : σ
  /-- The appends before which another writer appends. -/
  interleaveOn : List Nat := []
  faults : List StoreFault := []
  /-- The calls so far, the latest first. -/
  calls : List StoreCallKind := []

namespace FaultyStore

variable {σ : Type} [ConversationStore σ]

/-- What the other writer says. -/
def foreignText : String := "foreign"

/-- Lets the other writer append to a conversation. -/
def interleave (s : σ) (id : String) (now : Timestamp) : σ :=
  let loaded := ConversationStore.call s (.load id) now
  match loaded.2 with
  | .ok (some c) =>
    let message := Message.said .user foreignText now
    (ConversationStore.call loaded.1 (.append id [message] c.version) now).1
  | _ => loaded.1

/-- Answers a call. -/
def call (s : FaultyStore σ) (c : StoreCall) (now : Timestamp) : FaultyStore σ × StoreAnswer :=
  let number := s.calls.count c.kind
  let disturbed := c.kind = .append && s.interleaveOn.contains number
  let inner := if disturbed then interleave s.inner c.id now else s.inner
  let s := { s with inner, calls := c.kind :: s.calls }
  match s.faults.find? fun f => f.kind = c.kind && f.number = number with
  | some f => (s, f.answer)
  | none =>
    let r := ConversationStore.call s.inner c now
    ({ s with inner := r.1 }, r.2)

instance : ConversationStore (FaultyStore σ) := ⟨call⟩

end FaultyStore

end Dispatch
