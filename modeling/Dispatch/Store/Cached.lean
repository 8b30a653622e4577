/-
Dispatch/Store/Cached.lean

A cache in front of a store.

A call through the cache has up to three parts, and other calls may run between them: it looks
into the cache (an append does not), it calls the store, and it notes in the cache what the store
answered.  What a read brings back replaces the entry; what an append brings back replaces the
entry unless that is as new; a failed append drops the entry, so that the next read sees what the
store has.  `CachedStore.advance` takes one part, and `CachedStore.call` takes them all in a row.
-/
import Dispatch.Store.Basic
import Dispatch.Table

namespace Dispatch

/-- A store with a cache of its conversations. -/
structure CachedStore (σ : Type) where
  inner : σ
  cache : Table Conversation := .empty
  deriving Repr, Inhabited

namespace CachedStore

variable {σ : Type}

/-- What the cache knows for a call; an append never asks it. -/
def lookup (s : CachedStore σ) : StoreCall → Option Conversation
  | .append .. => none
  | c => s.cache.get? c.id

/-- Puts a conversation into the cache. -/
def remember (s : CachedStore σ) (id : String) (c : Conversation) : CachedStore σ :=
  { s with cache := s.cache.insert id c }

/-- Puts a conversation into the cache, unless the cache has it as new. -/
def rememberNewer (s : CachedStore σ) (id : String) (c : Conversation) : CachedStore σ :=
  match s.cache.get? id with
  | some known => if c.version ≤ known.version then s else s.remember id c
  | none => s.remember id c

/-- Drops a conversation from the cache. -/
def forget (s : CachedStore σ) (id : String) : CachedStore σ :=
  { s with cache := s.cache.erase id }

/-- Drops every conversation from the cache. -/
def forgetAll (s : CachedStore σ) : CachedStore σ := { s with cache := .empty }

/-- Notes in the cache what the store answered. -/
def note (s : CachedStore σ) (c : StoreCall) (answer : StoreAnswer) : CachedStore σ :=
  match c, answer with
  | .append id .., .error _ => s.forget id
  | .append id .., .ok (some stored) => s.rememberNewer id stored
  | c, .ok (some stored) => s.remember c.id stored
  | _, _ => s

variable [ConversationStore σ]

/-- Calls the store behind the cache. -/
def ask (s : CachedStore σ) (c : StoreCall) (now : Timestamp) : CachedStore σ × StoreAnswer :=
  let r := ConversationStore.call s.inner c now
  ({ s with inner := r.1 }, r.2)

/-- How far a call through the cache has come. -/
inductive Progress where
  | started
  /-- The cache does not have the answer. -/
  | missed
  /-- The store has answered. -/
  | answered (answer : StoreAnswer)
  | finished (answer : StoreAnswer)
  deriving Repr

/-- Takes the next part of a call. -/
def advance (s : CachedStore σ) (c : StoreCall) (now : Timestamp) :
    Progress → CachedStore σ × Progress
  | .started =>
    match s.lookup c with
    | some known => (s, .finished (.ok (some known)))
    | none => (s, .missed)
  | .missed =>
    let r := s.ask c now
    (r.1, .answered r.2)
  | .answered answer => (s.note c answer, .finished answer)
  | .finished answer => (s, .finished answer)

/-- Answers a call, all of its parts in a row. -/
def call (s : CachedStore σ) (c : StoreCall) (now : Timestamp) : CachedStore σ × StoreAnswer :=
  match s.lookup c with
  | some known => (s, .ok (some known))
  | none =>
    let r := s.ask c now
    (r.1.note c r.2, r.2)

/-- Three parts are all there are, and together they are the call. -/
theorem call_eq_advance (s : CachedStore σ) (c : StoreCall) (now : Timestamp) :
    let p := s.advance c now .started
    let q := p.1.advance c now p.2
    let r := q.1.advance c now q.2
    r = ((s.call c now).1, .finished (s.call c now).2) := by
  cases h : s.lookup c <;> simp [call, advance, h]

instance : ConversationStore (CachedStore σ) := ⟨call⟩

end CachedStore

end Dispatch
