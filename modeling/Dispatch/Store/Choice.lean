/-
Dispatch/Store/Choice.lean

A store whose kind is chosen when the program runs.
-/
import Dispatch.Store.Cached
import Dispatch.Store.Durable
import Dispatch.Store.Memory

namespace Dispatch

/-- A store of one of the kinds that there are. -/
inductive AnyStore where
  | memory (s : MemoryStore)
  | durable (s : DurableStore)
  | cachedMemory (s : CachedStore MemoryStore)
  | cachedDurable (s : CachedStore DurableStore)

namespace AnyStore

/-- Answers a call. -/
def call (s : AnyStore) (c : StoreCall) (now : Timestamp) : AnyStore × StoreAnswer :=
  match s with
  | memory s =>
    let r := s.call c now
    (memory r.1, r.2)
  | durable s =>
    let r := ConversationStore.call s c now
    (durable r.1, r.2)
  | cachedMemory s =>
    let r := s.call c now
    (cachedMemory r.1, r.2)
  | cachedDurable s =>
    let r := s.call c now
    (cachedDurable r.1, r.2)

instance : ConversationStore AnyStore := ⟨call⟩

/-- Answers a call behind the back of the cache, if there is one. -/
def callInner (s : AnyStore) (c : StoreCall) (now : Timestamp) : AnyStore × StoreAnswer :=
  match s with
  | cachedMemory s =>
    let r := s.ask c now
    (cachedMemory r.1, r.2)
  | cachedDurable s =>
    let r := s.ask c now
    (cachedDurable r.1, r.2)
  | s => s.call c now

/-- A new store of the kind; only what is in a file is there again. -/
def reopen : AnyStore → AnyStore
  | memory _ => memory {}
  | durable s => durable s.reopen
  | cachedMemory _ => cachedMemory { inner := {} }
  | cachedDurable s => cachedDurable { inner := s.inner.reopen }

/-- Drops everything from the cache, if there is one. -/
def forgetAll? : AnyStore → Option AnyStore
  | cachedMemory s => some (cachedMemory s.forgetAll)
  | cachedDurable s => some (cachedDurable s.forgetAll)
  | memory _ | durable _ => none

/-- The conversations in memory, if that is where they are. -/
def memory? : AnyStore → Option MemoryStore
  | memory s => some s
  | cachedMemory s => some s.inner
  | durable _ | cachedDurable _ => none

/-- The database, if that is where the conversations are. -/
def durable? : AnyStore → Option DurableStore
  | durable s => some s
  | cachedDurable s => some s.inner
  | memory _ | cachedMemory _ => none

/-- Puts another database in the place of the one that is there. -/
def withDurable (s : AnyStore) (d : DurableStore) : AnyStore :=
  match s with
  | durable _ => durable d
  | cachedDurable s => cachedDurable { s with inner := d }
  | s => s

end AnyStore

end Dispatch
