/-
Dispatch/Store/Durable.lean

A store that keeps its conversations in a database.

An append is one transaction: the version is moved on only where it is the expected one, the
messages are inserted, and the conversation is read back.  A transaction answers either with an
error or with new tables, so one that fails at any statement leaves the tables as they were.
Which statements the database refuses is a parameter (`refused`); it refuses none unless said
otherwise.
-/
import Dispatch.Store.Tables

namespace Dispatch

/-- A database with the tables of conversations. -/
structure DurableStore where
  tables : Tables := {}
  /-- A closed database refuses every statement. -/
  isOpen : Bool := true
  /-- Tables in a file outlive the database. -/
  inFile : Bool := true
  deriving DecidableEq, Repr, Inhabited

namespace DurableStore

/-- Runs the statement with a number, unless the database refuses it. -/
def statement {α : Type} (refused : Nat → Bool) (n : Nat) (result : α) : Except StoreError α :=
  if refused n then .error .storage else .ok result

variable (times : TimeColumn)

/-- Inserts messages one after another, counting statements from `n` on. -/
def insertAll (refused : Nat → Bool) (id : String) : Nat → List Message → Tables →
    Except StoreError Tables
  | _, [], t => .ok t
  | n, m :: rest, t => do
    let t ← statement refused n (t.insertMessage times id m)
    insertAll refused id (n + 1) rest t

/-- The error of an append that met no conversation with the expected version. -/
def staleError (t : Tables) (id : String) (expected : Nat) : StoreError :=
  match t.conversations.get? id with
  | none => .notFound id
  | some row => .versionConflict expected (unsigned row.version)

/-- The transaction of an append: new tables and the conversation as it is in them. -/
def appendTransaction (refused : Nat → Bool) (t : Tables) (id : String)
    (messages : List Message) (expected : Nat) (now : Timestamp) :
    Except StoreError (Tables × Conversation) := do
  match ← statement refused 0 (t.moveOn times id (signed expected) messages.length now) with
  | none => throw (← statement refused 1 (staleError t id expected))
  | some t =>
    let t ← insertAll times refused id 1 messages t
    let answer ← statement refused (messages.length + 1) (t.read times id)
    match ← answer with
    | some c => pure (t, c)
    | none => throw (.notFound id)

/-- Appends messages if the conversation has the expected version. -/
def append (refused : Nat → Bool) (s : DurableStore) (id : String) (messages : List Message)
    (expected : Nat) (now : Timestamp) : DurableStore × StoreAnswer :=
  match appendTransaction times refused s.tables id messages expected now with
  | .ok (tables, c) => ({ s with tables }, .ok (some c))
  | .error e => (s, .error e)

/-- Gives a conversation, starting it if it is not there. -/
def getOrCreate (s : DurableStore) (id : String) (project : Option String) (now : Timestamp) :
    DurableStore × StoreAnswer :=
  let tables := s.tables.start times id project now
  let answer := match tables.read times id with
    | .ok none => .error (.notFound id)
    | answer => answer
  ({ s with tables }, answer)

/-- Answers a call. -/
def call (s : DurableStore) (c : StoreCall) (now : Timestamp) : DurableStore × StoreAnswer :=
  if s.isOpen then
    match c with
    | .getOrCreate id project => s.getOrCreate times id project now
    | .append id messages expected => s.append times (fun _ => false) id messages expected now
    | .load id => (s, s.tables.read times id)
  else (s, .error .storage)

/-- Closes the database. -/
def close (s : DurableStore) : DurableStore := { s with isOpen := false }

/-- Opens the database again, with the tables of its file. -/
def reopen (s : DurableStore) : DurableStore :=
  { s with isOpen := true, tables := if s.inFile then s.tables else {} }

instance : ConversationStore DurableStore := ⟨call .calendar⟩

end DurableStore

end Dispatch
