/-
Dispatch/Proofs/Store/Transaction.lean

An append to a database, request by request.

`DurableStore.append` takes the transaction as a whole: it has new tables, or it has an error and
the tables stay.  Here the same append talks to the database over a connection (`Connection`), one
request after another, and any request may be refused.  A statement that runs while no transaction
is open changes the stored tables at once; a session that fails stops where it is, with whatever it
has done so far; and a transaction that is still open at the end is given up.  That a failed append
changes nothing has to come from the order of its requests: everything that can fail, reading the
conversation back included, comes before the commit.

`Safe` says that of a session from a connection on: if it fails, the stored tables are the ones to
be kept.  It is put together along the session (`Safe.bind`), one lemma for each request.  What the
session of an append does if it ends well is `Tables.Appended`: one row of a conversation is moved
on, and rows of messages come behind those that are there, whatever these are.

The append that runs is the session of requests for its statements (`append_eq_appendStepwise`):
the session follows the transaction (`Follows`) statement by statement, and fails with its error.
So the append that runs does the whole or nothing too (`append_whole_or_nothing`).
-/
import Dispatch.Proofs.Store.Rows

namespace Dispatch

/-! ### Tables appended to -/

namespace Tables

variable {times : TimeColumn} {t t' : Tables} {id : String} {messages : List Message}

/-- Tables to which messages of a conversation were appended: nothing but the row of the
conversation and the new rows of messages makes a difference. -/
structure Appended (times : TimeColumn) (id : String) (messages : List Message) (expected : Nat)
    (now : Timestamp) (t t' : Tables) : Prop where
  /-- The conversation has the expected version, and is moved on. -/
  movedOn : ∃ row, t.conversations.get? id = some row ∧ row.version = signed expected ∧
    t'.conversations.get? id = some (movedOn times row messages.length now)
  others : ∀ other, other ≠ id → t'.conversations.get? other = t.conversations.get? other
  /-- The places of the new rows follow one another, behind all places of the conversation. -/
  rows : ∃ first, (∀ r ∈ t.messagesOf id, r.seq < first) ∧
    t'.messages = t.messages ++ rowsAt times id first messages

theorem moveOn_eq_some {expected : Int} {count : Nat} {now : Timestamp}
    (h : t.moveOn times id expected count now = some t') :
    ∃ row, t.conversations.get? id = some row ∧ row.version = expected ∧
      t' = { t with conversations :=
        t.conversations.insert id (Tables.movedOn times row count now) } := by
  unfold moveOn at h
  split at h
  · cases h
  · next row hrow =>
    split at h
    · next hversion =>
      cases h
      exact ⟨row, hrow, hversion, rfl⟩
    · cases h

/-- A conversation that is moved on and gets its messages is appended to. -/
theorem appended_of_moveOn {expected : Nat} {now : Timestamp}
    (h : t.moveOn times id (signed expected) messages.length now = some t') :
    t.Appended times id messages expected now
      (messages.foldl (fun t m => t.insertMessage times id m) t') := by
  obtain ⟨row, hrow, hversion, rfl⟩ := moveOn_eq_some h
  rw [foldl_insertMessage]
  refine ⟨⟨row, hrow, hversion, Table.get?_insert_self ..⟩, fun other hother => ?_, ?_⟩
  · exact Table.get?_insert_ne _ hother _
  · exact ⟨t.nextSeq id, fun r hr => seq_lt_nextSeq hr, rfl⟩

end Tables

namespace DurableStore

/-! ### Connections -/

/-- A connection to the database. -/
structure Connection where
  /-- The tables as everybody sees them. -/
  stored : Tables
  /-- The tables as the open transaction has left them. -/
  pending : Option Tables := none

namespace Connection

variable {α : Type}

/-- Opens a transaction. -/
def begin (c : Connection) : Connection := { c with pending := some c.stored }

/-- Ends the transaction, and stores what it has done. -/
def commit (c : Connection) : Connection := { stored := c.pending.getD c.stored }

/-- Ends the transaction, if one is open, and leaves no trace of it. -/
def rollback (c : Connection) : Connection := { c with pending := none }

/-- Runs a statement, in the transaction if one is open. -/
def execute (statement : Tables → α × Tables) (c : Connection) : α × Connection :=
  match c.pending with
  | some t => ((statement t).1, { c with pending := some (statement t).2 })
  | none => ((statement c.stored).1, { c with stored := (statement c.stored).2 })

end Connection

/-! ### Sessions -/

/-- A program that runs on a connection, and answers or fails.  Where it fails, it leaves the
connection as it is. -/
def Session (α : Type) : Type := Connection → Except StoreError α × Connection

instance : Monad Session where
  pure a c := (.ok a, c)
  bind p next c :=
    match p c with
    | (.ok a, c) => next a c
    | (.error e, c) => (.error e, c)

/-- Fails. -/
def Session.fail {α : Type} (e : StoreError) : Session α := fun c => (.error e, c)

theorem bind_apply {α β : Type} (p : Session α) (next : α → Session β) (c : Connection) :
    (p >>= next) c = match p c with
      | (.ok a, c) => next a c
      | (.error e, c) => (.error e, c) := rfl

/-- What an append may ask of the database. -/
inductive Request where
  | begin
  | moveOn
  | findVersion
  | insert (place : Nat)
  | read
  | commit
  | rollback
  deriving DecidableEq, Repr

section

variable {α β : Type} (times : TimeColumn) (refused : Request → Bool)

/-- Makes a request, which the database may refuse. -/
def ask (r : Request) (serve : Connection → α × Connection) : Session α := fun c =>
  if refused r then (.error .storage, c) else ((.ok (serve c).1), (serve c).2)

/-- Inserts messages one after another. -/
def insertEach (id : String) : Nat → List Message → Session Unit
  | _, [] => pure ()
  | place, m :: rest => do
    ask refused (.insert place) (Connection.execute fun t => ((), t.insertMessage times id m))
    insertEach id (place + 1) rest

/-- The session of an append. -/
def appendSession (id : String) (messages : List Message) (expected : Nat) (now : Timestamp) :
    Session Conversation := do
  ask refused .begin fun c => ((), c.begin)
  let moved ← ask refused .moveOn (Connection.execute fun t =>
    match t.moveOn times id (signed expected) messages.length now with
    | some t' => (true, t')
    | none => (false, t))
  if moved then
    insertEach times refused id 0 messages
    let answer ← ask refused .read (Connection.execute fun t => (t.read times id, t))
    match answer with
    | .ok (some c) =>
      ask refused .commit fun c => ((), c.commit)
      pure c
    | .ok none => Session.fail (.notFound id)
    | .error e => Session.fail e
  else
    let e ← ask refused .findVersion (Connection.execute fun t => (staleError t id expected, t))
    ask refused .rollback fun c => ((), c.rollback)
    Session.fail e

/-- Appends messages in a session of its own; a transaction that is open at the end is dropped. -/
def appendStepwise (s : DurableStore) (id : String) (messages : List Message) (expected : Nat)
    (now : Timestamp) : DurableStore × StoreAnswer :=
  let r := appendSession times refused id messages expected now { stored := s.tables }
  ({ s with tables := r.2.rollback.stored }, r.1.map some)

end

/-! ### Safe sessions -/

section

variable {α β : Type} {times : TimeColumn} {refused : Request → Bool} {kept t u : Tables}
  {c : Connection} {p : Session α} {next : α → Session β} {after : α → Connection → Prop}
  {id : String} {messages : List Message} {expected : Nat} {now : Timestamp}

/-- From a connection on, a session ends well as `after` says, or it fails and the stored tables
are the ones to be kept. -/
def Safe (kept : Tables) (c : Connection) (p : Session α) (after : α → Connection → Prop) : Prop :=
  match p c with
  | (.ok a, c') => after a c'
  | (.error _, c') => c'.stored = kept

theorem Safe.pure {a : α} (h : after a c) : Safe kept c (pure a) after := h

theorem Safe.fail {e : StoreError} (h : c.stored = kept) : Safe kept c (.fail e) after := h

/-- A session that fails does not go on. -/
theorem Safe.bind {done : β → Connection → Prop} (after : α → Connection → Prop)
    (hp : Safe kept c p after) (hnext : ∀ a c', after a c' → Safe kept c' (next a) done) :
    Safe kept c (p >>= next) done := by
  unfold Safe at hp ⊢
  rw [bind_apply]
  generalize p c = result at hp ⊢
  obtain ⟨e | a, c'⟩ := result
  · exact hp
  · exact hnext a c' hp

/-- A request that is refused changes nothing. -/
theorem Safe.ask {r : Request} {serve : Connection → α × Connection} (hkept : c.stored = kept)
    (h : after (serve c).1 (serve c).2) : Safe kept c (ask refused r serve) after := by
  unfold Safe DurableStore.ask
  cases refused r with
  | false => exact h
  | true => exact hkept

theorem safe_insertEach (place : Nat) :
    Safe kept ⟨kept, some t⟩ (insertEach times refused id place messages) fun _ c =>
      c = ⟨kept, some (messages.foldl (fun t m => t.insertMessage times id m) t)⟩ := by
  induction messages generalizing t place with
  | nil => exact Safe.pure rfl
  | cons m rest ih =>
    apply Safe.bind (fun _ c => c = ⟨kept, some (t.insertMessage times id m)⟩) (Safe.ask rfl rfl)
    rintro - _ rfl
    exact ih (place + 1)

/-- **The session of an append is safe.**  Whatever is refused, it fails with the tables as they
were, or it ends with the messages appended and read back. -/
theorem safe_appendSession :
    Safe t { stored := t } (appendSession times refused id messages expected now) fun answer c =>
      t.Appended times id messages expected now c.stored ∧
        c.stored.read times id = .ok (some answer) := by
  apply Safe.bind (fun _ c => c = ⟨t, some t⟩) (Safe.ask rfl rfl)
  rintro - _ rfl
  -- from here on the stored tables are those of the beginning, until the commit
  apply Safe.bind (fun moved c =>
    (∃ t', moved = true ∧ c = ⟨t, some t'⟩ ∧
      t.moveOn times id (signed expected) messages.length now = some t') ∨
    (moved = false ∧ c = ⟨t, some t⟩))
  · apply Safe.ask rfl
    show _ ∨ _
    cases hmoved : t.moveOn times id (signed expected) messages.length now with
    | none => exact Or.inr (by simp [Connection.execute, hmoved])
    | some t' => exact Or.inl ⟨t', by simp [Connection.execute, hmoved]⟩
  · rintro moved c (⟨t', rfl, rfl, hmoved⟩ | ⟨rfl, rfl⟩)
    · apply Safe.bind _ (safe_insertEach 0)
      rintro - _ rfl
      generalize hu : messages.foldl (fun t m => t.insertMessage times id m) t' = u
      apply Safe.bind (fun answer c => c = ⟨t, some u⟩ ∧ answer = u.read times id)
        (Safe.ask rfl ⟨rfl, rfl⟩)
      rintro answer _ ⟨rfl, hanswer⟩
      -- a damaged row shows here at the latest, while nothing is stored yet
      rcases answer with e | (_ | c)
      · exact Safe.fail rfl
      · exact Safe.fail rfl
      · apply Safe.bind (fun _ c => c = ⟨u, none⟩) (Safe.ask rfl rfl)
        rintro - _ rfl
        rw [← hu] at hanswer ⊢
        exact Safe.pure ⟨Tables.appended_of_moveOn hmoved, hanswer.symm⟩
    · -- no conversation has the expected version: nothing was moved on
      apply Safe.bind (fun _ c => c = ⟨t, some t⟩) (Safe.ask rfl rfl)
      rintro e _ rfl
      apply Safe.bind (fun _ c => c = ⟨t, none⟩) (Safe.ask rfl rfl)
      rintro - _ rfl
      exact Safe.fail rfl

/-- What an append may leave behind: with an error nothing but what was there, and with an answer
the messages appended, as the answer shows them. -/
def WholeOrNothing (times : TimeColumn) (s : DurableStore) (id : String) (messages : List Message)
    (expected : Nat) (now : Timestamp) : DurableStore × StoreAnswer → Prop
  | (s', .error _) => s' = s
  | (s', .ok answer) => ∃ tables, s' = { s with tables } ∧
      s.tables.Appended times id messages expected now tables ∧
      tables.read times id = .ok answer

theorem wholeOrNothing_appendStepwise (refused : Request → Bool) (s : DurableStore) (id : String)
    (messages : List Message) (expected : Nat) (now : Timestamp) :
    WholeOrNothing times s id messages expected now
      (s.appendStepwise times refused id messages expected now) := by
  have hsafe : Safe s.tables _ (appendSession times refused id messages expected now) _ :=
    safe_appendSession
  unfold Safe at hsafe
  unfold appendStepwise
  generalize appendSession times refused id messages expected now { stored := s.tables } = result
    at hsafe ⊢
  obtain ⟨e | c, connection⟩ := result
  · have hstored : connection.stored = s.tables := hsafe
    show { s with tables := connection.stored } = s
    rw [hstored]
  · exact ⟨connection.stored, rfl, hsafe⟩

end

/-! ### Statements -/

section

variable {α β γ δ : Type} {times : TimeColumn} {refused : Nat → Bool} {requests : Request → Bool}
  {kept t : Tables} {id : String} {messages : List Message} {expected : Nat} {now : Timestamp}
  {c : Connection} {p : Session β} {next : β → Session δ} {r : Except StoreError α}
  {rest : α → Except StoreError γ} {after : α → β → Connection → Prop}

/-- The requests that are refused if the statements with these numbers are.  Beginning, storing and
giving up a transaction are not among the statements. -/
def Request.ofStatements (refused : Nat → Bool) (count : Nat) : Request → Bool
  | .moveOn => refused 0
  | .findVersion => refused 1
  | .insert place => refused (place + 1)
  | .read => refused (count + 1)
  | .begin | .commit | .rollback => false

/-- From a connection on, a session does what a transaction does: it fails with the error of the
transaction and the stored tables are the ones to be kept, or both end well, as `after` says. -/
def Follows (kept : Tables) (c : Connection) (p : Session β) (transaction : Except StoreError α)
    (after : α → β → Connection → Prop) : Prop :=
  match transaction with
  | .ok a => ∃ b c', p c = (.ok b, c') ∧ after a b c'
  | .error e => ∃ c', p c = (.error e, c') ∧ c'.stored = kept

theorem Follows.ok {b : β} {a : α} (h : after a b c) : Follows kept c (pure b) (.ok a) after :=
  ⟨b, c, rfl, h⟩

theorem Follows.error {e : StoreError} (h : c.stored = kept) :
    Follows kept c (.fail e) (.error e) after :=
  ⟨c, rfl, h⟩

/-- Where a session follows a transaction, so does what comes after it. -/
theorem Follows.bind {done : γ → δ → Connection → Prop} (after : α → β → Connection → Prop)
    (hp : Follows kept c p r after)
    (hnext : ∀ a b c', after a b c' → Follows kept c' (next b) (rest a) done) :
    Follows kept c (p >>= next) (r >>= rest) done := by
  cases r with
  | error e =>
    obtain ⟨c', hp, hkept⟩ := hp
    refine ⟨c', ?_, hkept⟩
    rw [bind_apply, hp]
  | ok a =>
    obtain ⟨b, c', hp, hafter⟩ := hp
    have happly : (p >>= next) c = next b c' := by rw [bind_apply, hp]
    have hrest := hnext a b c' hafter
    unfold Follows at hrest ⊢
    rw [happly]
    exact hrest

/-- A statement of the transaction is a request. -/
theorem Follows.statement {q : Request} {serve : Connection → β × Connection} {n : Nat} {a : α}
    (hq : requests q = refused n) (hkept : c.stored = kept)
    (h : after a (serve c).1 (serve c).2) :
    Follows kept c (ask requests q serve) (statement refused n a) after := by
  unfold Follows DurableStore.statement ask
  cases hrefused : refused n with
  | true => exact ⟨c, if_pos (hq.trans hrefused), hkept⟩
  | false => exact ⟨_, _, if_neg (by rw [hq, hrefused]; exact Bool.false_ne_true), h⟩

/-- A request that is no statement, and is granted. -/
theorem Follows.granted {q : Request} {serve : Connection → β × Connection}
    (hq : requests q = false)
    {done : α → δ → Connection → Prop}
    (hnext : Follows kept (serve c).2 (next (serve c).1) r done) :
    Follows kept c (ask requests q serve >>= next) r done := by
  have happly : (ask requests q serve >>= next) c = next (serve c).1 (serve c).2 := by
    rw [bind_apply, ask, if_neg (by rw [hq]; exact Bool.false_ne_true)]
  unfold Follows at hnext ⊢
  rw [happly]
  exact hnext

/-- Messages are inserted in the open transaction as they are in the tables. -/
theorem follows_insertEach (count place : Nat) :
    Follows kept ⟨kept, some t⟩
      (insertEach times (Request.ofStatements refused count) id place messages)
      (insertAll times refused id (place + 1) messages t) fun t' _ c => c = ⟨kept, some t'⟩ := by
  induction messages generalizing t place with
  | nil => exact Follows.ok rfl
  | cons m rest ih =>
    apply Follows.bind (fun t' _ c => c = ⟨kept, some t'⟩) (Follows.statement rfl rfl rfl)
    rintro t' - _ rfl
    exact ih (place + 1)

/-- The session of an append follows its transaction, and stores the new tables at the end. -/
theorem follows_appendSession :
    Follows t { stored := t }
      (appendSession times (Request.ofStatements refused messages.length) id messages expected now)
      (appendTransaction times refused t id messages expected now)
      fun new answer c => c.stored = new.1 ∧ answer = new.2 := by
  apply Follows.granted rfl
  -- what was moved on is new tables for the transaction, and an answer in the session
  apply Follows.bind (fun new moved c =>
    (∃ t', new = some t' ∧ moved = true ∧ c = ⟨t, some t'⟩) ∨
    (new = none ∧ moved = false ∧ c = ⟨t, some t⟩))
  · apply Follows.statement rfl rfl
    show _ ∨ _
    cases hmoved : t.moveOn times id (signed expected) messages.length now with
    | none => exact Or.inr (by simp [Connection.execute, Connection.begin, hmoved])
    | some t' =>
      exact Or.inl ⟨t', by simp [Connection.execute, Connection.begin, hmoved]⟩
  · rintro new moved c (⟨t', rfl, rfl, rfl⟩ | ⟨rfl, rfl, rfl⟩)
    · apply Follows.bind _ (follows_insertEach messages.length 0)
      rintro u - _ rfl
      apply Follows.bind (fun read answer c => read = answer ∧ c = ⟨t, some u⟩)
      · exact Follows.statement rfl rfl ⟨rfl, rfl⟩
      rintro read _ _ ⟨rfl, rfl⟩
      rcases read with e | (_ | answer)
      · exact Follows.error rfl
      · exact Follows.error rfl
      · apply Follows.granted rfl
        exact Follows.ok ⟨rfl, rfl⟩
    · apply Follows.bind (fun e e' c => e = e' ∧ c = ⟨t, some t⟩)
      · exact Follows.statement rfl rfl ⟨rfl, rfl⟩
      rintro e _ _ ⟨rfl, rfl⟩
      apply Follows.granted rfl
      exact Follows.error rfl

/-- **The append that runs is a session**, with the requests for its statements. -/
theorem append_eq_appendStepwise (refused : Nat → Bool) (s : DurableStore) (id : String)
    (messages : List Message) (expected : Nat) (now : Timestamp) :
    s.append times refused id messages expected now
      = s.appendStepwise times (Request.ofStatements refused messages.length) id messages expected
          now := by
  have hfollows : Follows s.tables _ _
      (appendTransaction times refused s.tables id messages expected now) _ :=
    follows_appendSession
  unfold append appendStepwise
  cases htransaction : appendTransaction times refused s.tables id messages expected now with
  | ok new =>
    rw [htransaction] at hfollows
    obtain ⟨answer, c, hsession, hstored, rfl⟩ := hfollows
    rw [hsession]
    show ({ s with tables := new.1 }, _) = ({ s with tables := c.stored }, _)
    rw [hstored]
    rfl
  | error e =>
    rw [htransaction] at hfollows
    obtain ⟨c, hsession, hkept⟩ := hfollows
    rw [hsession]
    show (s, _) = ({ s with tables := c.stored }, _)
    rw [hkept]
    rfl

/-- **An append does the whole or nothing.**  In every state of the tables, whatever rows are in
them, an append that answers with an error leaves the database as it was, and one that answers with
a conversation moves the row of this conversation on and puts its messages behind the others.  This
holds whichever of the requests are refused, to commit or to give up included; the append that runs
is the case in which these are not. -/
theorem append_whole_or_nothing (times : TimeColumn) (s : DurableStore) (id : String)
    (messages : List Message) (expected : Nat) (now : Timestamp) :
    (∀ refused : Request → Bool, WholeOrNothing times s id messages expected now
      (s.appendStepwise times refused id messages expected now)) ∧
    ∀ refused : Nat → Bool,
      WholeOrNothing times s id messages expected now
        (s.append times refused id messages expected now) ∧
      s.append times refused id messages expected now
        = s.appendStepwise times (Request.ofStatements refused messages.length) id messages
            expected now := by
  refine ⟨fun refused => wholeOrNothing_appendStepwise refused s id messages expected now,
    fun refused => ⟨?_, append_eq_appendStepwise refused s id messages expected now⟩⟩
  rw [append_eq_appendStepwise]
  exact wholeOrNothing_appendStepwise _ s id messages expected now

end

end DurableStore

end Dispatch
