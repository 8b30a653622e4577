/-
Dispatch/Proofs/Store/Agreement.lean

A database answers like memory.

The same calls are made one after another on a store that keeps its conversations in a database and
on one that keeps them in memory, both empty at first, and the database may be closed and opened
again between any two calls, if it is in a file.  No answer tells the stores apart
(`answers_eq_memory`).

What carries the proof is that the tables have the conversations of the memory, row by row
(`Tables.Mirrors`).  A call keeps that, whether it is granted or refused: a refused append leaves
both as they were, and a granted one moves the row of the conversation on and puts the rows of the
messages behind the others.

Versions agree because they are the numbers of messages, and a list of messages in memory is never
so long that its length would not be a signed number of 64 bits.  An expected version beyond these
is stored nowhere, and its bits, read as a signed number, are those of no stored version.
-/
import Dispatch.Proofs.Store.Rows

namespace Dispatch

/-! ### Transactions -/

namespace DurableStore

variable {times : TimeColumn} {t moved t' : Tables} {id : String} {messages : List Message}
  {expected : Nat} {now : Timestamp} {c : Conversation}

/-- A transaction that moves no conversation on is given up. -/
theorem appendTransaction_of_stale
    (h : t.moveOn times id (signed expected) messages.length now = none) :
    appendTransaction times (fun _ => false) t id messages expected now
      = .error (staleError t id expected) := by
  simp only [appendTransaction, statement, h]
  rfl

/-- A transaction of which no statement is refused. -/
theorem appendTransaction_of_moveOn
    (hmoved : t.moveOn times id (signed expected) messages.length now = some moved)
    (hinserted : insertAll times (fun _ => false) id 1 messages moved = .ok t')
    (hread : t'.read times id = .ok (some c)) :
    appendTransaction times (fun _ => false) t id messages expected now = .ok (t', c) := by
  simp only [appendTransaction, statement, hmoved]
  show (insertAll times (fun _ => false) id 1 messages moved >>= _) = _
  rw [hinserted]
  show (t'.read times id >>= _) = _
  rw [hread]
  rfl

end DurableStore

namespace Tables

variable {times : TimeColumn} {t t' : Tables} {id : String} {row : ConversationRow}
  {c : Conversation} {now : Timestamp} {messages : List Message}

/-! ### One conversation -/

/-- Two states of the tables differ in one conversation at most. -/
def AgreeExcept (id : String) (t t' : Tables) : Prop :=
  ∀ other, other ≠ id → t'.conversations.get? other = t.conversations.get? other ∧
    t'.messagesOf other = t.messagesOf other

/-- A conversation that is not there is started. -/
theorem start_of_absent (hrow : t.conversations.get? id = none) (hmessages : t.messagesOf id = [])
    (htimes : times.Lossless) (hnow : now.InFourDigitYears) (project : Option String)
    (now' : Timestamp) :
    (t.start times id project now).Holds times (.start id project now') ∧
      t.AgreeExcept id (t.start times id project now) := by
  have hcontains : t.conversations.contains id = false := by rw [Table.contains, hrow]; rfl
  have hwritten : (times.read (times.write now)).isSome = true := by rw [htimes now hnow]; rfl
  simp only [start, hcontains, Bool.false_eq_true, if_false]
  have hfits : ((Conversation.start id project now').version : Int) ≤ maxSigned :=
    show (0 : Int) ≤ maxSigned by decide
  refine ⟨⟨⟨_, Table.get?_insert_self .., ?_⟩, hmessages, rfl, hfits, nofun⟩,
    fun other hother => ⟨Table.get?_insert_ne _ hother _, rfl⟩⟩
  exact ⟨rfl, rfl, hwritten, hwritten⟩

/-- A conversation that is there is left as it is. -/
theorem Holds.start_eq (h : t.Holds times c) (project : Option String) (now : Timestamp) :
    t.start times c.id project now = t := by
  obtain ⟨row, hrow, -⟩ := h.row
  have hcontains : t.conversations.contains c.id = true := by rw [Table.contains, hrow]; rfl
  simp only [start, hcontains, if_true]

/-- A stored version is the expected one if the signed readings of both are equal. -/
theorem Holds.signed_eq_iff (h : t.Holds times c) (hrow : Describes times row c) {expected : Nat}
    (hsize : expected < UInt64.size) : row.version = signed expected ↔ expected = c.version := by
  rw [hrow.version_eq, eq_comm]
  exact signed_eq_natCast_iff hsize h.fits

/-- No conversation is moved on from a version that it does not have. -/
theorem Holds.moveOn_eq_none (h : t.Holds times c) {expected : Nat} (hsize : expected < UInt64.size)
    (hne : c.version ≠ expected) (count : Nat) (now : Timestamp) :
    t.moveOn times c.id (signed expected) count now = none := by
  obtain ⟨row, hrow, hdescribes⟩ := h.row
  have hstale : row.version ≠ signed expected := fun heq =>
    hne ((h.signed_eq_iff hdescribes hsize).mp heq).symm
  simp only [moveOn, hrow, if_neg hstale]

/-- An append that names another version than the one that is there. -/
theorem Holds.staleError_eq (h : t.Holds times c) (expected : Nat) :
    DurableStore.staleError t c.id expected = .versionConflict expected c.version := by
  obtain ⟨row, hrow, hdescribes⟩ := h.row
  simp only [DurableStore.staleError, hrow, hdescribes.version_eq, unsigned_natCast h.fits]

/-- The tables after a granted append. -/
def appended (times : TimeColumn) (t : Tables) (c : Conversation) (row : ConversationRow)
    (messages : List Message) (now : Timestamp) : Tables where
  conversations := t.conversations.insert c.id (movedOn times row messages.length now)
  messages := t.messages ++ rowsFrom times c.id c.messages.length messages

theorem messagesOf_appended (times : TimeColumn) (t : Tables) (c : Conversation)
    (row : ConversationRow) (messages : List Message) (now : Timestamp) (other : String) :
    (t.appended times c row messages now).messagesOf other = t.messagesOf other
      ++ if other = c.id then rowsFrom times c.id c.messages.length messages else [] :=
  messagesOf_append (fun _ hr => (of_mem_rowsFrom hr).1) t other

theorem agreeExcept_appended (times : TimeColumn) (t : Tables) (c : Conversation)
    (row : ConversationRow) (messages : List Message) (now : Timestamp) :
    t.AgreeExcept c.id (t.appended times c row messages now) := by
  intro other hother
  refine ⟨Table.get?_insert_ne _ hother _, ?_⟩
  rw [messagesOf_appended, if_neg hother, List.append_nil]

theorem Describes.movedOn (h : Describes times row c) (htimes : times.Lossless)
    (hnow : now.InFourDigitYears) (messages : List Message) (now' : Timestamp) :
    Describes times (movedOn times row messages.length now) (c.extended messages now') where
  project_eq := h.project_eq
  version_eq := by
    show row.version + (messages.length : Int) = ((c.version + messages.length : Nat) : Int)
    rw [h.version_eq, Int.natCast_add]
  createdAt := h.createdAt
  updatedAt := by
    show (times.read (times.write now)).isSome = true
    rw [htimes now hnow]
    rfl

theorem Holds.appended (h : t.Holds times c) (hrow : Describes times row c)
    (htimes : times.Lossless) (hnow : now.InFourDigitYears)
    (hmessages : ∀ m ∈ messages, m.timestamp.InFourDigitYears)
    (hfits : ((c.version + messages.length : Nat) : Int) ≤ maxSigned) (now' : Timestamp) :
    (t.appended times c row messages now).Holds times (c.extended messages now') where
  row := ⟨_, Table.get?_insert_self .., hrow.movedOn htimes hnow messages now'⟩
  messages := by
    show (t.appended times c row messages now).messagesOf c.id
      = rowsFrom times c.id 0 (c.messages ++ messages)
    rw [messagesOf_appended, if_pos rfl, h.messages, rowsFrom_append, Nat.zero_add]
  version_eq := by
    show c.version + messages.length = (c.messages ++ messages).length
    rw [List.length_append, h.version_eq]
  fits := hfits
  dated := by
    intro m hm
    rcases List.mem_append.mp hm with hm | hm
    · exact h.dated m hm
    · exact hmessages m hm

/-- **A granted append**: the tables have the conversation with the new messages behind the others,
and answer with it. -/
theorem Holds.append (h : t.Holds times c) (htimes : times.Lossless) (hnow : now.InFourDigitYears)
    (hsize : c.version < UInt64.size) (hmessages : ∀ m ∈ messages, m.timestamp.InFourDigitYears)
    (hfits : ((c.version + messages.length : Nat) : Int) ≤ maxSigned) (now' : Timestamp) :
    ∃ t' c', DurableStore.appendTransaction times (fun _ => false) t c.id messages c.version now
        = .ok (t', c') ∧
      t'.Holds times (c.extended messages now') ∧
      c'.undated = (c.extended messages now').undated ∧ t.AgreeExcept c.id t' := by
  obtain ⟨row, hrow, hdescribes⟩ := h.row
  let moved : Tables :=
    { t with conversations := t.conversations.insert c.id (movedOn times row messages.length now) }
  have hmoved : t.moveOn times c.id (signed c.version) messages.length now = some moved := by
    simp only [moveOn, hrow, if_pos ((h.signed_eq_iff hdescribes hsize).mpr rfl)]
    rfl
  have hrows : moved.messagesOf c.id = rowsFrom times c.id 0 c.messages := h.messages
  have hholds := h.appended hdescribes htimes hnow hmessages hfits now'
  obtain ⟨c', hread, hundated⟩ := hholds.read htimes
  have htransaction :=
    DurableStore.appendTransaction_of_moveOn hmoved (insertAll_eq hrows 1) hread
  exact ⟨_, c', htransaction, hholds, hundated, agreeExcept_appended times t c row messages now⟩

/-! ### All conversations -/

/-- The tables have what a store in memory has. -/
def Mirrors (times : TimeColumn) (t : Tables) (m : MemoryStore) : Prop :=
  ∀ id, t.Stored times id (m.conversations.get? id)

variable {m : MemoryStore}

theorem mirrors_empty (times : TimeColumn) : ({} : Tables).Mirrors times {} :=
  fun _ => .absent rfl rfl

theorem Mirrors.holds (h : t.Mirrors times m) (hc : m.conversations.get? id = some c) :
    c.id = id ∧ t.Holds times c := by
  have hid := h id
  rw [hc] at hid
  cases hid with
  | present hid hholds => exact ⟨hid, hholds⟩

theorem Mirrors.absent (h : t.Mirrors times m) (hn : m.conversations.get? id = none) :
    t.conversations.get? id = none ∧ t.messagesOf id = [] := by
  have hid := h id
  rw [hn] at hid
  cases hid with
  | absent hrow hmessages => exact ⟨hrow, hmessages⟩

/-- One conversation is written, in the tables and in memory. -/
theorem Mirrors.insert (h : t.Mirrors times m) (hc : t'.Holds times c)
    (hexcept : t.AgreeExcept c.id t') :
    t'.Mirrors times { conversations := m.conversations.insert c.id c } := by
  intro other
  by_cases hother : other = c.id
  · subst hother
    rw [Table.get?_insert_self]
    exact .present rfl hc
  · rw [Table.get?_insert_ne _ hother]
    exact (h other).congr (hexcept other hother).1 (hexcept other hother).2

end Tables

/-! ### One call -/

/-- What callers can send: expected versions are numbers of 64 bits, and the year of every
message has four digits. -/
def StoreCall.Sendable : StoreCall → Prop
  | .append _ messages expected =>
    expected < UInt64.size ∧ ∀ m ∈ messages, m.timestamp.InFourDigitYears
  | .getOrCreate _ _ | .load _ => True

instance : (c : StoreCall) → Decidable c.Sendable
  | .append _ messages expected => inferInstanceAs
    (Decidable (expected < UInt64.size ∧ ∀ m ∈ messages, m.timestamp.InFourDigitYears))
  | .getOrCreate _ _ | .load _ => inferInstanceAs (Decidable True)

/-- Whether the messages of an answer fit into a list in memory. -/
def StoreAnswer.Fits : StoreAnswer → Prop
  | .ok (some c) => (c.messages.length : Int) ≤ maxSigned
  | .ok none | .error _ => True

instance : (a : StoreAnswer) → Decidable a.Fits
  | .ok (some c) => inferInstanceAs (Decidable ((c.messages.length : Int) ≤ maxSigned))
  | .ok none | .error _ => inferInstanceAs (Decidable True)

namespace DurableStore

variable {times : TimeColumn} {s : DurableStore} {m : MemoryStore} {c : StoreCall}
  {now now' : Timestamp}

/-- **A database answers a call like memory**, and its tables have what is in memory then. -/
theorem call_spec (htimes : times.Lossless) (hopen : s.isOpen = true)
    (h : s.tables.Mirrors times m) (hsendable : c.Sendable) (hnow : now.InFourDigitYears)
    (hfits : StoreAnswer.Fits (m.call c now').2) :
    ∃ tables, (s.call times c now).1 = { s with tables } ∧
      tables.Mirrors times (m.call c now').1 ∧
      StoreAnswer.undated (s.call times c now).2 = StoreAnswer.undated (m.call c now').2 := by
  -- what memory does decides the case; the tables then leave the database no other answer
  have ha : m.Answers now' c (m.call c now').1 (m.call c now').2 := .of_eq rfl rfl
  generalize (m.call c now').1 = m' at ha ⊢
  generalize (m.call c now').2 = answer at ha hfits ⊢
  unfold call
  rw [if_pos hopen]
  cases ha with
  | @started id project hn =>
    obtain ⟨hrow, hmessages⟩ := h.absent hn
    obtain ⟨hholds, hexcept⟩ := Tables.start_of_absent hrow hmessages htimes hnow project now'
    obtain ⟨c', hread, hundated⟩ := hholds.read htimes
    refine ⟨_, rfl, h.insert hholds hexcept, ?_⟩
    have hread' : (s.tables.start times id project now).read times id = .ok (some c') := hread
    simp only [getOrCreate, hread']
    exact StoreAnswer.undated_ok hundated
  | @opened id project c hc =>
    obtain ⟨rfl, hholds⟩ := h.holds hc
    obtain ⟨c', hread, hundated⟩ := hholds.read htimes
    simp only [getOrCreate, hholds.start_eq, hread]
    exact ⟨_, rfl, h, StoreAnswer.undated_ok hundated⟩
  | @landed id messages expected c hc heq =>
    obtain ⟨rfl, hholds⟩ := h.holds hc
    subst heq
    have hlength : ((c.version + messages.length : Nat) : Int) ≤ maxSigned := by
      rw [hholds.version_eq, ← List.length_append]
      exact hfits
    obtain ⟨tables, c', happend, hholds', hundated, hexcept⟩ :=
      hholds.append htimes hnow hsendable.1 hsendable.2 hlength now'
    simp only [append, happend]
    exact ⟨_, rfl, h.insert hholds' hexcept, StoreAnswer.undated_ok hundated⟩
  | @conflict id messages expected c hc hne =>
    obtain ⟨rfl, hholds⟩ := h.holds hc
    have hstale := hholds.moveOn_eq_none hsendable.1 hne messages.length now
    simp only [append, appendTransaction_of_stale hstale, hholds.staleError_eq]
    exact ⟨_, rfl, h, trivial⟩
  | @missing id messages expected hn =>
    obtain ⟨hrow, -⟩ := h.absent hn
    have hstale : s.tables.moveOn times id (signed expected) messages.length now = none := by
      simp only [Tables.moveOn, hrow]
    simp only [append, appendTransaction_of_stale hstale, staleError, hrow]
    exact ⟨_, rfl, h, trivial⟩
  | @loaded id x hx =>
    refine ⟨_, rfl, h, ?_⟩
    cases x with
    | none =>
      simp only [Tables.read, (h.absent hx).1]
    | some c =>
      obtain ⟨rfl, hholds⟩ := h.holds hx
      obtain ⟨c', hread, hundated⟩ := hholds.read htimes
      simp only [hread]
      exact StoreAnswer.undated_ok hundated

end DurableStore

/-! ### Many calls -/

/-- Somebody calls the store, or the database is closed and opened again. -/
inductive DurableTurn where
  /-- A call, with the times at which the database and the memory serve it. -/
  | call (c : StoreCall) (now memoryNow : Timestamp)
  | restart
  deriving DecidableEq

namespace DurableTurn

/-- The call on a store in memory, if it is one. -/
def inMemory? : DurableTurn → Option (StoreCall × Timestamp)
  | call c _ memoryNow => some (c, memoryNow)
  | restart => none

/-- Whether a call can be sent, and is served in a year of four digits. -/
def Sendable : DurableTurn → Prop
  | call c now _ => c.Sendable ∧ now.InFourDigitYears
  | restart => True

instance : (t : DurableTurn) → Decidable t.Sendable
  | call c now _ => inferInstanceAs (Decidable (c.Sendable ∧ now.InFourDigitYears))
  | restart => inferInstanceAs (Decidable True)

end DurableTurn

namespace DurableStore

variable {times : TimeColumn}

/-- What calls are answered. -/
def answers (times : TimeColumn) (s : DurableStore) : List DurableTurn → List StoreAnswer
  | [] => []
  | .call c now _ :: rest => (s.call times c now).2 :: (s.call times c now).1.answers times rest
  | .restart :: rest => s.close.reopen.answers times rest

/-- **A database answers like memory.**  Let calls be made one after another on a database without
conversations, which is closed and opened again at any times if it is in a file, and let the same
calls be made on an empty store in memory.  If columns give back the times in years of four
digits, and no conversation outgrows a list in memory, every call is answered alike by both, apart
from the times that are up to the clocks. -/
theorem answers_eq_memory (htimes : times.Lossless) {inFile : Bool} {turns : List DurableTurn}
    (hfile : .restart ∈ turns → inFile = true) (hsendable : ∀ t ∈ turns, t.Sendable)
    (hfits : ∀ a ∈ ({} : MemoryStore).answers (turns.filterMap DurableTurn.inMemory?),
      StoreAnswer.Fits a) :
    (({ inFile } : DurableStore).answers times turns).map StoreAnswer.undated
      = (({} : MemoryStore).answers (turns.filterMap DurableTurn.inMemory?)).map
          StoreAnswer.undated := by
  -- the invariant is `Mirrors`; a database that is open between two turns is its tables
  have hrun : ∀ (tables : Tables) (m : MemoryStore), tables.Mirrors times m →
      (∀ a ∈ m.answers (turns.filterMap DurableTurn.inMemory?), StoreAnswer.Fits a) →
      (({ tables, inFile } : DurableStore).answers times turns).map StoreAnswer.undated
        = (m.answers (turns.filterMap DurableTurn.inMemory?)).map StoreAnswer.undated := by
    clear hfits
    induction turns with
    | nil => exact fun _ _ _ _ => rfl
    | cons t rest ih =>
      intro tables m hmirrors hfits
      have hrest := ih (fun h => hfile (List.mem_cons_of_mem _ h))
        fun u hu => hsendable u (List.mem_cons_of_mem _ hu)
      cases t with
      | call c now memoryNow =>
        obtain ⟨hc, hnow⟩ := hsendable _ List.mem_cons_self
        obtain ⟨tables', hcall, hmirrors', hundated⟩ :=
          call_spec (s := { tables, inFile }) htimes rfl hmirrors hc hnow
            (hfits _ List.mem_cons_self)
        have hlater := hrest tables' _ hmirrors'
          fun a ha => hfits a (List.mem_cons_of_mem _ ha)
        rw [answers, hcall, List.map_cons, hundated, hlater]
        rfl
      | restart =>
        have hopened : ({ tables, inFile } : DurableStore).close.reopen = { tables, inFile } := by
          rw [hfile List.mem_cons_self]
          rfl
        rw [answers, hopened]
        exact hrest tables m hmirrors hfits
  exact hrun {} {} (Tables.mirrors_empty times) hfits

/-- A conversation outlives its database, with a message of a leap second; and an expected version
that the database reads as a negative number conflicts as it does in memory. -/
theorem answers_of_reopened_database :
    let rule : Message := .said .system "be terse" ⟨1709164800, 0⟩
    let question : Message := .said .user "why" ⟨1483228799, 1500000000⟩
    let turns : List DurableTurn := [
      .call (.getOrCreate "c1" (some "proj")) ⟨1709164800, 0⟩ ⟨0, 0⟩,
      .call (.append "c1" [rule, question] 0) ⟨1709164801, 0⟩ ⟨1, 0⟩,
      .restart,
      .call (.append "c1" [] 2) ⟨1709164802, 0⟩ ⟨2, 0⟩,
      .call (.append "c1" [question] 9223372036854775810) ⟨1709164803, 0⟩ ⟨3, 0⟩,
      .call (.append "c2" [question] 0) ⟨1709164804, 0⟩ ⟨4, 0⟩,
      .call (.load "c1") ⟨1709164805, 0⟩ ⟨5, 0⟩]
    let empty : Conversation := .start "c1" (some "proj") .epoch
    let full : Conversation := empty.extended [rule, question] .epoch
    (TimeColumn.calendar.Lossless ∧ (.restart ∈ turns → true = true) ∧
      (∀ t ∈ turns, t.Sendable) ∧
      ∀ a ∈ ({} : MemoryStore).answers (turns.filterMap DurableTurn.inMemory?),
        StoreAnswer.Fits a) ∧
    (({ inFile := true } : DurableStore).answers .calendar turns).map StoreAnswer.undated
      = [.ok (some empty), .ok (some full), .ok (some full),
        .error (.versionConflict 9223372036854775810 2), .error (.notFound "c2"),
        .ok (some full)] := by
  intro rule question turns empty full
  have hfile : .restart ∈ turns → true = true := fun _ => rfl
  have hsendable : ∀ t ∈ turns, t.Sendable := by decide
  have hfits : ∀ a ∈ ({} : MemoryStore).answers (turns.filterMap DurableTurn.inMemory?),
      StoreAnswer.Fits a := by decide
  refine ⟨⟨TimeColumn.calendar_lossless, hfile, hsendable, hfits⟩, ?_⟩
  rw [answers_eq_memory TimeColumn.calendar_lossless hfile hsendable hfits]
  decide

end DurableStore

end Dispatch
