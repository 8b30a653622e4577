/-
Dispatch/Proofs/Store/Rows.lean

A conversation as rows of two tables.

The messages of a conversation are rows with the places 0, 1, 2 and so on, in the order in which
they were appended (`rowsFrom`), among the rows of other conversations.  So the place behind all of
them is their number (`nextSeq_eq`), and reading them back by their places gives the messages again
(`mapM_messageOfRow`).  Tables may have other rows too, damaged ones among them; what is inserted
still comes behind them, with consecutive places (`foldl_insertMessage`).  The version is the number
of messages, and as long as that is a signed number of 64 bits, it is stored as it is.

Points in time must survive being written and read (`TimeColumn.Lossless`); dates with times
of day do (`calendar_lossless`).
-/
import Dispatch.Proofs.Store.Undated
import Dispatch.Proofs.Timestamp.Text
import Dispatch.Store.Durable

namespace Dispatch

/-! ### Columns -/

/-- Columns give points in time back, at least those in years of four digits. -/
def TimeColumn.Lossless (times : TimeColumn) : Prop :=
  ∀ t : Timestamp, t.InFourDigitYears → times.read (times.write t) = some t

/-- **A column of dates with times of day loses nothing.** -/
theorem TimeColumn.calendar_lossless : calendar.Lossless := fun _ h =>
  Timestamp.parse_clockText h Timestamp.isOffset_figures

theorem TimeColumn.Lossless.point {times : TimeColumn} (h : times.Lossless) {t : Timestamp}
    (ht : t.InFourDigitYears) : times.point (times.write t) = .ok t := by
  simp only [TimeColumn.point, h t ht]

/-- A number of 63 bits is stored as it is. -/
theorem unsigned_natCast {n : Nat} (h : (n : Int) ≤ maxSigned) : unsigned n = n := by
  simp only [maxSigned] at h
  simp only [unsigned, UInt64.size]
  omega

/-- Numbers of 64 bits that are stored alike are equal. -/
theorem signed_eq_natCast_iff {m n : Nat} (hm : m < UInt64.size) (hn : (n : Int) ≤ maxSigned) :
    signed m = n ↔ m = n := by
  -- from 2^63 on the signed number is negative, and no number of 63 bits is
  have hsigned : signed m = Int.bmod m 18446744073709551616 := rfl
  simp only [maxSigned] at hn
  simp only [UInt64.size] at hm
  rw [hsigned, Int.bmod_def]
  omega

namespace Tables

/-! ### Rows of messages -/

section

variable (times : TimeColumn)

/-- The row of a message at a place. -/
def rowOf (id : String) (seq : Int) (m : Message) : MessageRow where
  conversation := id
  seq := seq
  role := m.role.name
  content := m.content
  pinned := if m.pinned then 1 else 0
  createdAt := times.write m.timestamp

/-- The rows of messages, with consecutive places. -/
def rowsFrom (id : String) : Nat → List Message → List MessageRow
  | _, [] => []
  | n, m :: ms => rowOf times id n m :: rowsFrom id (n + 1) ms

/-- The rows of messages, with consecutive places from any number on. -/
def rowsAt (id : String) : Int → List Message → List MessageRow
  | _, [] => []
  | seq, m :: ms => rowOf times id seq m :: rowsAt id (seq + 1) ms

variable {times} {id other : String} {t : Tables} {n : Nat} {m : Message} {ms old : List Message}

theorem rowsFrom_append (id : String) (n : Nat) (ms ms' : List Message) :
    rowsFrom times id n (ms ++ ms')
      = rowsFrom times id n ms ++ rowsFrom times id (n + ms.length) ms' := by
  induction ms generalizing n with
  | nil => rfl
  | cons m ms ih =>
    rw [List.cons_append, rowsFrom, rowsFrom, ih, List.length_cons, List.cons_append,
      Nat.add_right_comm, Nat.add_assoc]

theorem rowsAt_natCast (id : String) (n : Nat) (ms : List Message) :
    rowsAt times id n ms = rowsFrom times id n ms := by
  induction ms generalizing n with
  | nil => rfl
  | cons m ms ih =>
    rw [rowsAt, rowsFrom, ← ih, Int.natCast_add]
    rfl

theorem of_mem_rowsFrom {r : MessageRow} (h : r ∈ rowsFrom times id n ms) :
    r.conversation = id ∧ n ≤ r.seq ∧ r.seq < n + ms.length := by
  induction ms generalizing n with
  | nil => cases h
  | cons m ms ih =>
    rcases List.mem_cons.mp h with rfl | h
    · exact ⟨rfl, Int.le_refl _, by simp [rowOf]⟩
    · obtain ⟨hid, hle, hlt⟩ := ih h
      rw [List.length_cons]
      exact ⟨hid, by omega, by omega⟩

/-- Rows are in the order of their places. -/
theorem pairwise_rowsFrom (id : String) (n : Nat) (ms : List Message) :
    (rowsFrom times id n ms).Pairwise fun a b => decide (a.seq ≤ b.seq) = true := by
  induction ms generalizing n with
  | nil => exact .nil
  | cons m ms ih =>
    refine List.pairwise_cons.mpr ⟨fun r hr => decide_eq_true ?_, ih (n + 1)⟩
    have hle := (of_mem_rowsFrom hr).2.1
    show (n : Int) ≤ r.seq
    omega

theorem messageOfRow_rowOf (htimes : times.Lossless) (hm : m.timestamp.InFourDigitYears)
    (id : String) (seq : Int) :
    messageOfRow times (rowOf times id seq m) = .ok m := by
  simp only [messageOfRow, rowOf, Role.ofName?_name, htimes.point hm]
  obtain ⟨role, content, timestamp, pinned⟩ := m
  cases pinned <;> rfl

/-- **The rows of messages are read back as these messages.** -/
theorem mapM_messageOfRow (htimes : times.Lossless) (hms : ∀ m ∈ ms, m.timestamp.InFourDigitYears)
    (n : Nat) : (rowsFrom times id n ms).mapM (messageOfRow times) = .ok ms := by
  induction ms generalizing n with
  | nil => rfl
  | cons m ms ih =>
    have hm := messageOfRow_rowOf htimes (hms m List.mem_cons_self) id n
    rw [rowsFrom, List.mapM_cons, hm, ih (fun m hm => hms m (List.mem_cons_of_mem _ hm))]
    rfl

/-! ### Inserting messages -/

/-- The place behind all messages is their number. -/
theorem nextSeq_eq (h : t.messagesOf id = rowsFrom times id 0 old) : t.nextSeq id = old.length := by
  rw [nextSeq, h]
  rcases List.eq_nil_or_concat old with rfl | ⟨old, m, rfl⟩
  · rfl
  · -- the last message has the greatest place
    have hmax : ((rowsFrom times id 0 (old ++ [m])).map MessageRow.seq).max?
        = some (old.length : Int) := by
      refine List.max?_eq_some_iff.mpr ⟨?_, fun seq hseq => ?_⟩
      · rw [rowsFrom_append]
        refine List.mem_map.mpr ⟨rowOf times id (0 + old.length : Nat) m, ?_, ?_⟩
        · exact List.mem_append_right _ List.mem_cons_self
        · simp [rowOf]
      · obtain ⟨r, hr, rfl⟩ := List.mem_map.mp hseq
        have hlt := (of_mem_rowsFrom hr).2.2
        rw [List.length_append, List.length_singleton] at hlt
        omega
    rw [List.concat_eq_append, hmax, List.length_append]
    rfl

theorem messagesOf_append {rows : List MessageRow} (h : ∀ r ∈ rows, r.conversation = id)
    (t : Tables) (other : String) :
    messagesOf { t with messages := t.messages ++ rows } other
      = t.messagesOf other ++ if other = id then rows else [] := by
  unfold messagesOf
  rw [List.filter_append]
  refine congrArg _ ?_
  split
  · next hother =>
    exact List.filter_eq_self.mpr fun r hr => decide_eq_true ((h r hr).trans hother.symm)
  · next hother =>
    refine List.filter_eq_nil_iff.mpr fun r hr hr' => hother ?_
    exact (of_decide_eq_true hr').symm.trans (h r hr)

/-- The place behind every message is behind it. -/
theorem seq_lt_nextSeq {r : MessageRow} (h : r ∈ t.messagesOf id) : r.seq < t.nextSeq id := by
  have hmem : r.seq ∈ (t.messagesOf id).map MessageRow.seq := List.mem_map_of_mem h
  unfold nextSeq
  cases hmax : ((t.messagesOf id).map MessageRow.seq).max? with
  | none =>
    rw [List.max?_eq_none_iff] at hmax
    rw [hmax] at hmem
    cases hmem
  | some greatest =>
    have hle := (List.max?_eq_some_iff.mp hmax).2 r.seq hmem
    simp only [Option.getD_some]
    omega

theorem insertMessage_eq (t : Tables) (id : String) (m : Message) :
    t.insertMessage times id m
      = { t with messages := t.messages ++ [rowOf times id (t.nextSeq id) m] } := rfl

/-- One message more takes one place more. -/
theorem nextSeq_insertMessage (t : Tables) (id : String) (m : Message) :
    (t.insertMessage times id m).nextSeq id = t.nextSeq id + 1 := by
  have hone : ∀ r ∈ [rowOf times id (t.nextSeq id) m], r.conversation = id := by simp [rowOf]
  have hmax : (((t.insertMessage times id m).messagesOf id).map MessageRow.seq).max?
      = some (t.nextSeq id) := by
    rw [insertMessage_eq, messagesOf_append hone, if_pos rfl, List.map_append]
    refine List.max?_eq_some_iff.mpr ⟨?_, fun seq hseq => ?_⟩
    · exact List.mem_append_right _ List.mem_cons_self
    · rcases List.mem_append.mp hseq with hold | hnew
      · obtain ⟨r, hr, rfl⟩ := List.mem_map.mp hold
        exact Int.le_of_lt (seq_lt_nextSeq hr)
      · exact Int.le_of_eq (List.mem_singleton.mp hnew)
  rw [nextSeq, hmax]
  rfl

/-- **Messages are inserted behind those that are there**, whatever rows these are. -/
theorem foldl_insertMessage (t : Tables) (id : String) (ms : List Message) :
    ms.foldl (fun t m => t.insertMessage times id m) t
      = { t with messages := t.messages ++ rowsAt times id (t.nextSeq id) ms } := by
  induction ms generalizing t with
  | nil => rw [rowsAt, List.append_nil, List.foldl_nil]
  | cons m ms ih =>
    -- the first message takes the place behind the old ones; the rest follow one message more
    rw [List.foldl_cons, ih, nextSeq_insertMessage, insertMessage_eq, List.append_assoc]
    rfl

theorem insertAll_of_granted (statement : Nat) (ms : List Message) (t : Tables) :
    DurableStore.insertAll times (fun _ => false) id statement ms t
      = .ok (ms.foldl (fun t m => t.insertMessage times id m) t) := by
  induction ms generalizing statement t with
  | nil => rfl
  | cons m ms ih => exact ih (statement + 1) (t.insertMessage times id m)

/-- Behind messages with the places 0, 1, 2 and so on, messages have the places that follow. -/
theorem insertAll_eq (h : t.messagesOf id = rowsFrom times id 0 old) (statement : Nat) :
    DurableStore.insertAll times (fun _ => false) id statement ms t
      = .ok { t with messages := t.messages ++ rowsFrom times id old.length ms } := by
  rw [insertAll_of_granted, foldl_insertMessage, nextSeq_eq h, rowsAt_natCast]

end

/-! ### Conversations -/

/-- The row of a conversation, apart from its times. -/
structure Describes (times : TimeColumn) (row : ConversationRow) (c : Conversation) : Prop where
  project_eq : row.project = c.project
  version_eq : row.version = c.version
  /-- The times can be read. -/
  createdAt : (times.read row.createdAt).isSome = true
  updatedAt : (times.read row.updatedAt).isSome = true

/-- The tables have a conversation. -/
structure Holds (times : TimeColumn) (t : Tables) (c : Conversation) : Prop where
  row : ∃ row, t.conversations.get? c.id = some row ∧ Describes times row c
  messages : t.messagesOf c.id = rowsFrom times c.id 0 c.messages
  version_eq : c.version = c.messages.length
  fits : (c.version : Int) ≤ maxSigned
  dated : ∀ m ∈ c.messages, m.timestamp.InFourDigitYears

/-- What the tables have under an id: a conversation, or nothing. -/
inductive Stored (times : TimeColumn) (t : Tables) (id : String) : Option Conversation → Prop
  | absent (hrow : t.conversations.get? id = none) (hmessages : t.messagesOf id = []) :
      Stored times t id none
  | present {c : Conversation} (hid : c.id = id) (h : t.Holds times c) : Stored times t id (some c)

variable {times : TimeColumn} {t t' : Tables} {id : String} {c : Conversation}
  {x : Option Conversation}

/-- Rows of other conversations do not matter. -/
theorem Stored.congr (h : Stored times t id x)
    (hrow : t'.conversations.get? id = t.conversations.get? id)
    (hmessages : t'.messagesOf id = t.messagesOf id) : Stored times t' id x := by
  cases h with
  | absent hrow' hmessages' => exact .absent (hrow.trans hrow') (hmessages.trans hmessages')
  | present hid h =>
    subst hid
    exact .present rfl { h with row := hrow ▸ h.row, messages := hmessages.trans h.messages }

theorem exists_point {text : String} (h : (times.read text).isSome = true) :
    ∃ p, times.point text = .ok p := by
  obtain ⟨p, hp⟩ := Option.isSome_iff_exists.mp h
  exact ⟨p, by simp only [TimeColumn.point, hp]⟩

/-- **A conversation that the tables have is read back**, apart from its times. -/
theorem Holds.read (h : t.Holds times c) (htimes : times.Lossless) :
    ∃ c', t.read times c.id = .ok (some c') ∧ c'.undated = c.undated := by
  obtain ⟨row, hrow, hdescribes⟩ := h.row
  obtain ⟨createdAt, hcreated⟩ := exists_point hdescribes.createdAt
  obtain ⟨updatedAt, hupdated⟩ := exists_point hdescribes.updatedAt
  have hfits : ¬ maxSigned < (c.version : Int) := Int.not_lt.mpr h.fits
  -- the rows were inserted in the order of their places, so sorting leaves them as they are
  have hrows : t.rowsOf c.id = rowsFrom times c.id 0 c.messages := by
    rw [rowsOf, h.messages]
    exact List.mergeSort_of_pairwise (pairwise_rowsFrom ..)
  refine ⟨{ c with createdAt, updatedAt }, ?_, rfl⟩
  simp only [Tables.read, hrow, hdescribes.version_eq, if_neg hfits, hcreated, hupdated, hrows,
    mapM_messageOfRow htimes h.dated, hdescribes.project_eq, unsigned_natCast h.fits]
  rfl

end Tables

end Dispatch
