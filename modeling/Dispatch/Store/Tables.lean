/-
Dispatch/Store/Tables.lean

The two tables of a database that hold conversations, and the statements that run on them.

Versions are stored as signed integers of 64 bits, so a version from 2^63 on is stored as the
negative number with the same bits (`signed`, `unsigned`).  A stored version that a statement
has moved beyond 63 bits is no integer any more, and cannot be read back.

Roles and points in time are stored as texts, and whether a message is pinned as a number.  How
points in time are written is up to what connects the program to the database, so it is a parameter
(`TimeColumn`); a running program writes them as dates with times of day.
-/
import Dispatch.Store.Basic
import Dispatch.Table
import Dispatch.Timestamp.Text

namespace Dispatch

/-- The signed number with the same 64 bits. -/
def signed (n : Nat) : Int := Int.bmod n UInt64.size

/-- The unsigned number with the same 64 bits. -/
def unsigned (n : Int) : Nat := (n % UInt64.size).toNat

/-- The greatest signed number of 64 bits. -/
def maxSigned : Int := 9223372036854775807

/-- How points in time are written into columns, and read back from them. -/
structure TimeColumn where
  write : Timestamp → String
  read : String → Option Timestamp

namespace TimeColumn

/-- Dates with times of day, and the offset in figures. -/
def calendar : TimeColumn where
  write t := t.clockText ++ "+00:00"
  read := Timestamp.parse

/-- The point in time of a column; a text that says none fails the statement. -/
def point (times : TimeColumn) (text : String) : Except StoreError Timestamp :=
  match times.read text with
  | some t => .ok t
  | none => .error .storage

end TimeColumn

/-- A row of the table of conversations; its key is the id. -/
structure ConversationRow where
  project : Option String
  version : Int
  createdAt : String
  updatedAt : String
  deriving DecidableEq, Repr

/-- A row of the table of messages. -/
structure MessageRow where
  conversation : String
  /-- The place in the conversation. -/
  seq : Int
  /-- The name of the role; nothing keeps another text from being stored. -/
  role : String
  content : String
  /-- Zero, if the message is not pinned. -/
  pinned : Int
  createdAt : String
  deriving DecidableEq, Repr

/-- The tables. -/
structure Tables where
  conversations : Table ConversationRow := .empty
  /-- Messages in the order in which they were inserted. -/
  messages : List MessageRow := []
  deriving DecidableEq, Repr, Inhabited

namespace Tables

variable (times : TimeColumn)

/-! ### Reading -/

/-- The message of a row, if its role is one. -/
def messageOfRow (r : MessageRow) : Except StoreError Message :=
  match Role.ofName? r.role with
  | some role => do
    let timestamp ← times.point r.createdAt
    pure { role, content := r.content, timestamp, pinned := r.pinned ≠ 0 }
  | none => .error (.corrupt (Role.unknownNameMessage r.role))

/-- The message rows of a conversation. -/
def messagesOf (t : Tables) (id : String) : List MessageRow :=
  t.messages.filter fun r => r.conversation = id

/-- The message rows of a conversation, by their places. -/
def rowsOf (t : Tables) (id : String) : List MessageRow :=
  (t.messagesOf id).mergeSort fun a b => a.seq ≤ b.seq

/-- A conversation, if it is there. -/
def read (t : Tables) (id : String) : StoreAnswer :=
  match t.conversations.get? id with
  | none => .ok none
  | some row =>
    if maxSigned < row.version then .error .storage
    else do
      let createdAt ← times.point row.createdAt
      let updatedAt ← times.point row.updatedAt
      let messages ← (t.rowsOf id).mapM (messageOfRow times)
      pure (some {
        id, messages, createdAt, updatedAt
        project := row.project
        version := unsigned row.version })

/-! ### Writing -/

/-- Inserts a conversation without messages, unless it is there. -/
def start (t : Tables) (id : String) (project : Option String) (now : Timestamp) : Tables :=
  if t.conversations.contains id then t
  else
    let row : ConversationRow := {
      project
      version := 0
      createdAt := times.write now
      updatedAt := times.write now }
    { t with conversations := t.conversations.insert id row }

/-- The row of a conversation, some versions further. -/
def movedOn (row : ConversationRow) (count : Nat) (now : Timestamp) : ConversationRow :=
  { row with version := row.version + count, updatedAt := times.write now }

/-- Moves a conversation on by a number of versions, if it is there with the expected one. -/
def moveOn (t : Tables) (id : String) (expected : Int) (count : Nat) (now : Timestamp) :
    Option Tables :=
  match t.conversations.get? id with
  | none => none
  | some row =>
    if row.version = expected then
      some { t with conversations := t.conversations.insert id (movedOn times row count now) }
    else none

/-- The place behind every message of a conversation. -/
def nextSeq (t : Tables) (id : String) : Int :=
  ((t.messagesOf id).map MessageRow.seq).max?.getD (-1) + 1

/-- Inserts a message behind the others of its conversation. -/
def insertMessage (t : Tables) (id : String) (m : Message) : Tables :=
  let row : MessageRow := {
    conversation := id
    seq := t.nextSeq id
    role := m.role.name
    content := m.content
    pinned := if m.pinned then 1 else 0
    createdAt := times.write m.timestamp }
  { t with messages := t.messages ++ [row] }

/-- Overwrites the role of a message, and says how many rows that changes. -/
def setRole (t : Tables) (id : String) (seq : Int) (role : String) : Tables × Nat :=
  let hit (r : MessageRow) : Bool := r.conversation = id && r.seq = seq
  ({ t with messages := t.messages.map fun r => if hit r then { r with role } else r },
    t.messages.countP hit)

/-- Overwrites the version of a conversation, and says how many rows that changes. -/
def setVersion (t : Tables) (id : String) (version : Int) : Tables × Nat :=
  match t.conversations.get? id with
  | none => (t, 0)
  | some row => ({ t with conversations := t.conversations.insert id { row with version } }, 1)

end Tables

end Dispatch
