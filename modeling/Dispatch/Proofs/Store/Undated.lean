/-
Dispatch/Proofs/Store/Undated.lean

Stores compared, apart from their clocks.

Two stores that serve the same calls read their clocks at different times, so what they have can
agree only up to the times at which conversations were started and last changed.  `undated` takes
these away; the times of messages stay, for they come with the calls.

A store in memory never looks at its times: two of them that have the same conversations apart from
these answer every call alike, and have the same conversations after it (`Alike.call`).
-/
import Dispatch.Proofs.Store.Interleaving

namespace Dispatch

/-- A conversation without its times. -/
def Conversation.undated (c : Conversation) : Conversation :=
  { c with createdAt := .epoch, updatedAt := .epoch }

/-- An answer without the times of its conversation. -/
def StoreAnswer.undated (a : StoreAnswer) : StoreAnswer := a.map (Option.map Conversation.undated)

theorem Conversation.undated_extended (c : Conversation) (messages : List Message)
    (now : Timestamp) :
    (c.extended messages now).undated = c.undated.extended messages .epoch := rfl

/-- Without messages, a conversation is extended in its times only. -/
theorem Conversation.undated_extended_nil (c : Conversation) (now : Timestamp) :
    (c.extended [] now).undated = c.undated := by
  simp [extended, undated]

theorem Conversation.version_eq_of_undated {c d : Conversation} (h : c.undated = d.undated) :
    c.version = d.version := by
  show c.undated.version = d.undated.version
  rw [h]

theorem StoreAnswer.undated_ok {c d : Conversation} (h : c.undated = d.undated) :
    StoreAnswer.undated (.ok (some c)) = StoreAnswer.undated (.ok (some d)) :=
  congrArg (fun c => Except.ok (some c)) h

namespace MemoryStore

variable {s s' : MemoryStore} {id : String} {x y : Conversation}

/-- Two stores have the same conversations, apart from their times. -/
def Alike (s s' : MemoryStore) : Prop :=
  ∀ id, (s.conversations.get? id).map Conversation.undated
    = (s'.conversations.get? id).map Conversation.undated

theorem Alike.refl (s : MemoryStore) : s.Alike s := fun _ => rfl

/-- A conversation is in both stores or in none. -/
theorem Alike.cases (h : s.Alike s') (id : String) :
    (s.conversations.get? id = none ∧ s'.conversations.get? id = none) ∨
      ∃ x y, s.conversations.get? id = some x ∧ s'.conversations.get? id = some y ∧
        x.undated = y.undated := by
  have hid := h id
  cases hx : s.conversations.get? id with
  | none =>
    rw [hx] at hid
    exact Or.inl ⟨rfl, Option.map_eq_none_iff.mp hid.symm⟩
  | some x =>
    rw [hx] at hid
    obtain ⟨y, hy, hxy⟩ := Option.map_eq_some_iff.mp hid.symm
    exact Or.inr ⟨x, y, rfl, hy, hxy.symm⟩

theorem Alike.insert (h : s.Alike s') (id : String) (hxy : x.undated = y.undated) :
    Alike { conversations := s.conversations.insert id x }
      { conversations := s'.conversations.insert id y } := by
  intro other
  simp only [Table.get?_insert]
  split
  · exact congrArg some hxy
  · exact h other

/-- **Clocks make no difference** to what a store in memory has and answers. -/
theorem Alike.call (h : s.Alike s') (c : StoreCall) (now now' : Timestamp) :
    (s.call c now).1.Alike (s'.call c now').1 ∧
      StoreAnswer.undated (s.call c now).2 = StoreAnswer.undated (s'.call c now').2 := by
  cases c with
  | getOrCreate id project =>
    simp only [MemoryStore.call, getOrCreate]
    rcases h.cases id with ⟨hx, hy⟩ | ⟨x, y, hx, hy, hxy⟩
    · rw [hx, hy]
      exact ⟨h.insert id rfl, rfl⟩
    · rw [hx, hy]
      exact ⟨h, StoreAnswer.undated_ok hxy⟩
  | append id messages expected =>
    simp only [MemoryStore.call, append]
    rcases h.cases id with ⟨hx, hy⟩ | ⟨x, y, hx, hy, hxy⟩
    · rw [hx, hy]
      exact ⟨h, rfl⟩
    · rw [hx, hy]
      simp only [Conversation.version_eq_of_undated hxy]
      have hextended : (x.extended messages now).undated = (y.extended messages now').undated := by
        rw [Conversation.undated_extended, Conversation.undated_extended, hxy]
      split
      · exact ⟨h.insert id hextended, StoreAnswer.undated_ok hextended⟩
      · exact ⟨h, rfl⟩
  | load id => exact ⟨h, congrArg Except.ok (h id)⟩

/-- A read of a conversation that is there. -/
theorem call_of_isRead {c : StoreCall} (h : c.isRead = true)
    (hx : s.conversations.get? c.id = some x) (now : Timestamp) :
    s.call c now = (s, .ok (some x)) := by
  cases c with
  | getOrCreate id project =>
    simp only [StoreCall.id] at hx
    simp only [call, getOrCreate, hx]
  | append id messages expected => cases h
  | load id => exact congrArg (fun x => (s, Except.ok x)) hx

/-! ### Many calls -/

/-- What calls are answered, each with the time at which it is served. -/
def answers (s : MemoryStore) : List (StoreCall × Timestamp) → List StoreAnswer
  | [] => []
  | (c, now) :: rest => (s.call c now).2 :: (s.call c now).1.answers rest

/-- The store after calls. -/
def after (s : MemoryStore) (calls : List (StoreCall × Timestamp)) : MemoryStore :=
  calls.foldl (fun s c => (s.call c.1 c.2).1) s

end MemoryStore

end Dispatch
