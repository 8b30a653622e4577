/-
Dispatch/Proofs/Store/Log.lean

A store in memory, with the calls that it has served.

`MemoryStore.Answers` lists what a call can do to the store and what it is answered; what is said
about stores further on is read off it.  `StoreLog` has beside the store all calls in the order in
which they were served, with who made them and what was answered.  An append that was accepted is
a *landing*.

Two facts hold at all times.  What the store has of a conversation is what was landed on it, and
every landing expected just the messages that were there (`Balanced`, from `sound_run`).  And what
anybody was told of a conversation is what is there now, less what was landed since
(`Remembers`, kept by `Remembers.serve`).
-/
import Dispatch.Store.Memory

namespace Dispatch

/-! ### One call -/

/-- What a call can do: the store after it, and its answer. -/
inductive MemoryStore.Answers (s : MemoryStore) (now : Timestamp) :
    StoreCall → MemoryStore → StoreAnswer → Prop
  | started {id : String} {project : Option String} (h : s.conversations.get? id = none) :
      Answers s now (.getOrCreate id project)
        { conversations := s.conversations.insert id (.start id project now) }
        (.ok (some (.start id project now)))
  | opened {id : String} {project : Option String} {c : Conversation}
      (h : s.conversations.get? id = some c) :
      Answers s now (.getOrCreate id project) s (.ok (some c))
  | landed {id : String} {messages : List Message} {expected : Nat} {c : Conversation}
      (h : s.conversations.get? id = some c) (heq : c.version = expected) :
      Answers s now (.append id messages expected)
        { conversations := s.conversations.insert id (c.extended messages now) }
        (.ok (some (c.extended messages now)))
  | conflict {id : String} {messages : List Message} {expected : Nat} {c : Conversation}
      (h : s.conversations.get? id = some c) (hne : c.version ≠ expected) :
      Answers s now (.append id messages expected) s
        (.error (.versionConflict expected c.version))
  | missing {id : String} {messages : List Message} {expected : Nat}
      (h : s.conversations.get? id = none) :
      Answers s now (.append id messages expected) s (.error (.notFound id))
  | loaded {id : String} {x : Option Conversation} (h : s.conversations.get? id = x) :
      Answers s now (.load id) s (.ok x)

theorem MemoryStore.Answers.of_eq {s s' : MemoryStore} {now : Timestamp} {c : StoreCall}
    {answer : StoreAnswer} (hs : (s.call c now).1 = s') (ha : (s.call c now).2 = answer) :
    s.Answers now c s' answer := by
  subst hs ha
  cases c with
  | getOrCreate id project =>
    show s.Answers now _ (s.getOrCreate id project now).1 (s.getOrCreate id project now).2
    unfold getOrCreate
    split
    · next c hc => exact .opened hc
    · next hn => exact .started hn
  | append id messages expected =>
    show s.Answers now _ (s.append id messages expected now).1
      (s.append id messages expected now).2
    unfold append
    split
    · next hn => exact .missing hn
    · next c hc =>
      split
      · next heq => exact .landed hc heq
      · next hne => exact .conflict hc hne
  | load id => exact .loaded rfl

/-- A conversation that is answered is the one that is stored then. -/
theorem MemoryStore.Answers.get?_answer {s s' : MemoryStore} {now : Timestamp} {c : StoreCall}
    {x : Conversation} (h : s.Answers now c s' (.ok (some x))) :
    s'.conversations.get? c.id = some x := by
  cases h with
  | started _ => exact Table.get?_insert_self ..
  | opened hc => exact hc
  | landed _ _ => exact Table.get?_insert_self ..
  | loaded hc => exact hc

/-! ### Logs -/

/-- A call that was served. -/
structure Served (ι : Type) where
  client : ι
  call : StoreCall
  answer : StoreAnswer

/-- An append that was accepted. -/
structure Landing (ι : Type) where
  client : ι
  id : String
  messages : List Message
  expected : Nat
  deriving DecidableEq

/-- Somebody calls the store. -/
structure StoreTurn (ι : Type) where
  client : ι
  call : StoreCall
  now : Timestamp

/-- A store, and the calls that it has served, the oldest first. -/
structure StoreLog (ι : Type) where
  store : MemoryStore := {}
  served : List (Served ι) := []

section

variable {ι : Type}

/-- The landing of a call, if it is one. -/
def Served.landing? (r : Served ι) : Option (Landing ι) :=
  match r.call, r.answer with
  | .append id messages expected, .ok _ => some { client := r.client, id, messages, expected }
  | _, _ => none

/-- The landings on a conversation. -/
def landingsOn (id : String) (rs : List (Served ι)) : List (Landing ι) :=
  (rs.filterMap Served.landing?).filter fun a => a.id = id

/-- The messages that were landed on a conversation. -/
def landed (id : String) (rs : List (Served ι)) : List Message :=
  (landingsOn id rs).flatMap Landing.messages

@[simp] theorem landingsOn_append (id : String) (rs rs' : List (Served ι)) :
    landingsOn id (rs ++ rs') = landingsOn id rs ++ landingsOn id rs' := by
  simp [landingsOn]

@[simp] theorem landed_nil (id : String) : landed id ([] : List (Served ι)) = [] := rfl

@[simp] theorem landed_append (id : String) (rs rs' : List (Served ι)) :
    landed id (rs ++ rs') = landed id rs ++ landed id rs' := by
  simp [landed]

namespace StoreLog

/-- Serves a call. -/
def serve (w : StoreLog ι) (client : ι) (call : StoreCall) (now : Timestamp) : StoreLog ι where
  store := (w.store.call call now).1
  served := w.served ++ [{ client, call, answer := (w.store.call call now).2 }]

/-- Serves one call after another. -/
def run (w : StoreLog ι) (turns : List (StoreTurn ι)) : StoreLog ι :=
  turns.foldl (fun w t => w.serve t.client t.call t.now) w

/-- What the store has of a conversation. -/
def get? (w : StoreLog ι) (id : String) : Option Conversation := w.store.conversations.get? id

/-- The landings on a conversation, the oldest first. -/
def landings (w : StoreLog ι) (id : String) : List (Landing ι) := landingsOn id w.served

/-- What a call is answered. -/
def answer (w : StoreLog ι) (call : StoreCall) (now : Timestamp) : StoreAnswer :=
  (w.store.call call now).2

/-- What a log serves, its store answers. -/
theorem answers_of_eq {w : StoreLog ι} {client : ι} {call : StoreCall} {now : Timestamp}
    {s' : MemoryStore} {x : StoreAnswer} (hs : (w.serve client call now).store = s')
    (ha : w.answer call now = x) : w.store.Answers now call s' x := .of_eq hs ha

theorem served_serve (w : StoreLog ι) (client : ι) (call : StoreCall) (now : Timestamp) :
    (w.serve client call now).served
      = w.served ++ [{ client, call, answer := w.answer call now }] := rfl

/-- The three ways in which an append ends. -/
theorem append_cases (w : StoreLog ι) (client : ι) (id : String) (batch : List Message)
    (expected : Nat) (now : Timestamp) :
    let w' := w.serve client (.append id batch expected) now
    let answer := w.answer (.append id batch expected) now
    (∃ c, w.get? id = some c ∧ c.version = expected ∧ answer = .ok (some (c.extended batch now)) ∧
      w'.get? id = some (c.extended batch now)) ∨
    (∃ c, w.get? id = some c ∧ c.version ≠ expected ∧
      answer = .error (.versionConflict expected c.version) ∧ w'.store = w.store) ∨
    (w.get? id = none ∧ answer = .error (.notFound id) ∧ w'.store = w.store) := by
  intro w' answer
  unfold get?
  generalize hs : w'.store = s'
  generalize ha : answer = a
  cases answers_of_eq hs ha with
  | landed hc heq => exact Or.inl ⟨_, hc, heq, rfl, Table.get?_insert_self ..⟩
  | conflict hc hne => exact Or.inr (Or.inl ⟨_, hc, hne, rfl, rfl⟩)
  | missing hn => exact Or.inr (Or.inr ⟨hn, rfl, rfl⟩)

/-- A conversation is never refused to who would start it. -/
theorem exists_getOrCreate (w : StoreLog ι) (id : String) (project : Option String)
    (now : Timestamp) : ∃ c, w.answer (.getOrCreate id project) now = .ok (some c) := by
  generalize hs : (w.store.call (.getOrCreate id project) now).1 = s'
  generalize ha : w.answer (.getOrCreate id project) now = answer
  cases MemoryStore.Answers.of_eq hs ha with
  | started _ => exact ⟨_, rfl⟩
  | opened _ => exact ⟨_, rfl⟩

/-- A property that every call keeps holds at all times. -/
theorem run_induction {P : StoreLog ι → Prop} (h₀ : P {})
    (hstep : ∀ w client call now, P w → P (w.serve client call now)) (turns : List (StoreTurn ι)) :
    P (run {} turns) := by
  have hrun : ∀ w, P w → P (w.run turns) := by
    induction turns with
    | nil => exact fun w h => h
    | cons t turns ih => exact fun w h => ih _ (hstep w t.client t.call t.now h)
  exact hrun _ h₀

end StoreLog

/-! ### One call and one conversation -/

/-- What a call does to a conversation: before it, after it, and the landings that it brings. -/
inductive Effect (client : ι) (now : Timestamp) (id : String) :
    Option Conversation → Option Conversation → List (Landing ι) → Prop
  | unchanged (x : Option Conversation) : Effect client now id x x []
  | started (project : Option String) : Effect client now id none (some (.start id project now)) []
  | landed (c : Conversation) (messages : List Message) :
      Effect client now id (some c) (some (c.extended messages now))
        [{ client, id, messages, expected := c.version }]

theorem MemoryStore.Answers.effect {s s' : MemoryStore} {now : Timestamp} {call : StoreCall}
    {answer : StoreAnswer} (h : s.Answers now call s' answer) (client : ι) (id : String) :
    Effect client now id (s.conversations.get? id) (s'.conversations.get? id)
      (landingsOn id [{ client, call, answer }]) := by
  cases h with
  | @started id' project h =>
    by_cases hid : id = id'
    · subst hid
      rw [h, Table.get?_insert_self]
      exact .started project
    · rw [Table.get?_insert_ne _ hid]
      exact .unchanged _
  | @landed id' messages expected c h heq =>
    subst heq
    by_cases hid : id = id'
    · subst hid
      rw [h, Table.get?_insert_self]
      simp only [landingsOn, Served.landing?, List.filterMap_cons, List.filterMap_nil]
      rw [List.filter_cons_of_pos (by simp)]
      exact .landed c messages
    · rw [Table.get?_insert_ne _ hid]
      simp only [landingsOn, Served.landing?, List.filterMap_cons, List.filterMap_nil]
      rw [List.filter_cons_of_neg (by simpa using Ne.symm hid)]
      exact .unchanged _
  | opened _ => exact .unchanged _
  | conflict _ _ => exact .unchanged _
  | missing _ => exact .unchanged _
  | loaded _ => exact .unchanged _

theorem StoreLog.effect_serve (w : StoreLog ι) (client : ι) (call : StoreCall) (now : Timestamp)
    (id : String) :
    Effect client now id (w.get? id) ((w.serve client call now).get? id)
      (landingsOn id [{ client, call, answer := w.answer call now }]) :=
  (answers_of_eq rfl rfl).effect client id

/-! ### What is stored was landed -/

/-- Every landing expected as many messages as there were. -/
def Chained : Nat → List (Landing ι) → Prop
  | _, [] => True
  | n, a :: as => a.expected = n ∧ Chained (n + a.messages.length) as

theorem chained_append {n : Nat} {as bs : List (Landing ι)} :
    Chained n (as ++ bs) ↔
      Chained n as ∧ Chained (n + (as.flatMap Landing.messages).length) bs := by
  induction as generalizing n with
  | nil => simp [Chained]
  | cons a as ih =>
    simp only [List.cons_append, Chained, ih, List.flatMap_cons, List.length_append, and_assoc,
      Nat.add_assoc]

/-- What there is of a conversation, and what was landed on it. -/
inductive Balanced : Option Conversation → List (Landing ι) → Prop
  | absent : Balanced none []
  | present {c : Conversation} {as : List (Landing ι)}
      (hversion : c.version = c.messages.length)
      (hmessages : c.messages = as.flatMap Landing.messages) (hchain : Chained 0 as) :
      Balanced (some c) as

theorem Balanced.step {client : ι} {now : Timestamp} {id : String} {x x' : Option Conversation}
    {as bs : List (Landing ι)} (h : Balanced x as) (he : Effect client now id x x' bs) :
    Balanced x' (as ++ bs) := by
  cases he with
  | unchanged =>
    rw [List.append_nil]
    exact h
  | started project =>
    cases h
    exact .present rfl rfl trivial
  | landed c messages =>
    cases h with
    | present hversion hmessages hchain =>
      refine .present ?_ ?_ (chained_append.mpr ⟨hchain, ?_, trivial⟩)
      · simp [Conversation.extended, hversion]
      · simp [Conversation.extended, hmessages]
      · rw [← hmessages, ← hversion, Nat.zero_add]

namespace StoreLog

/-- What is stored was landed. -/
def Sound (w : StoreLog ι) : Prop := ∀ id, Balanced (w.get? id) (w.landings id)

theorem Sound.serve {w : StoreLog ι} (h : w.Sound) (client : ι) (call : StoreCall)
    (now : Timestamp) : (w.serve client call now).Sound := by
  intro id
  rw [landings, served_serve, landingsOn_append]
  exact (h id).step (w.effect_serve client call now id)

theorem Sound.present {w : StoreLog ι} (h : w.Sound) {id : String} {c : Conversation}
    (hc : w.get? id = some c) :
    c.version = c.messages.length ∧ c.messages = (w.landings id).flatMap Landing.messages ∧
      Chained 0 (w.landings id) := by
  have hb := h id
  rw [hc] at hb
  cases hb with
  | present hversion hmessages hchain => exact ⟨hversion, hmessages, hchain⟩

/-- The landings on a conversation, which is there or not, are a chain. -/
theorem Sound.chained {w : StoreLog ι} (h : w.Sound) (id : String) : Chained 0 (w.landings id) := by
  cases hc : w.get? id with
  | none =>
    have hb := h id
    rw [hc] at hb
    generalize w.landings id = as at hb
    cases hb
    trivial
  | some c => exact (h.present hc).2.2

theorem sound_run (turns : List (StoreTurn ι)) : (run {} turns).Sound :=
  run_induction (fun _ => .absent) (fun _ _ _ _ h => h.serve _ _ _) turns

/-! ### What is told stays true -/

/-- Since a call was answered with a conversation, that has only grown by what was landed. -/
def Remembers (w : StoreLog ι) : Prop :=
  ∀ pre r mid c, w.served = pre ++ r :: mid → r.answer = .ok (some c) →
    ∃ c', w.get? r.call.id = some c' ∧
      c'.version = c.version + (landed r.call.id mid).length ∧
      c'.messages = c.messages ++ landed r.call.id mid

/-- A conversation that is there only grows by what is landed. -/
theorem exists_serve (w : StoreLog ι) (client : ι) (call : StoreCall) (now : Timestamp)
    {id : String} {c : Conversation} (h : w.get? id = some c) :
    ∃ c', (w.serve client call now).get? id = some c' ∧
      c'.version = c.version
        + (landed id [{ client, call, answer := w.answer call now }]).length ∧
      c'.messages = c.messages ++ landed id [{ client, call, answer := w.answer call now }] := by
  have he := w.effect_serve client call now id
  rw [h] at he
  unfold landed
  generalize (w.serve client call now).get? id = x' at he ⊢
  generalize landingsOn id [{ client, call, answer := w.answer call now }] = as at he ⊢
  cases he with
  | unchanged => exact ⟨c, rfl, by simp⟩
  | landed _ messages => exact ⟨_, rfl, by simp [Conversation.extended]⟩

/-- A conversation that a log answers with is the one that it has then. -/
theorem get?_of_answer {w : StoreLog ι} {call : StoreCall} {now : Timestamp} {c : Conversation}
    (client : ι) (h : w.answer call now = .ok (some c)) :
    (w.serve client call now).get? call.id = some c :=
  (answers_of_eq rfl h).get?_answer

/-- A version that has moved on since a call was answered was moved on by landings. -/
theorem Remembers.landed_ne_nil {w : StoreLog ι} (h : w.Remembers) {pre mid : List (Served ι)}
    {r : Served ι} {c c' : Conversation} (hserved : w.served = pre ++ r :: mid)
    (hr : r.answer = .ok (some c)) (hc' : w.get? r.call.id = some c')
    (hne : c'.version ≠ c.version) : landed r.call.id mid ≠ [] := by
  intro hnil
  obtain ⟨d, hd, hversion, -⟩ := h pre r mid c hserved hr
  obtain rfl := Option.some.inj (hc'.symm.trans hd)
  rw [hnil] at hversion
  exact hne hversion

theorem Remembers.serve {w : StoreLog ι} (h : w.Remembers) (client : ι) (call : StoreCall)
    (now : Timestamp) : (w.serve client call now).Remembers := by
  intro pre r mid c hserved hr
  rw [served_serve] at hserved
  rcases List.eq_nil_or_concat mid with rfl | ⟨mid, x, rfl⟩
  · -- the call that has just been served
    obtain ⟨rfl, hx⟩ := List.append_inj' hserved rfl
    obtain rfl := List.singleton_inj.mp hx
    exact ⟨c, get?_of_answer client hr, by simp, by simp⟩
  · -- an earlier call: the part of the log since then has become one call longer
    rw [List.concat_eq_append] at hserved ⊢
    rw [← List.cons_append, ← List.append_assoc] at hserved
    obtain ⟨hbefore, hx⟩ := List.append_inj' hserved rfl
    obtain rfl := List.singleton_inj.mp hx
    obtain ⟨c₁, hc₁, hversion₁, hmessages₁⟩ := h pre r mid c hbefore hr
    obtain ⟨c₂, hc₂, hversion₂, hmessages₂⟩ := w.exists_serve client call now hc₁
    refine ⟨c₂, hc₂, ?_, ?_⟩
    · rw [hversion₂, hversion₁, landed_append, List.length_append, Nat.add_assoc]
    · rw [hmessages₂, hmessages₁, landed_append, List.append_assoc]

end StoreLog

end

end Dispatch
