/-
Dispatch/Proofs/Store/Bypass.lean

A cache that is not the only way in.

Calls through the cache take their parts in any order, others call the store behind it meanwhile,
and the cache may lose entries at any time.  What the cache has may then be behind the store, and
stay so.  Three things hold all the same.

Whatever is returned was once what the store had (`Held`), for an answer is carried from the store
into the cache and from there to readers, and never changed on the way (`Snapshots`).  Since
conversations only grow, it is the beginning of what the store has ever after.

An append never asks the cache.  It is checked against the version that the store has when the
store is called, in one turn of the run (`AskedFor`).

And a refused append empties the cache of its conversation.  Calls made one at a time leave it so
until one of them is answered with the conversation (`CachedStore.Untold`), and if that is a read,
it is the store that answers.  If it is an append, the cache knows the conversation again, and keeps
abreast of the store (`CachedStore.Abreast`) for as long as nobody adds a message.  What is added
behind the cache after such an append is missed by the next read, though it follows a conflict.
-/
import Mathlib.Data.List.Induction
import Dispatch.Proofs.Store.Transparency

namespace Dispatch

/-! ### Conversations in memory only grow -/

/-- A conversation has grown to another one: messages were added, and of the rest only what says so
has changed. -/
structure Conversation.GrownTo (x y : Conversation) : Prop where
  messages : x.messages <+: y.messages
  id : x.id = y.id
  project : x.project = y.project
  createdAt : x.createdAt = y.createdAt

namespace Conversation.GrownTo

variable {x y z : Conversation}

theorem refl (x : Conversation) : x.GrownTo x := ⟨List.prefix_rfl, rfl, rfl, rfl⟩

theorem extended (h : x.GrownTo y) (messages : List Message) (now : Timestamp) :
    x.GrownTo (y.extended messages now) :=
  ⟨h.messages.trans (List.prefix_append ..), h.id, h.project, h.createdAt⟩

/-- Without a new message, a conversation has changed in the time of its last change only. -/
theorem eq_of_messages (h : x.GrownTo y) (hmessages : x.messages = y.messages)
    (hversion : x.version = y.version) : x = { y with updatedAt := x.updatedAt } := by
  obtain ⟨-, hid, hproject, hcreated⟩ := h
  cases x
  cases y
  simp_all

end Conversation.GrownTo

namespace MemoryStore

variable {s s' : MemoryStore} {now : Timestamp} {c : StoreCall} {answer : StoreAnswer}
  {id : String} {x y : Conversation}

/-- Versions count messages. -/
def Counted (s : MemoryStore) : Prop :=
  ∀ id x, s.conversations.get? id = some x → x.version = x.messages.length

theorem counted_empty : ({} : MemoryStore).Counted := fun _ _ h => nomatch h

theorem Answers.counted (h : s.Answers now c s' answer) (hs : s.Counted) : s'.Counted := by
  intro id x hx
  have he := h.effect () id
  have hid := hs id
  rw [hx] at he
  generalize s.conversations.get? id = x₀ at he hid
  generalize landingsOn id [⟨(), c, answer⟩] = as at he
  cases he with
  | unchanged => exact hid x rfl
  | started project => rfl
  | landed d messages =>
    show d.version + messages.length = (d.messages ++ messages).length
    rw [hid d rfl, List.length_append]

/-- The store has a conversation, or one that it has grown to. -/
def Continued (s : MemoryStore) (id : String) (x : Conversation) : Prop :=
  ∃ y, s.conversations.get? id = some y ∧ x.GrownTo y

theorem continued_self (hx : s.conversations.get? id = some x) : s.Continued id x :=
  ⟨x, hx, .refl x⟩

theorem Answers.continued (h : s.Answers now c s' answer) (hx : s.Continued id x) :
    s'.Continued id x := by
  obtain ⟨y, hy, hxy⟩ := hx
  have he := h.effect () id
  rw [hy] at he
  unfold Continued
  generalize s'.conversations.get? id = y' at he ⊢
  generalize landingsOn id [⟨(), c, answer⟩] = as at he
  cases he with
  | unchanged => exact ⟨y, rfl, hxy⟩
  | landed _ messages => exact ⟨_, rfl, hxy.extended messages now⟩

/-- An append that is accepted is answered with the conversation. -/
theorem Answers.exists_of_ok_append {messages : List Message} {expected : Nat}
    {x : Option Conversation} (h : s.Answers now (.append id messages expected) s' (.ok x)) :
    ∃ y, x = some y := by
  cases h with
  | landed hd heq => exact ⟨_, rfl⟩

/-- An append is accepted exactly if the conversation is there with the version expected. -/
theorem Answers.isOk_append_iff {messages : List Message} {expected : Nat}
    (h : s.Answers now (.append id messages expected) s' answer) :
    (∃ x, answer = .ok x) ↔ ∃ d, s.conversations.get? id = some d ∧ d.version = expected := by
  cases h with
  | landed hd heq => exact ⟨fun _ => ⟨_, hd, heq⟩, fun _ => ⟨_, rfl⟩⟩
  | conflict hd hne =>
    refine ⟨nofun, ?_⟩
    rintro ⟨d, hd', heq⟩
    obtain rfl := Option.some.inj (hd.symm.trans hd')
    exact absurd heq hne
  | missing hn =>
    refine ⟨nofun, ?_⟩
    rintro ⟨d, hd, -⟩
    exact absurd (hn.symm.trans hd) nofun

end MemoryStore

/-- The answer of an append is that of the store, in this part or an earlier one. -/
theorem CachedStore.Part.appended {s s' : CachedStore MemoryStore} {c : StoreCall}
    {now : Timestamp} {p p' : Progress} {answer : StoreAnswer} (h : Part s c now p s' p')
    (hread : c.isRead = false) (hp : p' = .answered answer ∨ p' = .finished answer) :
    (p = .missed ∧ s.inner.Answers now c s'.inner answer) ∨
      p = .answered answer ∨ p = .finished answer := by
  cases h with
  | hit hread' _ => exact absurd (hread.symm.trans hread') nofun
  | passed _ => rcases hp with hp | hp <;> cases hp
  | served ha =>
    rcases hp with hp | hp <;> cases hp
    exact Or.inl ⟨rfl, ha⟩
  | put _ =>
    rcases hp with hp | hp <;> cases hp
    exact Or.inr (Or.inl rfl)
  | outrun _ _ _ =>
    rcases hp with hp | hp <;> cases hp
    exact Or.inr (Or.inl rfl)
  | refused =>
    rcases hp with hp | hp <;> cases hp
    exact Or.inr (Or.inl rfl)
  | unnoted _ =>
    rcases hp with hp | hp <;> cases hp
    exact Or.inr (Or.inl rfl)
  | ended => exact Or.inr hp

/-! ### Turns -/

/-- What happens next, where the cache is not the only way in. -/
inductive OpenTurn where
  /-- A call through the cache begins, or takes its next part. -/
  | through (t : CacheTurn)
  /-- Somebody calls the store behind the cache. -/
  | behind (c : StoreCall) (now : Timestamp)
  /-- The cache loses entries. -/
  | lose (lost : String → Bool)

namespace Interleaving

open CachedStore (Part)
open CachedStore.Progress (started missed answered finished)

/-- One turn. -/
def openStep (w : Interleaving) : OpenTurn → Interleaving
  | .through t => w.step t
  | .behind c now => { w with store := (w.store.ask c now).1 }
  | .lose lost => { w with store := w.store.lose lost }

/-- Turns one after another, from an empty store on. -/
def openRun (turns : List OpenTurn) : Interleaving := turns.foldl openStep (start {})

/-- What the store behind the cache has. -/
def inner (w : Interleaving) : MemoryStore := w.store.inner

variable {w : Interleaving} {t : OpenTurn} {ts us : List OpenTurn} {id : String}
  {x : Conversation} {c : StoreCall} {i : Nat} {answer : StoreAnswer}

theorem openRun_concat (ts : List OpenTurn) (t : OpenTurn) :
    openRun (ts ++ [t]) = (openRun ts).openStep t := by
  rw [openRun, List.foldl_append]
  rfl

/-- The store behind the cache answers a call in a turn, or stays as it is. -/
theorem inner_openStep (w : Interleaving) (t : OpenTurn) :
    (w.openStep t).inner = w.inner ∨
      ∃ now c answer, w.inner.Answers now c (w.openStep t).inner answer := by
  cases t with
  | through t =>
    show (w.step t).inner = w.inner ∨ ∃ now c answer, w.inner.Answers now c (w.step t).inner answer
    generalize hw : w.step t = w'
    have hstepped : w.Stepped t w' := hw ▸ w.stepped t
    cases hstepped with
    | begun _ => exact Or.inl rfl
    | idle _ => exact Or.inl rfl
    | resumed _ hpart =>
      cases hpart with
      | served ha => exact Or.inr ⟨_, _, _, ha⟩
      | hit _ _ => exact Or.inl rfl
      | passed _ => exact Or.inl rfl
      | put _ => exact Or.inl rfl
      | outrun _ _ _ => exact Or.inl rfl
      | refused => exact Or.inl rfl
      | unnoted _ => exact Or.inl rfl
      | ended => exact Or.inl rfl
  | behind c now => exact Or.inr ⟨now, c, _, .of_eq rfl rfl⟩
  | lose lost => exact Or.inl rfl

/-- What every call keeps of the store behind the cache, turns keep. -/
theorem inner_openRun {P : MemoryStore → Prop}
    (hstep : ∀ {s now c s' answer}, MemoryStore.Answers s now c s' answer → P s → P s')
    (hle : ts <+: us) (h : P (openRun ts).inner) : P (openRun us).inner := by
  obtain ⟨rest, rfl⟩ := hle
  induction rest using List.reverseRecOn with
  | nil => rwa [List.append_nil]
  | append_singleton rest t ih =>
    rw [← List.append_assoc, openRun_concat]
    rcases (openRun (ts ++ rest)).inner_openStep t with heq | ⟨now, c, answer, ha⟩
    · rwa [heq]
    · exact hstep ha ih

theorem counted_openRun (ts : List OpenTurn) : (openRun ts).inner.Counted :=
  inner_openRun (P := MemoryStore.Counted) MemoryStore.Answers.counted List.nil_prefix
    MemoryStore.counted_empty

/-! ### What was held -/

/-- At some time of a run the store had a conversation. -/
def Held (turns : List OpenTurn) (id : String) (x : Conversation) : Prop :=
  ∃ u, u <+: turns ∧ (openRun u).inner.conversations.get? id = some x

/-- In some turn of a run the store was called for a call through the cache, and answered. -/
def AskedFor (turns : List OpenTurn) (i : Nat) (c : StoreCall) (answer : StoreAnswer) : Prop :=
  ∃ u now, u ++ [.through (.resume i now)] <+: turns ∧
    (openRun u).calls[i]? = some (c, missed) ∧
    (openRun u).inner.Answers now c (openRun (u ++ [.through (.resume i now)])).inner answer

theorem Held.mono (h : Held ts id x) (hle : ts <+: us) : Held us id x := by
  obtain ⟨u, hu, hx⟩ := h
  exact ⟨u, hu.trans hle, hx⟩

theorem AskedFor.mono (h : AskedFor ts i c answer) (hle : ts <+: us) :
    AskedFor us i c answer := by
  obtain ⟨u, now, hu, hc, ha⟩ := h
  exact ⟨u, now, hu.trans hle, hc, ha⟩

/-- Everything that was answered or that the cache has is something that the store had; and the
answers of appends are its own. -/
structure Snapshots (turns : List OpenTurn) : Prop where
  answered : ∀ {i : Nat} {c p x}, (openRun turns).calls[i]? = some (c, p) →
    p.conversation? = some x → Held turns c.id x
  cached : ∀ {id x}, (openRun turns).store.cache.get? id = some x → Held turns id x
  appended : ∀ {i : Nat} {c p a}, (openRun turns).calls[i]? = some (c, p) → c.isRead = false →
    (p = .answered a ∨ p = .finished a) → AskedFor turns i c a

theorem snapshots_nil : Snapshots [] where
  answered h := by simp [openRun, start] at h
  cached h := nomatch h
  appended h := by simp [openRun, start] at h

/-- A turn that moves no call on and puts nothing into the cache. -/
theorem Snapshots.mono (h : Snapshots ts) (hle : ts <+: us)
    (hcalls : (openRun us).calls = (openRun ts).calls)
    (hcache : ∀ {id x}, (openRun us).store.cache.get? id = some x →
      (openRun ts).store.cache.get? id = some x) : Snapshots us where
  answered hc hx := (h.answered (hcalls ▸ hc) hx).mono hle
  cached hx := (h.cached (hcache hx)).mono hle
  appended hc hread hp := (h.appended (hcalls ▸ hc) hread hp).mono hle

theorem Snapshots.begun (h : Snapshots ts) (c : StoreCall) :
    Snapshots (ts ++ [.through (.begin c)]) := by
  have hle : ts <+: ts ++ [.through (.begin c)] := List.prefix_append ..
  have hrun : openRun (ts ++ [.through (.begin c)]) = (openRun ts).step (.begin c) :=
    openRun_concat ..
  refine ⟨fun hc hx => ?_, fun hx => ?_, fun hc hread hp => ?_⟩
  · rw [hrun] at hc
    rcases calls_concat hc with ⟨-, heq⟩ | hc
    · cases heq
      cases hx
    · exact (h.answered hc hx).mono hle
  · rw [hrun] at hx
    exact (h.cached hx).mono hle
  · rw [hrun] at hc
    rcases calls_concat hc with ⟨-, heq⟩ | hc
    · cases heq
      rcases hp with hp | hp <;> cases hp
    · exact (h.appended hc hread hp).mono hle

theorem Snapshots.resumed (h : Snapshots ts) {i : Nat} {now : Timestamp} {c : StoreCall}
    {p p' : CachedStore.Progress} {s' : CachedStore MemoryStore}
    (hi : (openRun ts).calls[i]? = some (c, p)) (hpart : Part (openRun ts).store c now p s' p')
    (hrun : openRun (ts ++ [.through (.resume i now)])
      = { store := s', calls := (openRun ts).calls.set i (c, p') }) :
    Snapshots (ts ++ [.through (.resume i now)]) := by
  have hle : ts <+: ts ++ [.through (.resume i now)] := List.prefix_append ..
  refine ⟨fun hc hx => ?_, fun hx => ?_, fun hc hread hp => ?_⟩
  · rw [hrun] at hc
    rcases calls_set hc with ⟨-, heq⟩ | ⟨-, hc⟩
    · cases heq
      rcases hpart.answer_cases hx with hx | ha | hx
      · exact (h.cached hx).mono hle
      · -- the store has just answered, and has what it answered
        exact ⟨_, List.prefix_rfl, hrun ▸ ha.get?_answer⟩
      · exact (h.answered hi hx).mono hle
    · exact (h.answered hc hx).mono hle
  · rw [hrun] at hx
    rcases hpart.cached hx with hx | ⟨rfl, rfl, -⟩
    · exact (h.cached hx).mono hle
    · exact (h.answered hi rfl).mono hle
  · rw [hrun] at hc
    rcases calls_set hc with ⟨rfl, heq⟩ | ⟨-, hc⟩
    · cases heq
      rcases hpart.appended hread hp with ⟨rfl, ha⟩ | hp
      · exact ⟨ts, now, List.prefix_rfl, hi, hrun ▸ ha⟩
      · exact (h.appended hi hread hp).mono hle
    · exact (h.appended hc hread hp).mono hle

theorem Snapshots.step (h : Snapshots ts) (t : OpenTurn) : Snapshots (ts ++ [t]) := by
  have hle : ts <+: ts ++ [t] := List.prefix_append ..
  cases t with
  | behind c now =>
    have hrun := openRun_concat ts (.behind c now)
    exact h.mono hle (by rw [hrun]; rfl) fun hx => by rwa [hrun] at hx
  | lose lost =>
    have hrun := openRun_concat ts (.lose lost)
    refine h.mono hle (by rw [hrun]; rfl) fun hx => ?_
    rw [hrun] at hx
    exact CachedStore.get?_lose hx
  | through t =>
    generalize hw : (openRun ts).step t = w'
    have hstepped : (openRun ts).Stepped t w' := hw ▸ (openRun ts).stepped t
    have hrun : openRun (ts ++ [.through t]) = w' := (openRun_concat ..).trans hw
    cases hstepped with
    | begun c => exact h.begun c
    | idle _ => exact h.mono hle (by rw [hrun]) fun hx => by rwa [hrun] at hx
    | resumed hi hpart => exact h.resumed hi hpart hrun

theorem snapshots (turns : List OpenTurn) : Snapshots turns := by
  induction turns using List.reverseRecOn with
  | nil => exact snapshots_nil
  | append_singleton ts t ih => exact ih.step t

end Interleaving

/-! ### One call at a time -/

/-- What happens next, where calls through the cache are made one at a time. -/
inductive SerialTurn where
  /-- A call through the cache, all of its parts in a row. -/
  | through (c : StoreCall) (now : Timestamp)
  /-- Somebody calls the store behind the cache. -/
  | behind (c : StoreCall) (now : Timestamp)
  /-- The cache loses entries. -/
  | lose (lost : String → Bool)

namespace CachedStore

variable {s s' : CachedStore MemoryStore} {t : SerialTurn} {ts : List SerialTurn} {c : StoreCall}
  {id : String} {now : Timestamp} {x y : Conversation}

/-- One turn. -/
def serialStep (s : CachedStore MemoryStore) : SerialTurn → CachedStore MemoryStore
  | .through c now => (s.call c now).1
  | .behind c now => (s.ask c now).1
  | .lose lost => s.lose lost

/-- Turns one after another. -/
def serialRun (s : CachedStore MemoryStore) (turns : List SerialTurn) : CachedStore MemoryStore :=
  turns.foldl serialStep s

/-- In a turn a call through the cache is answered with a conversation. -/
def Tells (s : CachedStore MemoryStore) (id : String) : SerialTurn → Prop
  | .through c now => c.id = id ∧ ∃ x, (s.call c now).2 = .ok (some x)
  | .behind .. | .lose _ => False

/-- In no turn a call through the cache is answered with a conversation. -/
def Untold (s : CachedStore MemoryStore) (id : String) : List SerialTurn → Prop
  | [] => True
  | t :: ts => ¬ s.Tells id t ∧ (s.serialStep t).Untold id ts

/-- In a turn an append through the cache is accepted. -/
def Lands (s : CachedStore MemoryStore) (id : String) (t : SerialTurn) : Prop :=
  ∃ messages expected now x, t = .through (.append id messages expected) now ∧
    (s.call (.append id messages expected) now).2 = .ok x

/-- The messages that the store behind the cache has of a conversation. -/
def messages? (s : CachedStore MemoryStore) (id : String) : Option (List Message) :=
  (s.inner.conversations.get? id).map Conversation.messages

/-- In no turn a message is added to a conversation. -/
def Unwritten (s : CachedStore MemoryStore) (id : String) : List SerialTurn → Prop
  | [] => True
  | t :: ts => (s.serialStep t).messages? id = s.messages? id ∧ (s.serialStep t).Unwritten id ts

/-- Nothing that the cache could have of a conversation is out of date: no call through the cache
has been answered with it, or an append through the cache was accepted and no message was added
after that. -/
def Unmissed (s : CachedStore MemoryStore) (id : String) (turns : List SerialTurn) : Prop :=
  s.Untold id turns ∨ ∃ before t after, turns = before ++ t :: after ∧
    (s.serialRun before).Lands id t ∧ ((s.serialRun before).serialStep t).Unwritten id after

/-- The cache has or has had nothing that the store did not have. -/
structure Trails (s : CachedStore MemoryStore) : Prop where
  counted : s.inner.Counted
  cached : ∀ {id x}, s.cache.get? id = some x →
    x.version = x.messages.length ∧ s.inner.Continued id x

/-- What the cache has of a conversation is what the store has, but for the time of its last
change. -/
def Abreast (s : CachedStore MemoryStore) (id : String) : Prop :=
  ∀ x, s.cache.get? id = some x → ∃ y, s.inner.conversations.get? id = some y ∧
    x = { y with updatedAt := x.updatedAt }

/-- The cache has the answer of a read, or the store is called. -/
theorem call_cases (s : CachedStore MemoryStore) (c : StoreCall) (now : Timestamp) :
    (∃ known, s.lookup c = some known ∧ s.call c now = (s, .ok (some known))) ∨
      s.call c now = ((s.ask c now).1.note c (s.ask c now).2, (s.ask c now).2) := by
  unfold call
  cases s.lookup c with
  | some known => exact Or.inl ⟨known, rfl, rfl⟩
  | none => exact Or.inr rfl

/-- An append calls the store. -/
theorem call_append (s : CachedStore MemoryStore) (id : String) (messages : List Message)
    (expected : Nat) (now : Timestamp) :
    let c : StoreCall := .append id messages expected
    s.call c now = ((s.ask c now).1.note c (s.ask c now).2, (s.ask c now).2) := rfl

/-- The store behind the cache answers a call in a turn, or stays as it is. -/
theorem inner_serialStep (s : CachedStore MemoryStore) (t : SerialTurn) :
    (s.serialStep t).inner = s.inner ∨
      ∃ now c answer, s.inner.Answers now c (s.serialStep t).inner answer := by
  cases t with
  | through c now =>
    show (s.call c now).1.inner = s.inner ∨ _
    rcases s.call_cases c now with ⟨known, -, heq⟩ | heq
    · exact Or.inl (by rw [heq])
    · refine Or.inr ⟨now, c, (s.ask c now).2, ?_⟩
      have hinner : (s.call c now).1.inner = (s.inner.call c now).1 := by
        rw [heq, inner_note]
        rfl
      exact .of_eq hinner.symm rfl
  | behind c now => exact Or.inr ⟨now, c, _, .of_eq rfl rfl⟩
  | lose lost => exact Or.inl rfl

/-- What every call keeps of the store behind the cache, turns keep. -/
theorem inner_serialRun {P : MemoryStore → Prop}
    (hstep : ∀ {s now c s' answer}, MemoryStore.Answers s now c s' answer → P s → P s')
    (ts : List SerialTurn) (h : P s.inner) : P (s.serialRun ts).inner := by
  induction ts generalizing s with
  | nil => exact h
  | cons t ts ih =>
    refine ih ?_
    rcases s.inner_serialStep t with heq | ⟨now, c, answer, ha⟩
    · rwa [heq]
    · exact hstep ha h

/-! ### After a refused append -/

/-- A refused append leaves the cache without its conversation, and the store as it was. -/
theorem uncached_of_conflict {messages : List Message} {expected e a : Nat}
    (h : (s.call (.append id messages expected) now).2 = .error (.versionConflict e a)) :
    (s.call (.append id messages expected) now).1.cache.get? id = none ∧
      ∃ d, (s.call (.append id messages expected) now).1.inner.conversations.get? id = some d := by
  rw [call_append] at h ⊢
  simp only at h ⊢
  have ha : s.inner.Answers now (.append id messages expected)
      (s.ask (.append id messages expected) now).1.inner _ := .of_eq rfl h
  rw [h, inner_note]
  refine ⟨?_, ?_⟩
  · show (CachedStore.forget _ id).cache.get? id = none
    rw [forget, Table.get?_erase, if_pos rfl]
  · generalize (s.ask (.append id messages expected) now).1.inner = m at ha
    cases ha with
    | conflict hd _ => exact ⟨_, hd⟩

/-- What the cache has after a turn, it had before, or it is what a call was answered and the store
has. -/
theorem cached_serialStep (hx : (s.serialStep t).cache.get? id = some x) :
    s.cache.get? id = some x ∨
      s.Tells id t ∧ (s.serialStep t).inner.conversations.get? id = some x := by
  cases t with
  | through c now =>
    rcases s.call_cases c now with ⟨known, -, heq⟩ | heq
    · rw [serialStep, heq] at hx
      exact Or.inl hx
    · have hstep : s.serialStep (.through c now) = (s.ask c now).1.note c (s.ask c now).2 := by
        rw [serialStep, heq]
      rw [hstep] at hx ⊢
      have hpart : Part (s.ask c now).1 c now (.answered (s.ask c now).2) _ _ := .of_note
      rcases hpart.cached hx with hx | ⟨rfl, hanswer, -⟩
      · exact Or.inl hx
      · have hask : (s.ask c now).2 = .ok (some x) := Progress.answered.inj hanswer
        have ha : s.inner.Answers now c (s.ask c now).1.inner (.ok (some x)) := .of_eq rfl hask
        rw [inner_note]
        exact Or.inr ⟨⟨rfl, x, by rw [heq, hask]⟩, ha.get?_answer⟩
  | behind c now => exact Or.inl hx
  | lose lost => exact Or.inl (get?_lose hx)

/-- What the cache does not have it gets by being told it. -/
theorem uncached_serialStep (hnone : s.cache.get? id = none) (ht : ¬ s.Tells id t) :
    (s.serialStep t).cache.get? id = none := by
  refine Option.eq_none_iff_forall_ne_some.mpr fun x hx => ?_
  rcases cached_serialStep hx with hx | ⟨htells, -⟩
  · exact absurd (hnone.symm.trans hx) nofun
  · exact ht htells

theorem uncached_serialRun (hnone : s.cache.get? id = none) (hts : s.Untold id ts) :
    (s.serialRun ts).cache.get? id = none := by
  induction ts generalizing s with
  | nil => exact hnone
  | cons t ts ih => exact ih (uncached_serialStep hnone hts.1) hts.2

/-- What the cache does not have, a read gets from the store. -/
theorem call_of_uncached (hread : c.isRead = true) (hnone : s.cache.get? c.id = none)
    (hx : s.inner.conversations.get? c.id = some x) (now : Timestamp) :
    (s.call c now).2 = .ok (some x) ∧ (s.call c now).1.inner = s.inner := by
  have hask : s.ask c now = (s, .ok (some x)) := by
    show ({ s with inner := (s.inner.call c now).1 }, (s.inner.call c now).2) = _
    rw [MemoryStore.call_of_isRead hread hx]
  rcases s.call_cases c now with ⟨known, hknown, -⟩ | heq
  · rw [lookup_of_isRead hread, hnone] at hknown
    cases hknown
  · rw [heq, hask, inner_note]
    exact ⟨rfl, rfl⟩

/-! ### After an accepted append -/

theorem Trails.serialStep (h : s.Trails) (t : SerialTurn) : (s.serialStep t).Trails where
  counted := inner_serialRun MemoryStore.Answers.counted [t] h.counted
  cached {id x} hx := by
    rcases cached_serialStep hx with hx | ⟨-, hx⟩
    · obtain ⟨hversion, hcontinued⟩ := h.cached hx
      exact ⟨hversion, inner_serialRun (P := fun m => m.Continued id x)
        MemoryStore.Answers.continued [t] hcontinued⟩
    · have hcounted : (s.serialStep t).inner.Counted :=
        inner_serialRun MemoryStore.Answers.counted [t] h.counted
      exact ⟨hcounted id x hx, MemoryStore.continued_self hx⟩

theorem Trails.serialRun (h : s.Trails) (ts : List SerialTurn) : (s.serialRun ts).Trails := by
  induction ts generalizing s with
  | nil => exact h
  | cons t ts ih => exact ih (h.serialStep t)

/-- What an accepted append is answered, the store has, and the cache has nothing older. -/
theorem exists_of_lands (ht : s.Lands id t) :
    ∃ y, (s.serialStep t).inner.conversations.get? id = some y ∧
      ∀ x, (s.serialStep t).cache.get? id = some x → y.version ≤ x.version := by
  obtain ⟨messages, expected, now, answer, rfl, hanswer⟩ := ht
  let c : StoreCall := .append id messages expected
  have ha : s.inner.Answers now c (s.ask c now).1.inner (.ok answer) := .of_eq rfl hanswer
  obtain ⟨y, rfl⟩ : ∃ y, answer = some y := ha.exists_of_ok_append
  have hstep : s.serialStep (.through c now) = (s.ask c now).1.note c (.ok (some y)) :=
    congrArg (fun a => (s.ask c now).1.note c a) hanswer
  have hpart : Part (s.ask c now).1 c now (.answered (.ok (some y))) _ _ := .of_note
  rw [hstep, inner_note]
  exact ⟨y, ha.get?_answer, fun x hx => hpart.le_cached nofun hx⟩

/-- An accepted append leaves the cache abreast of the store. -/
theorem Trails.abreast_of_lands (h : s.Trails) (ht : s.Lands id t) :
    (s.serialStep t).Abreast id := by
  have htrails : (s.serialStep t).Trails := h.serialStep t
  obtain ⟨y, hy, hnew⟩ := exists_of_lands ht
  intro x hx
  obtain ⟨hversion, y', hy', hgrown⟩ := htrails.cached hx
  obtain rfl := Option.some.inj (hy.symm.trans hy')
  have hcounted : y.version = y.messages.length := htrails.counted id y hy
  have hle : y.messages.length ≤ x.messages.length := hcounted ▸ hversion ▸ hnew x hx
  have hmessages : x.messages = y.messages :=
    hgrown.messages.eq_of_length (Nat.le_antisymm hgrown.messages.length_le hle)
  exact ⟨y, hy, hgrown.eq_of_messages hmessages (by rw [hversion, hmessages, hcounted])⟩

/-- As long as no message is added, the cache stays abreast of the store. -/
theorem Abreast.serialStep (h : s.Abreast id)
    (hkept : (s.serialStep t).messages? id = s.messages? id) : (s.serialStep t).Abreast id := by
  intro x hx
  rcases cached_serialStep hx with hx | ⟨-, hx⟩
  · obtain ⟨y, hy, hxy⟩ := h x hx
    rcases s.inner_serialStep t with heq | ⟨now, c, answer, ha⟩
    · exact ⟨y, heq ▸ hy, hxy⟩
    · have he := ha.effect () id
      unfold messages? at hkept
      rw [hy] at he hkept
      generalize (s.serialStep t).inner.conversations.get? id = y' at he hkept ⊢
      generalize landingsOn id [⟨(), c, answer⟩] = as at he
      cases he with
      | unchanged => exact ⟨y, rfl, hxy⟩
      | landed _ messages =>
        -- an append without messages changes the time only
        obtain rfl : messages = [] := List.append_right_eq_self.mp (Option.some.inj hkept)
        refine ⟨_, rfl, ?_⟩
        rw [hxy, Conversation.extended, List.append_nil, List.length_nil, Nat.add_zero]
  · exact ⟨x, hx, rfl⟩

theorem Abreast.serialRun (h : s.Abreast id) (hts : s.Unwritten id ts) :
    (s.serialRun ts).Abreast id := by
  induction ts generalizing s with
  | nil => exact h
  | cons t ts ih => exact ih (h.serialStep hts.1) hts.2

/-- A cache from which nothing was missed is abreast of the store. -/
theorem Trails.abreast_of_unmissed (h : s.Trails) (hnone : s.cache.get? id = none)
    (hts : s.Unmissed id ts) : (s.serialRun ts).Abreast id := by
  rcases hts with huntold | ⟨before, t, after, rfl, hlands, hunwritten⟩
  · intro x hx
    exact absurd ((uncached_serialRun hnone huntold).symm.trans hx) nofun
  · rw [CachedStore.serialRun, List.foldl_append]
    exact ((h.serialRun before).abreast_of_lands hlands).serialRun hunwritten

/-- A cache that is abreast of the store answers a read as the store would. -/
theorem call_of_abreast (hread : c.isRead = true) (h : s.Abreast c.id)
    (hy : s.inner.conversations.get? c.id = some y) (now : Timestamp) :
    ∃ x, (s.call c now).2 = .ok (some x) ∧ x = { y with updatedAt := x.updatedAt } ∧
      (s.call c now).1.inner = s.inner := by
  cases hknown : s.cache.get? c.id with
  | none =>
    obtain ⟨hanswer, hinner⟩ := call_of_uncached hread hknown hy now
    exact ⟨y, hanswer, rfl, hinner⟩
  | some x =>
    obtain ⟨y', hy', hxy⟩ := h x hknown
    obtain rfl := Option.some.inj (hy.symm.trans hy')
    rw [call_of_cached hknown hread]
    exact ⟨x, rfl, hxy, rfl⟩

/-- Messages are only added: if there are as many after turns as before, there were none added in
between. -/
theorem unwritten_iff (hx : s.inner.conversations.get? id = some x)
    (hy : (s.serialRun ts).inner.conversations.get? id = some y) :
    s.Unwritten id ts ↔ y.messages = x.messages := by
  induction ts generalizing s x with
  | nil =>
    obtain rfl := Option.some.inj (hx.symm.trans hy)
    exact ⟨fun _ => rfl, fun _ => trivial⟩
  | cons t ts ih =>
    obtain ⟨z, hz, hxz⟩ : (s.serialStep t).inner.Continued id x :=
      inner_serialRun (P := fun m => m.Continued id x) MemoryStore.Answers.continued [t]
        (MemoryStore.continued_self hx)
    obtain ⟨y', hy', hzy⟩ : (s.serialRun (t :: ts)).inner.Continued id z :=
      inner_serialRun (P := fun m => m.Continued id z) (s := s.serialStep t)
        MemoryStore.Answers.continued ts (MemoryStore.continued_self hz)
    obtain rfl := Option.some.inj (hy.symm.trans hy')
    rw [Unwritten, ih hz hy, messages?, messages?, hx, hz]
    simp only [Option.map_some, Option.some.injEq]
    constructor
    · rintro ⟨hzx, hyz⟩
      exact hyz.trans hzx
    · intro hyx
      -- `x` is a prefix of `z` and `z` of `y`, and there is no room between `x` and `y`
      have hzx : z.messages = x.messages :=
        hxz.messages.eq_of_length (Nat.le_antisymm hxz.messages.length_le
          (hyx ▸ hzy.messages.length_le)) |>.symm
      exact ⟨hzx, hyx.trans hzx.symm⟩

/-- Whether an append is accepted says whether messages were added since its version was read. -/
theorem isOk_append_iff_unwritten (hs : s.inner.Counted)
    (hy : s.inner.conversations.get? id = some y) (ts : List SerialTurn) (batch : List Message)
    (now : Timestamp) :
    (∃ x, ((s.serialRun ts).call (.append id batch y.version) now).2 = .ok x) ↔
      s.Unwritten id ts := by
  obtain ⟨z, hz, hyz⟩ : (s.serialRun ts).inner.Continued id y :=
    inner_serialRun (P := fun m => m.Continued id y) MemoryStore.Answers.continued ts
      (MemoryStore.continued_self hy)
  have hz' : z.version = z.messages.length :=
    inner_serialRun (P := MemoryStore.Counted) MemoryStore.Answers.counted ts hs id z hz
  have ha : (s.serialRun ts).inner.Answers now (.append id batch y.version) _
    ((s.serialRun ts).call (.append id batch y.version) now).2 := .of_eq rfl rfl
  rw [ha.isOk_append_iff, unwritten_iff hy hz, hs id y hy]
  constructor
  · rintro ⟨d, hd, heq⟩
    obtain rfl := Option.some.inj (hz.symm.trans hd)
    exact (hyz.messages.eq_of_length (hz' ▸ heq).symm).symm
  · intro heq
    exact ⟨z, hz, by rw [hz', heq]⟩

end CachedStore

namespace Interleaving

open CachedStore.Progress (missed finished)

/-- What the cache has the store has had, so it has grown to what the store has now. -/
theorem Snapshots.trails {turns : List OpenTurn} (h : Snapshots turns) :
    (openRun turns).store.Trails where
  counted := counted_openRun turns
  cached {id x} hx := by
    obtain ⟨u, hu, hx⟩ := h.cached hx
    exact ⟨counted_openRun u id x hx,
      inner_openRun (P := fun m => m.Continued id x) MemoryStore.Answers.continued hu
        (MemoryStore.continued_self hx)⟩

/-- **A stale cache is safe.**  Calls through a cache take their parts in any order, others call the
store behind it, and the cache loses entries.

Every conversation that was returned is one that the store has had: its version counts its messages,
and whatever the store has of it later begins with these.  An append was accepted exactly if, in the
turn in which the store was called for it, the store had the conversation with the version
expected.

Let an append then be refused for its version, and let calls be made one at a time from there on.
A read is answered what the store has at that time, unless an append through the cache was accepted
in between and messages were added after the last such append.  If none was accepted in between, the
answer is the same in all; otherwise the time of the last change may be an earlier one.  An append
to the version that was read is accepted exactly if no message was added to the conversation in
between. -/
theorem stale_cache_safe (turns : List OpenTurn) :
    let w := openRun turns
    (∀ (i : Nat) (c : StoreCall) (x : Conversation),
      w.calls[i]? = some (c, finished (.ok (some x))) →
      x.version = x.messages.length ∧
      ∃ u, u <+: turns ∧ (openRun u).inner.conversations.get? c.id = some x ∧
        ∀ v, u <+: v → ∃ y, (openRun v).inner.conversations.get? c.id = some y ∧
          x.messages <+: y.messages) ∧
    (∀ (i : Nat) (id : String) (messages : List Message) (expected : Nat) (answer : StoreAnswer),
      w.calls[i]? = some (.append id messages expected, finished answer) →
      ∃ u now, u ++ [.through (.resume i now)] <+: turns ∧
        (openRun u).calls[i]? = some (.append id messages expected, missed) ∧
        ((∃ x, answer = .ok x) ↔
          ∃ d, (openRun u).inner.conversations.get? id = some d ∧ d.version = expected)) ∧
    (∀ (id : String) (messages : List Message) (expected e a : Nat) (now : Timestamp),
      let refusal := w.store.call (.append id messages expected) now
      refusal.2 = .error (.versionConflict e a) →
      ∀ between, refusal.1.Unmissed id between →
      let s := refusal.1.serialRun between
      ∀ c : StoreCall, c.isRead = true → c.id = id → ∀ now, ∃ x y,
        s.inner.conversations.get? id = some y ∧ (s.call c now).2 = .ok (some x) ∧
        x = { y with updatedAt := x.updatedAt } ∧ (refusal.1.Untold id between → x = y) ∧
        ∀ (afterwards : List SerialTurn) (batch : List Message) (now' : Timestamp),
          (∃ z, (((s.call c now).1.serialRun afterwards).call
            (.append id batch x.version) now').2 = .ok z) ↔
          (s.call c now).1.Unwritten id afterwards) := by
  intro w
  have hw : Snapshots turns := snapshots turns
  refine ⟨fun i c x hc => ?_, fun i id messages expected answer hc => ?_, ?_⟩
  · -- the store had it in some turn, and what it has is only added to
    obtain ⟨u, hu, hx⟩ := hw.answered hc rfl
    refine ⟨counted_openRun u _ x hx, u, hu, hx, fun v hv => ?_⟩
    obtain ⟨y, hy, hgrown⟩ : (openRun v).inner.Continued c.id x :=
      inner_openRun (P := fun m => m.Continued c.id x) MemoryStore.Answers.continued hv
        (MemoryStore.continued_self hx)
    exact ⟨y, hy, hgrown.messages⟩
  · obtain ⟨u, now, hu, hc, ha⟩ := hw.appended hc rfl (Or.inr rfl)
    exact ⟨u, now, hu, hc, ha.isOk_append_iff⟩
  · rintro id messages expected e a now refusal hrefusal between hbetween s c hread rfl now'
    obtain ⟨hnone, d, hd⟩ := CachedStore.uncached_of_conflict hrefusal
    have hrefused : refusal.1.Trails := hw.trails.serialStep (.through (.append c.id _ _) now)
    have hs : s.Trails := hrefused.serialRun between
    obtain ⟨y, hy, -⟩ : s.inner.Continued c.id d :=
      CachedStore.inner_serialRun (P := fun m => m.Continued c.id d)
        MemoryStore.Answers.continued between (MemoryStore.continued_self hd)
    obtain ⟨x, hanswer, hxy, hinner⟩ :=
      CachedStore.call_of_abreast hread (hrefused.abreast_of_unmissed hnone hbetween) hy now'
    refine ⟨x, y, hy, hanswer, hxy, fun huntold => ?_, fun afterwards batch now'' => ?_⟩
    · -- the cache has been told nothing since the refusal, so the read goes to the store
      have hstore := CachedStore.call_of_uncached hread
        (CachedStore.uncached_serialRun hnone huntold) hy now'
      rw [hstore.1] at hanswer
      exact (Option.some.inj (Except.ok.inj hanswer)).symm
    · have hversion : x.version = y.version := by rw [hxy]
      have hcounted : (s.call c now').1.inner.Counted := hinner ▸ hs.counted
      rw [← hinner] at hy
      rw [hversion]
      exact CachedStore.isOk_append_iff_unwritten hcounted hy afterwards batch now''

namespace Example

def now : Timestamp := .epoch

def message : Message := { role := .user, content := "m", timestamp := now }

/-- Somebody has appended behind a cache that has the conversation. -/
def bypassed : CachedStore MemoryStore :=
  let part : OpenTurn := .through (.resume 0 now)
  (openRun [.through (.begin (.getOrCreate "c1" none)), part, part, part,
    .behind (.append "c1" [message] 0) now]).store

end Example

open Example in
/-- Readers do not see what was appended behind the cache.  An append through the cache is refused,
and after that they do, also after a second append that is accepted. -/
theorem foreign_write_seen_after_conflict :
    let refusal := bypassed.call (.append "c1" [message] 0) now
    let second : SerialTurn := .through (.append "c1" [message] 1) now
    (bypassed.call (.load "c1") now).2 = .ok (some (.start "c1" none now)) ∧
    refusal.2 = .error (.versionConflict 0 1) ∧
    (∃ y, refusal.1.inner.conversations.get? "c1" = some y ∧
      (refusal.1.call (.load "c1") now).2 = .ok (some y)) ∧
    refusal.1.Lands "c1" second ∧
    ∃ x y, (refusal.1.serialStep second).inner.conversations.get? "c1" = some y ∧
      ((refusal.1.serialStep second).call (.load "c1") now).2 = .ok (some x) ∧
      x = { y with updatedAt := x.updatedAt } := by
  intro refusal second
  have hrefusal : refusal.2 = .error (.versionConflict 0 1) := by decide
  have hlands : refusal.1.Lands "c1" second := ⟨[message], 1, now, _, rfl, rfl⟩
  have hsafe := (stale_cache_safe _).2.2 "c1" [message] 0 0 1 now hrefusal
  refine ⟨by decide, hrefusal, ?_, hlands, ?_⟩
  · obtain ⟨x, y, hy, hanswer, -, hsame, -⟩ := hsafe [] (.inl trivial) (.load "c1") rfl rfl now
    exact ⟨y, hy, hsame trivial ▸ hanswer⟩
  · obtain ⟨x, y, hy, hanswer, hxy, -⟩ :=
      hsafe [second] (.inr ⟨[], second, [], rfl, hlands, trivial⟩) (.load "c1") rfl rfl now
    exact ⟨x, y, hy, hanswer, hxy⟩

open Example in
/-- The second append makes readers miss what is then appended behind the cache, although it follows
the refusal: they are answered a version that the store no longer has, and an append to that version
is refused though nobody has written since.  And what they are answered after an append without
messages is older than it. -/
theorem stale_after_conflict :
    let refusal := bypassed.call (.append "c1" [message] 0) now
    let second : SerialTurn := .through (.append "c1" [message] 1) now
    let s := refusal.1.serialRun [second, .behind (.append "c1" [message] 2) now]
    let later : Timestamp := ⟨1, 0⟩
    let s' := refusal.1.serialRun [second, .through (.append "c1" [] 2) later]
    refusal.2 = .error (.versionConflict 0 1) ∧ refusal.1.Lands "c1" second ∧
    (∃ x y, (s.call (.load "c1") now).2 = .ok (some x) ∧
      s.inner.conversations.get? "c1" = some y ∧ x.version = 2 ∧ y.version = 3 ∧
      ((s.call (.load "c1") now).1.call (.append "c1" [message] x.version) now).2
        = .error (.versionConflict 2 3)) ∧
    ∃ x y, (s'.call (.load "c1") now).2 = .ok (some x) ∧
      s'.inner.conversations.get? "c1" = some y ∧ x.updatedAt = now ∧ y.updatedAt = later := by
  intro refusal second s later s'
  exact ⟨by decide, ⟨[message], 1, now, _, rfl, rfl⟩, ⟨_, _, rfl, rfl, rfl, rfl, by decide⟩,
    _, _, rfl, rfl, rfl, rfl⟩

end Interleaving

end Dispatch
