/-
Dispatch/Proofs/Store/Interleaving.lean

Calls on one cached store, taken part by part.

Anybody may begin a call at any time, and between two parts of it parts of other calls may run.
`Interleaving` has the store and the calls that have begun, in the order in which they began; a turn
begins a call, or takes the next part of one.

`CachedStore.Part` lists what a part can do, and `Interleaving.Stepped` what a turn can do; what is
said about interleavings further on is read off the two.  One fact holds at all times: the store
behind the cache has every conversation at least as new as anybody has been answered it, and as the
cache has it (`Sound`).  So whatever is old came from the cache.
-/
import Mathlib.Control.Monad.Basic
import Dispatch.Store.Cached
import Dispatch.Proofs.Store.Log

namespace Dispatch

/-- Whether a call only asks for a conversation. -/
def StoreCall.isRead : StoreCall → Bool
  | .getOrCreate .. | .load _ => true
  | .append .. => false

/-! ### Versions in memory -/

namespace MemoryStore

variable {s s' : MemoryStore} {now : Timestamp} {c : StoreCall} {answer : StoreAnswer}
  {x : Conversation} {id : String} {v : Nat}

/-- The store has a conversation with a version or a newer one. -/
def Reaches (s : MemoryStore) (id : String) (v : Nat) : Prop :=
  ∃ x, s.conversations.get? id = some x ∧ v ≤ x.version

/-- No call takes a version back. -/
theorem Answers.reaches (h : s.Answers now c s' answer) (hv : s.Reaches id v) :
    s'.Reaches id v := by
  obtain ⟨x, hx, hle⟩ := hv
  have he := h.effect () id
  rw [hx] at he
  unfold Reaches
  generalize s'.conversations.get? id = x' at he ⊢
  generalize landingsOn id [⟨(), c, answer⟩] = as at he
  cases he with
  | unchanged => exact ⟨x, rfl, hle⟩
  | landed _ messages => exact ⟨_, rfl, Nat.le_trans hle (Nat.le_add_right ..)⟩

/-- What a call is answered is what the store has after it. -/
theorem Answers.reaches_answer (h : s.Answers now c s' (.ok (some x))) :
    s'.Reaches c.id x.version :=
  ⟨x, h.get?_answer, Nat.le_refl _⟩

/-- A read is answered what the store has. -/
theorem Answers.le_version (h : s.Answers now c s' (.ok (some x))) (hread : c.isRead = true)
    (hv : s.Reaches c.id v) : v ≤ x.version := by
  obtain ⟨y, hy, hle⟩ := hv
  cases h with
  | started hn => exact absurd (hn.symm.trans hy) nofun
  | opened hc =>
    obtain rfl := Option.some.inj (hc.symm.trans hy)
    exact hle
  | landed _ _ => cases hread
  | loaded hc =>
    obtain rfl := Option.some.inj (hc.symm.trans hy)
    exact hle

end MemoryStore

/-! ### Parts of a call -/

-- answers and stores can be compared, so that short runs are decided by running them
deriving instance DecidableEq for CachedStore.Progress
deriving instance DecidableEq for CachedStore

namespace CachedStore

/-- The conversation that a call has been answered. -/
def Progress.conversation? : Progress → Option Conversation
  | .answered (.ok x) | .finished (.ok x) => x
  | _ => none

variable {s s' : CachedStore MemoryStore} {c : StoreCall} {now : Timestamp} {p p' : Progress}
  {x : Conversation} {id : String} {v : Nat}

/-- A call puts the conversation that it was answered into the cache: a read does so always, an
append unless the cache has it as new. -/
def Puts (s : CachedStore MemoryStore) (c : StoreCall) (x : Conversation) : Prop :=
  c.isRead = true ∨ ∀ known, s.cache.get? c.id = some known → known.version < x.version

/-- What a part of a call can do: the store after it, and how far the call has come. -/
inductive Part (s : CachedStore MemoryStore) (c : StoreCall) (now : Timestamp) :
    Progress → CachedStore MemoryStore → Progress → Prop
  /-- The cache has the answer of a read. -/
  | hit {known : Conversation} (hread : c.isRead = true)
      (h : s.cache.get? c.id = some known) : Part s c now .started s (.finished (.ok (some known)))
  | passed (h : c.isRead = true → s.cache.get? c.id = none) : Part s c now .started s .missed
  /-- The store behind the cache answers. -/
  | served {inner : MemoryStore} {answer : StoreAnswer} (h : s.inner.Answers now c inner answer) :
      Part s c now .missed { s with inner } (.answered answer)
  | put {x : Conversation} (h : s.Puts c x) :
      Part s c now (.answered (.ok (some x))) (s.remember c.id x) (.finished (.ok (some x)))
  /-- An append finds that the cache has its conversation as new. -/
  | outrun {x known : Conversation} (hread : c.isRead = false)
      (h : s.cache.get? c.id = some known) (hle : x.version ≤ known.version) :
      Part s c now (.answered (.ok (some x))) s (.finished (.ok (some x)))
  /-- An append was refused. -/
  | refused {e : StoreError} :
      Part s c now (.answered (.error e)) (s.forget c.id) (.finished (.error e))
  | unnoted {answer : StoreAnswer} (h : ∀ x, answer ≠ .ok (some x)) :
      Part s c now (.answered answer) s (.finished answer)
  | ended {answer : StoreAnswer} : Part s c now (.finished answer) s (.finished answer)

theorem lookup_of_isRead (h : c.isRead = true) : s.lookup c = s.cache.get? c.id := by
  cases c with
  | append id messages expected => cases h
  | getOrCreate id project => rfl
  | load id => rfl

/-- A read of what the cache has. -/
theorem call_of_cached (h : s.cache.get? c.id = some x) (hread : c.isRead = true)
    (now : Timestamp) : s.call c now = (s, .ok (some x)) := by
  unfold call
  rw [lookup_of_isRead hread, h]

theorem Part.of_note {answer : StoreAnswer} :
    Part s c now (.answered answer) (s.note c answer) (.finished answer) := by
  rcases answer with e | - | x
  · cases c with
    | append id messages expected => exact .refused
    | getOrCreate id project => exact .unnoted nofun
    | load id => exact .unnoted nofun
  · cases c <;> exact .unnoted nofun
  · cases c with
    | append id messages expected =>
      show Part s _ now _ (s.rememberNewer id x) _
      unfold rememberNewer
      split
      · next known hknown =>
        split
        · next hle => exact .outrun rfl hknown hle
        · next hlt =>
          refine .put (Or.inr fun other hother => ?_)
          obtain rfl := Option.some.inj (hknown.symm.trans hother)
          exact Nat.lt_of_not_le hlt
      · next hnone => exact .put (Or.inr fun other hother => absurd (hnone.symm.trans hother) nofun)
    | getOrCreate id project => exact .put (Or.inl rfl)
    | load id => exact .put (Or.inl rfl)

theorem Part.of_eq (h : s.advance c now p = (s', p')) : Part s c now p s' p' := by
  cases p with
  | started =>
    simp only [advance] at h
    split at h
    · next known hknown =>
      cases h
      cases c with
      | append id messages expected => cases hknown
      | getOrCreate id project => exact .hit rfl hknown
      | load id => exact .hit rfl hknown
    · next hnone =>
      cases h
      exact .passed fun hread => (lookup_of_isRead hread).symm.trans hnone
  | missed =>
    cases h
    exact .served (.of_eq rfl rfl)
  | answered answer =>
    cases h
    exact .of_note
  | finished answer =>
    cases h
    exact .ended

namespace Part

theorem of_advance (s : CachedStore MemoryStore) (c : StoreCall) (now : Timestamp)
    (p : Progress) : Part s c now p (s.advance c now p).1 (s.advance c now p).2 := of_eq rfl

/-- No part takes a version back behind the cache. -/
theorem reaches (h : Part s c now p s' p') (hv : s.inner.Reaches id v) :
    s'.inner.Reaches id v := by
  cases h with
  | served ha => exact ha.reaches hv
  | hit _ _ => exact hv
  | passed _ => exact hv
  | put _ => exact hv
  | outrun _ _ _ => exact hv
  | refused => exact hv
  | unnoted _ => exact hv
  | ended => exact hv

/-- Where the answer of a call comes from: the cache, the store behind it, or an earlier part. -/
theorem answer_cases (h : Part s c now p s' p') (hx : p'.conversation? = some x) :
    s.cache.get? c.id = some x ∨ s.inner.Answers now c s'.inner (.ok (some x)) ∨
      p.conversation? = some x := by
  cases h with
  | hit _ h =>
    obtain rfl := Option.some.inj hx
    exact Or.inl h
  | passed _ => cases hx
  | @served inner answer ha =>
    rcases answer with e | y
    · cases hx
    · obtain rfl : y = some x := hx
      exact Or.inr (Or.inl ha)
  | put _ => exact Or.inr (Or.inr hx)
  | outrun _ _ _ => exact Or.inr (Or.inr hx)
  | refused => cases hx
  | @unnoted answer hno =>
    rcases answer with e | y
    · cases hx
    · obtain rfl : y = some x := hx
      exact absurd rfl (hno x)
  | ended => exact Or.inr (Or.inr hx)

/-- What is in the cache was there, or is put there now. -/
theorem cached (h : Part s c now p s' p') (hx : s'.cache.get? id = some x) :
    s.cache.get? id = some x ∨ id = c.id ∧ p = .answered (.ok (some x)) ∧ s.Puts c x := by
  cases h with
  | put hputs =>
    by_cases hid : id = c.id
    · subst hid
      obtain rfl := Option.some.inj ((Table.get?_insert_self ..).symm.trans hx)
      exact Or.inr ⟨rfl, rfl, hputs⟩
    · exact Or.inl ((Table.get?_insert_ne _ hid _).symm.trans hx)
  | refused =>
    rw [forget, Table.get?_erase] at hx
    split at hx
    · cases hx
    · exact Or.inl hx
  | hit _ _ => exact Or.inl hx
  | passed _ => exact Or.inl hx
  | served _ => exact Or.inl hx
  | outrun _ _ _ => exact Or.inl hx
  | unnoted _ => exact Or.inl hx
  | ended => exact Or.inl hx

/-- What is put is in the cache. -/
theorem cached_of_puts (h : Part s c now (.answered (.ok (some x))) s' p') (hputs : s.Puts c x) :
    s'.cache.get? c.id = some x := by
  cases h with
  | put _ => exact Table.get?_insert_self ..
  | outrun hread hknown hle =>
    rcases hputs with hread' | hnewer
    · exact absurd (hread.symm.trans hread') nofun
    · exact absurd (hnewer _ hknown) (Nat.not_lt.mpr hle)
  | unnoted hno => exact absurd rfl (hno x)

/-- When a call ends, the cache has nothing older than its answer. -/
theorem le_cached {known : Conversation} (h : Part s c now p s' (.finished (.ok (some x))))
    (hp : ∀ answer, p ≠ .finished answer) (hknown : s'.cache.get? c.id = some known) :
    x.version ≤ known.version := by
  cases h with
  | hit _ hx =>
    obtain rfl := Option.some.inj (hx.symm.trans hknown)
    exact Nat.le_refl _
  | put _ =>
    obtain rfl := Option.some.inj ((Table.get?_insert_self ..).symm.trans hknown)
    exact Nat.le_refl _
  | outrun _ hx hle =>
    obtain rfl := Option.some.inj (hx.symm.trans hknown)
    exact hle
  | unnoted hno => exact absurd rfl (hno x)
  | ended => exact absurd rfl (hp _)

end Part

end CachedStore

/-! ### Turns -/

/-- What happens next. -/
inductive CacheTurn where
  /-- Somebody begins a call. -/
  | begin (c : StoreCall)
  /-- The call with a number takes its next part. -/
  | resume (i : Nat) (now : Timestamp)
  deriving DecidableEq, Repr

/-- A cached store, and the calls on it. -/
structure Interleaving where
  store : CachedStore MemoryStore
  /-- The calls in the order in which they began, and how far they have come. -/
  calls : List (StoreCall × CachedStore.Progress) := []

namespace Interleaving

open CachedStore (Part)
open CachedStore.Progress (started missed answered finished)

/-- A store of which the cache knows nothing yet. -/
def start (inner : MemoryStore) : Interleaving where
  store := { inner }

/-- One turn. -/
def step (w : Interleaving) : CacheTurn → Interleaving
  | .begin c => { w with calls := w.calls ++ [(c, started)] }
  | .resume i now =>
    match w.calls[i]? with
    | none => w
    | some (c, p) =>
      let r := w.store.advance c now p
      { store := r.1, calls := w.calls.set i (c, r.2) }

/-- Turns one after another. -/
def run (w : Interleaving) (turns : List CacheTurn) : Interleaving := turns.foldl step w

/-- A call on a conversation has returned it with a version. -/
def Told (w : Interleaving) (id : String) (v : Nat) : Prop :=
  ∃ (i : Nat) (c : StoreCall) (x : Conversation),
    w.calls[i]? = some (c, finished (.ok (some x))) ∧ c.id = id ∧ x.version = v

/-- What a turn can do. -/
inductive Stepped (w : Interleaving) : CacheTurn → Interleaving → Prop
  | begun (c : StoreCall) : Stepped w (.begin c) { w with calls := w.calls ++ [(c, started)] }
  /-- There is no such call. -/
  | idle {i : Nat} {now : Timestamp} (h : w.calls[i]? = none) : Stepped w (.resume i now) w
  | resumed {i : Nat} {now : Timestamp} {c : StoreCall} {p p' : CachedStore.Progress}
      {s' : CachedStore MemoryStore} (h : w.calls[i]? = some (c, p))
      (hpart : Part w.store c now p s' p') :
      Stepped w (.resume i now) { store := s', calls := w.calls.set i (c, p') }

variable {w w' : Interleaving} {t : CacheTurn} {ts : List CacheTurn} {id : String} {v : Nat}

@[simp] theorem run_nil (w : Interleaving) : w.run [] = w := rfl

@[simp] theorem run_cons (w : Interleaving) (t : CacheTurn) (ts : List CacheTurn) :
    w.run (t :: ts) = (w.step t).run ts := rfl

@[simp] theorem run_append (w : Interleaving) (ts us : List CacheTurn) :
    w.run (ts ++ us) = (w.run ts).run us := List.foldl_append

theorem stepped (w : Interleaving) (t : CacheTurn) : w.Stepped t (w.step t) := by
  cases t with
  | begin c => exact .begun c
  | resume i now =>
    unfold step
    simp only
    split
    · next h => exact .idle h
    · next c p h => exact .resumed h (.of_eq rfl)

/-- How far calls have come after one of them has taken a part. -/
theorem calls_set {α : Type} {l : List α} {i j : Nat} {a b : α} (h : (l.set i a)[j]? = some b) :
    (j = i ∧ a = b) ∨ (j ≠ i ∧ l[j]? = some b) := by
  by_cases hj : i = j
  · subst hj
    obtain ⟨hlt, hab⟩ := List.getElem?_eq_some_iff.mp h
    exact Or.inl ⟨rfl, (List.getElem_set_self _).symm.trans hab⟩
  · rw [List.getElem?_set_ne hj] at h
    exact Or.inr ⟨Ne.symm hj, h⟩

/-- How far calls have come after one of them has begun. -/
theorem calls_concat {α : Type} {l : List α} {j : Nat} {a b : α} (h : (l ++ [a])[j]? = some b) :
    (j = l.length ∧ a = b) ∨ l[j]? = some b := by
  rcases Nat.lt_trichotomy j l.length with hj | rfl | hj
  · rw [List.getElem?_append_left hj] at h
    exact Or.inr h
  · rw [List.getElem?_concat_length] at h
    exact Or.inl ⟨rfl, Option.some.inj h⟩
  · rw [List.getElem?_eq_none (by simp; omega)] at h
    cases h

/-- What was returned stays returned. -/
theorem Told.step (h : w.Told id v) (t : CacheTurn) : (w.step t).Told id v := by
  obtain ⟨j, c, x, hj, hid, hx⟩ := h
  refine ⟨j, c, x, ?_, hid, hx⟩
  generalize hw : w.step t = w'
  have hstepped := hw ▸ w.stepped t
  cases hstepped with
  | begun _ =>
    obtain ⟨hlt, -⟩ := List.getElem?_eq_some_iff.mp hj
    exact (List.getElem?_append_left hlt).trans hj
  | idle _ => exact hj
  | @resumed i now c' p p' s' hi hpart =>
    by_cases hij : i = j
    · subst hij
      obtain ⟨rfl, rfl⟩ := Prod.mk.inj (Option.some.inj (hi.symm.trans hj))
      cases hpart
      rw [List.getElem?_set_self']
      exact Option.map_eq_some_iff.mpr ⟨_, hj, rfl⟩
    · exact (List.getElem?_set_ne hij).trans hj

/-! ### What the store behind the cache has -/

/-- The store behind the cache has everything that was answered or that the cache has. -/
structure Sound (w : Interleaving) : Prop where
  answered : ∀ {i : Nat} {c p x}, w.calls[i]? = some (c, p) → p.conversation? = some x →
    w.store.inner.Reaches c.id x.version
  cached : ∀ {id x}, w.store.cache.get? id = some x → w.store.inner.Reaches id x.version

theorem sound_start (inner : MemoryStore) : (start inner).Sound where
  answered h := by simp [start] at h
  cached h := nomatch h

theorem Sound.told (h : w.Sound) (ht : w.Told id v) : w.store.inner.Reaches id v := by
  obtain ⟨i, c, x, hi, rfl, rfl⟩ := ht
  exact h.answered hi rfl

theorem Sound.step (h : w.Sound) (t : CacheTurn) : (w.step t).Sound := by
  generalize hw : w.step t = w'
  have hstepped := hw ▸ w.stepped t
  cases hstepped with
  | begun c =>
    refine ⟨fun hj hx => ?_, h.cached⟩
    rcases calls_concat hj with ⟨-, heq⟩ | hj
    · cases heq
      cases hx
    · exact h.answered hj hx
  | idle _ => exact h
  | @resumed i now c p p' s' hi hpart =>
    refine ⟨fun hj hx => ?_, fun {id x} hx => ?_⟩
    · rcases calls_set hj with ⟨-, heq⟩ | ⟨-, hj⟩
      · cases heq
        rcases hpart.answer_cases hx with hx | ha | hx
        · exact hpart.reaches (h.cached hx)
        · exact ha.reaches_answer
        · exact hpart.reaches (h.answered hi hx)
      · exact hpart.reaches (h.answered hj hx)
    · rcases hpart.cached hx with hx | ⟨rfl, rfl, -⟩
      · exact hpart.reaches (h.cached hx)
      · exact hpart.reaches (h.answered hi rfl)

theorem Sound.run (h : w.Sound) (ts : List CacheTurn) : (w.run ts).Sound := by
  induction ts generalizing w with
  | nil => exact h
  | cons t ts ih => exact ih (h.step t)

end Interleaving

end Dispatch
