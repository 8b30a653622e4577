/-
Dispatch/Proofs/Store/Transparency.lean

A cache that is the only way in.

Calls are made one after another through a cache, and nobody writes behind its back.  The cache may
lose entries at any time, all of them or some, also between the parts of a call.  Whoever calls
cannot tell: every call is answered as the store behind the cache would answer it alone
(`answers_through_cache`).

What carries the proof is that the cache has nothing but what the store has (`Knows`).  Losing
entries keeps that.  Between the call on the store and the note of its answer the entry of the one
conversation may be behind; the note puts that right.  It replaces the entry with the answer, or
drops it, or leaves it, because the answer is no newer; and an append whose answer is no newer has
appended nothing.

The times of the entry may still be behind then, so answers agree up to these.
-/
import Dispatch.Proofs.Store.Undated

namespace Dispatch

/-- A call through a cache, and what the cache loses before each of its parts. -/
structure CachedCall where
  call : StoreCall
  /-- The time at which the store behind the cache is called. -/
  now : Timestamp
  /-- The time at which the store without a cache is called. -/
  bareNow : Timestamp
  /-- What is lost before the cache is asked. -/
  lostFirst : String → Bool := fun _ => false
  /-- What is lost before the store is called. -/
  lostThen : String → Bool := fun _ => false
  /-- What is lost before the answer is noted. -/
  lostLast : String → Bool := fun _ => false

/-- The same call without a cache. -/
def CachedCall.bare (t : CachedCall) : StoreCall × Timestamp := (t.call, t.bareNow)

namespace CachedStore

/-! ### Losing entries -/

section

variable {σ : Type}

/-- The cache loses entries. -/
def lose (s : CachedStore σ) (lost : String → Bool) : CachedStore σ :=
  { s with cache := s.cache.filter fun id _ => !lost id }

theorem forget_eq_lose (s : CachedStore σ) (id : String) :
    s.forget id = s.lose fun other => other == id := rfl

theorem forgetAll_eq_lose (s : CachedStore σ) : s.forgetAll = s.lose fun _ => true := by
  have hentries : s.cache.entries.filter (fun _ => false) = [] := by simp
  simp only [forgetAll, lose, Table.filter, Table.empty, Bool.not_true, hentries]

theorem get?_lose {s : CachedStore σ} {lost : String → Bool} {id : String} {x : Conversation}
    (h : (s.lose lost).cache.get? id = some x) : s.cache.get? id = some x := by
  rw [lose, Table.get?_filter] at h
  exact (Option.filter_eq_some_iff.mp h).1

end

variable {s : CachedStore MemoryStore} {m : MemoryStore} {c : StoreCall} {id : String}
  {x : Conversation} {now : Timestamp}

/-! ### What the cache has -/

/-- Everything in the cache is what a store has, apart from times. -/
def Knows (s : CachedStore MemoryStore) (m : MemoryStore) : Prop :=
  ∀ id x, s.cache.get? id = some x →
    ∃ y, m.conversations.get? id = some y ∧ x.undated = y.undated

theorem Knows.lose (h : s.Knows m) (lost : String → Bool) : (s.lose lost).Knows m :=
  fun id x hx => h id x (get?_lose hx)

/-- A conversation that the store has may be put into the cache, if the cache is right about the
others. -/
theorem knows_remember (hx : m.conversations.get? id = some x)
    (h : ∀ other y, other ≠ id → s.cache.get? other = some y →
      ∃ z, m.conversations.get? other = some z ∧ y.undated = z.undated) :
    (s.remember id x).Knows m := by
  intro other y hy
  by_cases hother : other = id
  · subst hother
    obtain rfl := Option.some.inj ((Table.get?_insert_self ..).symm.trans hy)
    exact ⟨x, hx, rfl⟩
  · exact h other y hother ((Table.get?_insert_ne _ hother _).symm.trans hy)

/-- **The note of an answer puts the cache right.**  What the cache knew before the store was
called, it knows after the answer has been noted. -/
theorem Knows.note {answer : StoreAnswer} (h : s.Knows m)
    (ha : m.Answers now c s.inner answer) : (s.note c answer).Knows s.inner := by
  generalize s.inner = inner at ha ⊢
  cases ha with
  | @started id project hn =>
    refine knows_remember (Table.get?_insert_self ..) fun other y hne hy => ?_
    obtain ⟨z, hz, hyz⟩ := h other y hy
    exact ⟨z, (Table.get?_insert_ne _ hne _).trans hz, hyz⟩
  | opened hc => exact knows_remember hc fun other y _ hy => h other y hy
  | @landed id messages expected d hd heq =>
    have hothers : ∀ other y, other ≠ id → s.cache.get? other = some y →
        ∃ z, (m.conversations.insert id (d.extended messages now)).get? other = some z ∧
          y.undated = z.undated := by
      intro other y hne hy
      rw [Table.get?_insert_ne _ hne]
      exact h other y hy
    show (s.rememberNewer id (d.extended messages now)).Knows _
    unfold rememberNewer
    split
    · next known hknown =>
      split
      · next hle =>
        -- the entry is as new as the answer, so nothing was appended
        obtain ⟨d', hd', hundated⟩ := h id known hknown
        obtain rfl := Option.some.inj (hd.symm.trans hd')
        have hversion : known.version = d.version := Conversation.version_eq_of_undated hundated
        have hempty : messages = [] := by
          have hlength : d.version + messages.length ≤ known.version := hle
          exact List.length_eq_zero_iff.mp (by omega)
        subst hempty
        intro other y hy
        by_cases hother : other = id
        · subst hother
          obtain rfl := Option.some.inj (hknown.symm.trans hy)
          exact ⟨_, Table.get?_insert_self .., hundated.trans (d.undated_extended_nil now).symm⟩
        · exact hothers other y hother hy
      · exact knows_remember (Table.get?_insert_self ..) hothers
    · exact knows_remember (Table.get?_insert_self ..) hothers
  | @conflict id _ _ _ _ _ =>
    show (s.forget id).Knows m
    rw [forget_eq_lose]
    exact h.lose _
  | @missing id _ _ _ =>
    show (s.forget id).Knows m
    rw [forget_eq_lose]
    exact h.lose _
  | @loaded id x hx =>
    cases x with
    | none => exact h
    | some x => exact knows_remember hx fun other y _ hy => h other y hy

/-! ### One call -/

/-- The answer of a call that has ended. -/
def Progress.answer? : Progress → Option StoreAnswer
  | .finished answer => some answer
  | .started | .missed | .answered _ => none

@[simp] theorem inner_note (s : CachedStore MemoryStore) (c : StoreCall) (answer : StoreAnswer) :
    (s.note c answer).inner = s.inner := by
  have hpart : Part s c .epoch (.answered answer) (s.note c answer) (.finished answer) := .of_note
  generalize s.note c answer = s' at hpart
  cases hpart <;> rfl

/-- Serves a call part by part, while the cache loses entries. -/
def serve (s : CachedStore MemoryStore) (t : CachedCall) : CachedStore MemoryStore × Progress :=
  let p := (s.lose t.lostFirst).advance t.call t.now .started
  let q := (p.1.lose t.lostThen).advance t.call t.now p.2
  (q.1.lose t.lostLast).advance t.call t.now q.2

/-- A call while nothing is lost is answered in one go. -/
theorem serve_eq_call (s : CachedStore MemoryStore) (c : StoreCall) (now bareNow : Timestamp) :
    s.serve { call := c, now, bareNow } = ((s.call c now).1, .finished (s.call c now).2) := by
  have hlose : ∀ s : CachedStore MemoryStore, (s.lose fun _ => false) = s := by
    intro s
    have hentries : s.cache.entries.filter (fun _ => true) = s.cache.entries := by simp
    simp only [lose, Table.filter, Bool.not_false, hentries]
  simp only [serve, hlose]
  exact s.call_eq_advance c now

/-- **A call through the cache is answered as without it**, and the cache knows only what the store
has, before and after. -/
theorem serve_spec (hknows : s.Knows s.inner) (halike : s.inner.Alike m) (t : CachedCall) :
    (s.serve t).1.Knows (s.serve t).1.inner ∧
      (s.serve t).1.inner.Alike (m.call t.call t.bareNow).1 ∧
      ∃ answer, (s.serve t).2 = .finished answer ∧
        StoreAnswer.undated answer = StoreAnswer.undated (m.call t.call t.bareNow).2 := by
  unfold serve
  cases hlookup : (s.lose t.lostFirst).lookup t.call with
  | some x =>
    -- the cache has the answer of a read, and nothing else is done
    have hread : t.call.isRead = true := by
      cases hcall : t.call with
      | append id messages expected =>
        rw [hcall] at hlookup
        cases hlookup
      | getOrCreate id project => rfl
      | load id => rfl
    rw [lookup_of_isRead hread] at hlookup
    obtain ⟨y, hy, hxy⟩ := hknows _ _ (get?_lose hlookup)
    rcases halike.cases t.call.id with ⟨hnone, -⟩ | ⟨y', z, hy', hz, hyz⟩
    · exact absurd (hnone.symm.trans hy) nofun
    · obtain rfl := Option.some.inj (hy.symm.trans hy')
      simp only [advance, lookup_of_isRead hread, hlookup]
      rw [MemoryStore.call_of_isRead hread hz]
      exact ⟨((hknows.lose _).lose _).lose _, halike, _, rfl,
        StoreAnswer.undated_ok (hxy.trans hyz)⟩
  | none =>
    simp only [advance, hlookup]
    obtain ⟨hinner, hanswer⟩ := halike.call t.call t.now t.bareNow
    -- what the cache knew of the store before the call, the note makes it know of the store after
    have hasked : (((s.lose t.lostFirst).lose t.lostThen).ask t.call t.now).1.Knows s.inner :=
      (hknows.lose t.lostFirst).lose t.lostThen
    have hnoted := (hasked.lose t.lostLast).note
      (.of_eq rfl rfl : s.inner.Answers t.now t.call _ _)
    rw [inner_note]
    exact ⟨hnoted, hinner, _, rfl, hanswer⟩

/-! ### Many calls -/

/-- What calls through a cache are answered, each when it has ended. -/
def answers (s : CachedStore MemoryStore) : List CachedCall → List (Option StoreAnswer)
  | [] => []
  | t :: ts => (s.serve t).2.answer? :: (s.serve t).1.answers ts

/-- **A cache that is the only way in is not noticed.**  Let calls be made one after another through
a cache that knows nothing yet, and let the cache lose entries whenever it may, between calls and
between their parts.  Every call ends, and is answered as the store behind the cache would answer
it without a cache, apart from the times that are up to the clocks. -/
theorem answers_through_cache (inner : MemoryStore) (turns : List CachedCall) :
    (({ inner } : CachedStore MemoryStore).answers turns).map (Option.map StoreAnswer.undated)
      = (inner.answers (turns.map CachedCall.bare)).map fun answer => some answer.undated := by
  have hrun : ∀ (s : CachedStore MemoryStore) (m : MemoryStore), s.Knows s.inner →
      s.inner.Alike m → (s.answers turns).map (Option.map StoreAnswer.undated)
        = (m.answers (turns.map CachedCall.bare)).map fun answer => some answer.undated := by
    induction turns with
    | nil => exact fun _ _ _ _ => rfl
    | cons t ts ih =>
      intro s m hknows halike
      obtain ⟨hknows', halike', answer, hanswer, hundated⟩ := serve_spec hknows halike t
      rw [answers, List.map_cons, hanswer, ih _ _ hknows' halike', List.map_cons,
        CachedCall.bare, MemoryStore.answers, List.map_cons, ← hundated]
      rfl
  exact hrun _ inner (fun _ _ h => nomatch h) (.refl inner)

end CachedStore

end Dispatch
