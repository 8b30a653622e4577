/-
Dispatch/Proofs/Store/Freshness.lean

When a cache takes readers back.

Whoever begins to read a conversation after somebody was returned it should not get an older
version.  The store behind the cache never gives one (`Answers.le_version`), but the cache can: a
read that has missed, and then is slow, puts what it was answered over what others have put
meanwhile.  An append looks first whether the cache has its conversation as new; but where a refused
append has emptied the cache, there is nothing to compare with (`UpToDate.of_belated`).

Such a turn is *belated*: it puts into the cache a version older than one that was returned.  While
no turn is, the cache is as new as all that was returned (`UpToDate`), and so is every read that
begins (`NewFrom`).  Right after a belated turn, a read gets the old version.  So a run and a read
after any of its turns only go forward exactly if no turn is belated (`forward_iff_unbelated`).
-/
import Mathlib.Data.List.Induction
import Dispatch.Proofs.Store.Interleaving

namespace Dispatch

namespace Interleaving

open CachedStore (Part)
open CachedStore.Progress (started missed answered finished)

variable {w : Interleaving} {t : CacheTurn} {ts : List CacheTurn} {id : String} {v n : Nat}

/-! ### Going forward -/

/-- A run goes forward: no read that begins after a conversation was returned with a version
returns it with an older one. -/
def Forward (w : Interleaving) (turns : List CacheTurn) : Prop :=
  ∀ before rest, turns = before ++ rest → ∀ id v, (w.run before).Told id v →
    ∀ (i : Nat) (c : StoreCall) (x : Conversation), (w.run before).calls.length ≤ i →
      (w.run turns).calls[i]? = some (c, finished (.ok (some x))) →
      c.isRead = true → c.id = id → v ≤ x.version

/-- A turn is belated if it puts a conversation into the cache that is older than one that was
returned. -/
def Belated (w : Interleaving) : CacheTurn → Prop
  | .begin _ => False
  | .resume i _ => ∃ (c : StoreCall) (x : Conversation) (v : Nat),
      w.calls[i]? = some (c, answered (.ok (some x))) ∧ w.store.Puts c x ∧
      w.Told c.id v ∧ x.version < v

/-- No turn of a run is belated. -/
def Unbelated (w : Interleaving) : List CacheTurn → Prop
  | [] => True
  | t :: ts => ¬ w.Belated t ∧ (w.step t).Unbelated ts

theorem unbelated_singleton : w.Unbelated [t] ↔ ¬ w.Belated t := by simp [Unbelated]

theorem unbelated_append {us : List CacheTurn} :
    w.Unbelated (ts ++ us) ↔ w.Unbelated ts ∧ (w.run ts).Unbelated us := by
  induction ts generalizing w with
  | nil => simp [Unbelated]
  | cons t ts ih => simp only [List.cons_append, Unbelated, ih, run_cons, and_assoc]

/-! ### Without belated turns -/

/-- The cache has nothing older than what was returned. -/
def UpToDate (w : Interleaving) : Prop :=
  ∀ {id x v}, w.store.cache.get? id = some x → w.Told id v → v ≤ x.version

/-- Whoever has begun from a number on to read a conversation is answered a version or a newer
one. -/
def NewFrom (n : Nat) (id : String) (v : Nat) (w : Interleaving) : Prop :=
  ∀ {i : Nat} {c p x}, n ≤ i → w.calls[i]? = some (c, p) → c.isRead = true → c.id = id →
    p.conversation? = some x → v ≤ x.version

/-- A call that has not ended has returned nothing. -/
theorem told_of_concat {s' : CachedStore MemoryStore} {c : StoreCall} {p : CachedStore.Progress}
    (h : Told { store := s', calls := w.calls ++ [(c, p)] } id v)
    (hp : ∀ answer, p ≠ finished answer) : w.Told id v := by
  obtain ⟨j, d, x, hj, hid, hx⟩ := h
  rcases calls_concat hj with ⟨-, heq⟩ | hj
  · exact absurd (congrArg Prod.snd heq) (hp _)
  · exact ⟨j, d, x, hj, hid, hx⟩

/-- What was returned after a turn was returned before, or the turn has ended a call. -/
theorem told_of_step (h : (w.step t).Told id v) : w.Told id v ∨
    ∃ (now : Timestamp) (c : StoreCall) (p : CachedStore.Progress) (x : Conversation),
      Part w.store c now p (w.step t).store (finished (.ok (some x))) ∧
      (∀ answer, p ≠ finished answer) ∧ c.id = id ∧ x.version = v := by
  generalize hw : w.step t = w' at h ⊢
  have hstepped : w.Stepped t w' := hw ▸ w.stepped t
  cases hstepped with
  | begun c => exact Or.inl (told_of_concat h nofun)
  | idle _ => exact Or.inl h
  | @resumed i now c p p' s' hi hpart =>
    obtain ⟨j, d, x, hj, hid, hx⟩ := h
    rcases calls_set hj with ⟨-, heq⟩ | ⟨-, hj⟩
    · cases heq
      by_cases hp : ∃ answer, p = finished answer
      · -- it had ended before
        obtain ⟨answer, rfl⟩ := hp
        cases hpart
        exact Or.inl ⟨i, c, x, hi, hid, hx⟩
      · exact Or.inr ⟨now, c, p, x, hpart, fun answer heq => hp ⟨answer, heq⟩, hid, hx⟩
    · exact Or.inl ⟨j, d, x, hj, hid, hx⟩

/-- What is in the cache after a turn was there before, or the turn has put it there. -/
theorem cached_of_step {x : Conversation} (h : (w.step t).store.cache.get? id = some x) :
    w.store.cache.get? id = some x ∨
      ∃ (i : Nat) (now : Timestamp) (c : StoreCall), t = .resume i now ∧ c.id = id ∧
        w.calls[i]? = some (c, answered (.ok (some x))) ∧ w.store.Puts c x := by
  generalize hw : w.step t = w' at h
  have hstepped : w.Stepped t w' := hw ▸ w.stepped t
  cases hstepped with
  | begun _ => exact Or.inl h
  | idle _ => exact Or.inl h
  | @resumed i now c p p' s' hi hpart =>
    rcases hpart.cached h with h | ⟨rfl, rfl, hputs⟩
    · exact Or.inl h
    · exact Or.inr ⟨i, now, c, rfl, rfl, hi, hputs⟩

/-- A turn that is not belated keeps the cache up to date. -/
theorem UpToDate.step (h : w.UpToDate) (hb : ¬ w.Belated t) : (w.step t).UpToDate := by
  intro id x v hx htold
  rcases told_of_step htold with hold | ⟨now, c, p, y, hpart, hp, rfl, rfl⟩
  · rcases cached_of_step hx with hx | ⟨i, now, c, rfl, rfl, hi, hputs⟩
    · exact h hx hold
    · -- what is put is not older than what was returned, for the turn is not belated
      by_contra hlt
      exact hb ⟨c, x, v, hi, hputs, hold, Nat.lt_of_not_le hlt⟩
  · exact hpart.le_cached hp hx

/-- Up to then, a belated turn ends a read, or an append that finds nothing in the cache. -/
theorem UpToDate.of_belated (h : w.UpToDate) {i : Nat} {now : Timestamp}
    (hb : w.Belated (.resume i now)) :
    ∃ c p, w.calls[i]? = some (c, p) ∧ (c.isRead = true ∨ w.store.cache.get? c.id = none) := by
  obtain ⟨c, x, v, hi, hputs, htold, hlt⟩ := hb
  refine ⟨c, _, hi, ?_⟩
  rcases hputs with hread | hnewer
  · exact Or.inl hread
  · -- what the cache had would be older than what was returned
    refine Or.inr (Option.eq_none_iff_forall_ne_some.mpr fun known hknown => ?_)
    have hle : v ≤ known.version := h hknown htold
    have hgt : known.version < x.version := hnewer known hknown
    omega

theorem UpToDate.run (h : w.UpToDate) (hts : w.Unbelated ts) : (w.run ts).UpToDate := by
  induction ts generalizing w with
  | nil => exact h
  | cons t ts ih => exact ih (h.step hts.1) hts.2

/-- Once a version was returned, reads that begin are answered none that is older. -/
theorem NewFrom.step (h : NewFrom n id v w) (hsound : w.Sound) (hcache : w.UpToDate)
    (htold : w.Told id v) (t : CacheTurn) : NewFrom n id v (w.step t) := by
  intro j c p' x hn hj hread hid hx
  generalize hw : w.step t = w' at hj
  have hstepped : w.Stepped t w' := hw ▸ w.stepped t
  cases hstepped with
  | begun c' =>
    rcases calls_concat hj with ⟨-, heq⟩ | hj
    · cases heq
      cases hx
    · exact h hn hj hread hid hx
  | idle _ => exact h hn hj hread hid hx
  | @resumed i now c' p _ s' hi hpart =>
    rcases calls_set hj with ⟨rfl, heq⟩ | ⟨-, hj⟩
    · cases heq
      subst hid
      rcases hpart.answer_cases hx with hknown | ha | hx
      · exact hcache hknown htold
      · exact ha.le_version hread (hsound.told htold)
      · exact h hn hi hread rfl hx
    · exact h hn hj hread hid hx

theorem NewFrom.run (h : NewFrom n id v w) (hsound : w.Sound) (hcache : w.UpToDate)
    (htold : w.Told id v) (hts : w.Unbelated ts) : NewFrom n id v (w.run ts) := by
  induction ts generalizing w with
  | nil => exact h
  | cons t ts ih =>
    exact ih (h.step hsound hcache htold t) (hsound.step t) (hcache.step hts.1) (htold.step t) hts.2

/-- **Without belated turns, a run goes forward.** -/
theorem forward_of_unbelated {inner : MemoryStore} (hts : (start inner).Unbelated ts) :
    (start inner).Forward ts := by
  rintro before rest rfl id v htold i c x hi hcall hread hid
  obtain ⟨hbefore, hrest⟩ := unbelated_append.mp hts
  have hempty : (start inner).UpToDate := fun h => nomatch h
  have hcache : ((start inner).run before).UpToDate := hempty.run hbefore
  have hsound : ((start inner).run before).Sound := (sound_start inner).run before
  -- no read had begun from there on
  have hnone : NewFrom ((start inner).run before).calls.length id v ((start inner).run before) := by
    intro j d p y hj hcall
    obtain ⟨hlt, -⟩ := List.getElem?_eq_some_iff.mp hcall
    exact absurd hlt (Nat.not_lt.mpr hj)
  rw [run_append] at hcall
  exact hnone.run hsound hcache htold hrest hi hcall hread hid rfl

/-! ### A call in one go -/

/-- The turns of somebody who calls and is not interrupted. -/
def inOneGo (w : Interleaving) (c : StoreCall) (now : Timestamp) : List CacheTurn :=
  let next : CacheTurn := .resume w.calls.length now
  [.begin c, next, next, next]

/-- The call that began last takes a part. -/
theorem step_last (s : CachedStore MemoryStore) (l : List (StoreCall × CachedStore.Progress))
    (c : StoreCall) (p : CachedStore.Progress) (now : Timestamp) :
    step { store := s, calls := l ++ [(c, p)] } (.resume l.length now)
      = { store := (s.advance c now p).1, calls := l ++ [(c, (s.advance c now p).2)] } := by
  unfold step
  simp only [List.getElem?_concat_length]
  rw [List.set_append_right _ _ (Nat.le_refl _), Nat.sub_self, List.set_cons_zero]

/-- In one go, a call does what it does to the store, and ends. -/
theorem run_inOneGo (w : Interleaving) (c : StoreCall) (now : Timestamp) :
    w.run (w.inOneGo c now)
      = { store := (w.store.call c now).1
          calls := w.calls ++ [(c, finished (w.store.call c now).2)] } := by
  have hcall := w.store.call_eq_advance c now
  show step (step (step { w with calls := w.calls ++ [(c, started)] }
    (.resume w.calls.length now)) (.resume w.calls.length now)) (.resume w.calls.length now) = _
  rw [step_last, step_last, step_last]
  simp only at hcall
  rw [hcall]

/-- The call that began last is belated by what others were returned. -/
theorem answered_of_belated_last {s : CachedStore MemoryStore} {c : StoreCall}
    {p : CachedStore.Progress} {now : Timestamp}
    (h : Belated { store := s, calls := w.calls ++ [(c, p)] } (.resume w.calls.length now)) :
    ∃ x v, p = answered (.ok (some x)) ∧ w.Told c.id v ∧ x.version < v := by
  obtain ⟨d, x, v, hcall, -, htold, hlt⟩ := h
  rw [List.getElem?_concat_length] at hcall
  obtain ⟨rfl, rfl⟩ := Prod.mk.inj (Option.some.inj hcall)
  exact ⟨x, v, rfl, told_of_concat htold nofun, hlt⟩

/-- A read in one go is never belated: what it puts is what the store behind the cache has. -/
theorem unbelated_inOneGo (hsound : w.Sound) {c : StoreCall} (hread : c.isRead = true)
    (now : Timestamp) : w.Unbelated (w.inOneGo c now) := by
  have hpart₁ : Part w.store c now started _ _ := .of_advance ..
  -- one turn after another: begins, looks into the cache, asks the store, puts the answer
  refine ⟨not_false, fun hb => ?_, fun hb => ?_, fun hb => ?_, trivial⟩
  · obtain ⟨x, v, hp, -⟩ := answered_of_belated_last hb
    cases hp
  · change Belated (step { w with calls := w.calls ++ [(c, started)] } _) _ at hb
    rw [step_last] at hb
    obtain ⟨x, v, hp, -⟩ := answered_of_belated_last hb
    generalize w.store.advance c now started = r₁ at hpart₁ hp
    obtain ⟨s₁, p₁⟩ := r₁
    obtain rfl : p₁ = answered (.ok (some x)) := hp
    cases hpart₁
  · change Belated (step (step { w with calls := w.calls ++ [(c, started)] } _) _) _ at hb
    rw [step_last, step_last] at hb
    obtain ⟨x, v, hp, htold, hlt⟩ := answered_of_belated_last hb
    generalize w.store.advance c now started = r₁ at hpart₁ hp
    have hpart₂ : Part r₁.1 c now r₁.2 _ _ := .of_advance ..
    rw [hp] at hpart₂
    obtain ⟨s₁, p₁⟩ := r₁
    cases hpart₁ with
    | hit _ _ => cases hpart₂
    | passed _ =>
      generalize (w.store.advance c now missed).1 = s₂ at hpart₂
      cases hpart₂ with
      | served ha =>
        -- nobody has run since the store answered, so nobody was returned anything newer
        have hle : v ≤ x.version := ha.le_version hread (hsound.told htold)
        exact absurd hle (Nat.not_le.mpr hlt)

/-! ### Exactly then -/

/-- A turn that puts a conversation into the cache. -/
theorem cached_step_of_puts {i : Nat} {c : StoreCall} {x : Conversation}
    (hi : w.calls[i]? = some (c, answered (.ok (some x)))) (hputs : w.store.Puts c x)
    (now : Timestamp) : (w.step (.resume i now)).store.cache.get? c.id = some x := by
  generalize hw : w.step (.resume i now) = w'
  have hstepped : w.Stepped (.resume i now) w' := hw ▸ w.stepped _
  cases hstepped with
  | idle h => exact absurd (h.symm.trans hi) nofun
  | resumed h hpart =>
    obtain ⟨rfl, rfl⟩ := Prod.mk.inj (Option.some.inj (h.symm.trans hi))
    exact hpart.cached_of_puts hputs

/-- Right after a belated turn, a read gets a version older than one that was returned. -/
theorem not_belated_of_forward {inner : MemoryStore} {t : CacheTurn}
    (h : ∀ c, c.isRead = true → ∀ now, (start inner).Forward
      ((ts ++ [t]) ++ ((start inner).run (ts ++ [t])).inOneGo c now)) :
    ¬ ((start inner).run ts).Belated t := by
  cases t with
  | begin c => exact not_false
  | resume i now =>
    rintro ⟨c, x, v, hi, hputs, htold, hlt⟩
    -- the turn leaves the old version in the cache, where a load finds it
    let w' := (start inner).run (ts ++ [.resume i now])
    have hw : w' = ((start inner).run ts).step (.resume i now) := run_append ..
    have htold' : w'.Told c.id v := hw ▸ htold.step _
    have hcached : w'.store.cache.get? c.id = some x := hw ▸ cached_step_of_puts hi hputs now
    have hread := CachedStore.call_of_cached hcached (c := .load c.id) rfl now
    have hcall : ((start inner).run
        (ts ++ [.resume i now] ++ w'.inOneGo (.load c.id) now)).calls[w'.calls.length]?
          = some (.load c.id, finished (.ok (some x))) := by
      rw [run_append, run_inOneGo, hread]
      exact List.getElem?_concat_length
    have hle : v ≤ x.version :=
      h (.load c.id) rfl now _ _ rfl c.id v htold' _ _ x (Nat.le_refl _) hcall rfl rfl
    exact absurd hle (Nat.not_le.mpr hlt)

/-- **When a cache takes nobody back.**  Let calls on a cached store take their parts in any order,
and let somebody read in one go after any turn of the run, or after none.  In all these runs, no
read that begins after a conversation was returned with a version returns it with an older one,
exactly if no turn of the run puts a conversation into the cache that is older than one that was
returned. -/
theorem forward_iff_unbelated (inner : MemoryStore) (turns : List CacheTurn) :
    (∀ u, u <+: turns → ∀ c, c.isRead = true → ∀ now,
      (start inner).Forward (u ++ ((start inner).run u).inOneGo c now)) ↔
      (start inner).Unbelated turns := by
  refine ⟨fun h => ?_, fun h u hu c hread now => ?_⟩
  · induction turns using List.reverseRecOn with
    | nil => trivial
    | append_singleton ts t ih =>
      have hts : (start inner).Unbelated ts := ih fun u hu => h u (hu.trans (List.prefix_append ..))
      have ht : ¬ ((start inner).run ts).Belated t :=
        not_belated_of_forward (h (ts ++ [t]) List.prefix_rfl)
      exact unbelated_append.mpr ⟨hts, unbelated_singleton.mpr ht⟩
  · obtain ⟨rest, rfl⟩ := hu
    have hu : (start inner).Unbelated u := (unbelated_append.mp h).1
    have hcall : ((start inner).run u).Unbelated (((start inner).run u).inOneGo c now) :=
      unbelated_inOneGo ((sound_start inner).run u) hread now
    exact forward_of_unbelated (unbelated_append.mpr ⟨hu, hcall⟩)

/-- A slow read takes the next one back.  It starts a conversation, and before it puts that into the
cache, somebody appends a message and is returned version 1.  Whoever loads the conversation
afterwards is returned it without the message.  The store is left as if the message had been
appended behind the cache. -/
theorem load_after_slow_read :
    let now : Timestamp := .epoch
    let m : Message := { role := .user, content := "m", timestamp := now }
    let turns : List CacheTurn :=
      [.begin (.getOrCreate "c1" none), .resume 0 now, .resume 0 now,
        .begin (.append "c1" [m] 0), .resume 1 now, .resume 1 now, .resume 1 now,
        .resume 0 now,
        .begin (.load "c1"), .resume 2 now]
    let new : CachedStore MemoryStore := { inner := {} }
    ¬ (start {}).Forward turns ∧
    ((start {}).run (turns.take 7)).Told "c1" 1 ∧
    ((start {}).run turns).calls[2]?
      = some (.load "c1", finished (.ok (some (.start "c1" none now)))) ∧
    ((start {}).run (turns.take 8)).store
      = ((new.call (.getOrCreate "c1" none) now).1.ask (.append "c1" [m] 0) now).1 := by
  intro now m turns new
  have htold : ((start {}).run (turns.take 7)).Told "c1" 1 :=
    ⟨1, .append "c1" [m] 0, (Conversation.start "c1" none now).extended [m] now, by decide, rfl,
      rfl⟩
  have hload : ((start {}).run turns).calls[2]?
      = some (.load "c1", finished (.ok (some (.start "c1" none now)))) := by
    decide
  refine ⟨fun h => ?_, htold, hload, by decide⟩
  have hle : 1 ≤ 0 :=
    h (turns.take 7) (turns.drop 7) rfl "c1" 1 htold 2 _ _ (by decide) hload rfl rfl
  exact absurd hle (by decide)

end Interleaving

end Dispatch
