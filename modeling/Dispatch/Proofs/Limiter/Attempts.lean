/-
Dispatch/Proofs/Limiter/Attempts.lean

A limiter in use.

Anybody may try for a token, prune idle buckets, or ask how many tokens a caller has, in any order
and at any times.  `Limiter.run` takes such turns one after another, and `Limiter.attempts` lists,
for one caller, when it tried and what it was answered.

An attempt counts the tokens of its caller anew (`counted`), and both its answer and the bucket
that it leaves follow from the count alone (`acquire_eq`).  It does not matter whether there was a
bucket: a caller without one is counted full.  To the buckets of the others a turn does nothing,
or it forgets those that were counted a refill time ago or earlier.  `Turned` lists what a turn can
do to the bucket of one caller; what is said about single callers further on is read off it.

None of this depends on how tokens are counted.
-/
import Dispatch.Resilience.Limiter

namespace Dispatch

/-! ### Turns -/

/-- What somebody does with a limiter. -/
inductive LimiterTurn where
  /-- Tries for a token. -/
  | acquire (caller : String) (now : Nat)
  /-- Prunes the buckets that have been idle for a time. -/
  | prune (idle : Duration) (now : Nat)
  /-- Asks for the tokens of a caller. -/
  | available (caller : String) (now : Nat)
  deriving DecidableEq, Repr

namespace LimiterTurn

/-- The time of a turn. -/
def now : LimiterTurn → Nat
  | acquire _ now | prune _ now | available _ now => now

/-- Whether a turn is an attempt of a caller. -/
def isBy (caller : String) : LimiterTurn → Bool
  | acquire c _ => c = caller
  | prune .. | available .. => false

@[simp] theorem isBy_acquire (caller : String) (now : Nat) :
    (acquire caller now).isBy caller = true := by
  simp [isBy]

theorem eq_acquire_of_isBy {t : LimiterTurn} {caller : String} (h : t.isBy caller = true) :
    t = acquire caller t.now := by
  cases t with
  | acquire c now =>
    obtain rfl : c = caller := by simpa [isBy] using h
    rfl
  | prune idle now => cases h
  | available c now => cases h

end LimiterTurn

namespace Limiter

open TokenCount

/-- The clock of a run does not go backwards. -/
def Timely (turns : List LimiterTurn) : Prop := turns.Pairwise fun t u => t.now ≤ u.now

instance (turns : List LimiterTurn) : Decidable (Timely turns) :=
  inferInstanceAs (Decidable (turns.Pairwise _))

theorem Timely.tail {t : LimiterTurn} {ts : List LimiterTurn} (h : Timely (t :: ts)) :
    Timely ts := (List.pairwise_cons.mp h).2

theorem Timely.le {t u : LimiterTurn} {ts : List LimiterTurn} (h : Timely (t :: ts))
    (hu : u ∈ ts) : t.now ≤ u.now := (List.pairwise_cons.mp h).1 u hu

section

variable {α : Type} [TokenCount α]

/-- One turn. -/
def step (l : Limiter α) : LimiterTurn → Limiter α
  | .acquire caller now => (l.acquire caller now).1
  | .prune idle now => (l.prune idle now).1
  | .available _ _ => l

/-- Turns one after another. -/
def run (l : Limiter α) (turns : List LimiterTurn) : Limiter α := turns.foldl step l

/-- What a caller is answered in a turn, if it tries. -/
def attempt? (l : Limiter α) (caller : String) :
    LimiterTurn → Option (Nat × Except Duration Unit)
  | .acquire c now => if c = caller then some (now, (l.acquire c now).2) else none
  | .prune .. | .available .. => none

/-- The attempts of a caller in a run: when it tried, and what it was answered. -/
def attempts (l : Limiter α) (caller : String) :
    List LimiterTurn → List (Nat × Except Duration Unit)
  | [] => []
  | t :: ts => (l.attempt? caller t).toList ++ (l.step t).attempts caller ts

/-- Every turn of a run is of a kind, where it is taken. -/
def Throughout (kind : Limiter α → LimiterTurn → Prop) (l : Limiter α) : List LimiterTurn → Prop
  | [] => True
  | t :: ts => kind l t ∧ (l.step t).Throughout kind ts

instance decidableThroughout (kind : Limiter α → LimiterTurn → Prop)
    [∀ l t, Decidable (kind l t)] (l : Limiter α) (ts : List LimiterTurn) :
    Decidable (l.Throughout kind ts) :=
  match ts with
  | [] => isTrue trivial
  | t :: ts =>
    have := decidableThroughout kind (l.step t) ts
    inferInstanceAs (Decidable (kind l t ∧ (l.step t).Throughout kind ts))

variable {l : Limiter α} {caller : String} {t : LimiterTurn} {ts : List LimiterTurn} {now : Nat}

@[simp] theorem run_nil (l : Limiter α) : l.run [] = l := rfl

@[simp] theorem run_cons (l : Limiter α) (t : LimiterTurn) (ts : List LimiterTurn) :
    l.run (t :: ts) = (l.step t).run ts := rfl

@[simp] theorem run_append (l : Limiter α) (us ts : List LimiterTurn) :
    l.run (us ++ ts) = (l.run us).run ts := List.foldl_append

/-- What every turn preserves a run preserves. -/
theorem run_of_invariant {P : Limiter α → Prop} (hl : P l) (hstep : ∀ l t, P l → P (l.step t)) :
    P (l.run ts) := by
  induction ts generalizing l with
  | nil => exact hl
  | cons t ts ih => exact ih (hstep l t hl)

theorem Throughout.imp {kind kind' : Limiter α → LimiterTurn → Prop} (h : l.Throughout kind ts)
    (himp : ∀ l, ∀ t ∈ ts, kind l t → kind' l t) : l.Throughout kind' ts := by
  induction ts generalizing l with
  | nil => trivial
  | cons t ts ih =>
    exact ⟨himp l t List.mem_cons_self h.1,
      ih h.2 fun l u hu => himp l u (List.mem_cons_of_mem t hu)⟩

theorem throughout_append {kind : Limiter α → LimiterTurn → Prop} {us : List LimiterTurn} :
    l.Throughout kind (us ++ ts) ↔ l.Throughout kind us ∧ (l.run us).Throughout kind ts := by
  induction us generalizing l with
  | nil => simp [Throughout]
  | cons u us ih => simp only [List.cons_append, Throughout, ih, run_cons, and_assoc]

/-- What is so wherever an invariant holds is so throughout. -/
theorem throughout_of_invariant {kind : Limiter α → LimiterTurn → Prop} {P : Limiter α → Prop}
    (hl : P l) (hstep : ∀ l t, P l → P (l.step t)) (hkind : ∀ l t, P l → kind l t) :
    l.Throughout kind ts := by
  induction ts generalizing l with
  | nil => trivial
  | cons t ts ih => exact ⟨hkind l t hl, ih (hstep l t hl)⟩

theorem attempt?_of_isBy (h : t.isBy caller = true) (l : Limiter α) :
    l.attempt? caller t = some (t.now, (l.acquire caller t.now).2) := by
  rw [LimiterTurn.eq_acquire_of_isBy h]
  exact if_pos rfl

theorem attempt?_of_not_isBy (h : t.isBy caller = false) (l : Limiter α) :
    l.attempt? caller t = none := by
  cases t with
  | acquire c now => exact if_neg (by simpa [LimiterTurn.isBy] using h)
  | prune idle now => rfl
  | available c now => rfl

theorem attempts_cons_of_isBy (h : t.isBy caller = true) (l : Limiter α)
    (ts : List LimiterTurn) :
    l.attempts caller (t :: ts)
      = (t.now, (l.acquire caller t.now).2) :: (l.step t).attempts caller ts := by
  rw [attempts, attempt?_of_isBy h]
  rfl

theorem attempts_cons_of_not_isBy (h : t.isBy caller = false) (l : Limiter α)
    (ts : List LimiterTurn) :
    l.attempts caller (t :: ts) = (l.step t).attempts caller ts := by
  rw [attempts, attempt?_of_not_isBy h]
  rfl

/-- The times of attempts are times of the run. -/
theorem exists_of_mem_attempts {a : Nat × Except Duration Unit}
    (h : a ∈ l.attempts caller ts) : ∃ t ∈ ts, t.now = a.1 := by
  induction ts generalizing l with
  | nil => cases h
  | cons t ts ih =>
    cases hby : t.isBy caller with
    | true =>
      rw [attempts_cons_of_isBy hby] at h
      rcases List.mem_cons.mp h with rfl | h
      · exact ⟨t, List.mem_cons_self, rfl⟩
      · obtain ⟨u, hu, hnow⟩ := ih h
        exact ⟨u, List.mem_cons_of_mem _ hu, hnow⟩
    | false =>
      rw [attempts_cons_of_not_isBy hby] at h
      obtain ⟨u, hu, hnow⟩ := ih h
      exact ⟨u, List.mem_cons_of_mem _ hu, hnow⟩

/-! ### What an attempt does -/

/-- The bucket of a caller, counted anew. -/
def counted (l : Limiter α) (caller : String) (now : Nat) : Bucket α :=
  l.refill (l.bucketOf caller now) now

/-- The answer to an attempt that finds a bucket. -/
def answer (l : Limiter α) (b : Bucket α) : Except Duration Unit :=
  if hasToken b.tokens then .ok ()
  else .error (duration (div (sub (ofNat 1) b.tokens) l.refillRate))

/-- A bucket after an attempt. -/
def spent (b : Bucket α) : Bucket α :=
  if hasToken b.tokens then { b with tokens := sub b.tokens (ofNat 1) } else b

/-- Making room for a caller does nothing to its own bucket. -/
theorem get?_makeRoom_self (l : Limiter α) (caller : String) (now : Nat) :
    (l.makeRoom caller now).buckets.get? caller = l.buckets.get? caller := by
  unfold makeRoom
  split
  · next h =>
    have hnone : l.buckets.get? caller = none := by
      have hc := (Bool.and_eq_true_iff.mp h).2
      simpa [Table.contains] using hc
    rw [dropIdle, Table.get?_filter, hnone]
    rfl
  · rfl

theorem makeRoom_eq (l : Limiter α) (caller : String) (now : Nat) :
    l.makeRoom caller now = { l with buckets := (l.makeRoom caller now).buckets } := by
  unfold makeRoom
  split <;> rfl

/-- **An attempt follows from the count of its caller's tokens.** -/
theorem acquire_eq (l : Limiter α) (caller : String) (now : Nat) :
    l.acquire caller now
      = ({ l with buckets :=
            (l.makeRoom caller now).buckets.insert caller (spent (l.counted caller now)) },
          l.answer (l.counted caller now)) := by
  have hbucket : (l.makeRoom caller now).bucketOf caller now = l.bucketOf caller now := by
    unfold bucketOf
    rw [get?_makeRoom_self, makeRoom_eq l caller now]
  have hcounted : (l.makeRoom caller now).refill ((l.makeRoom caller now).bucketOf caller now) now
      = l.counted caller now := by
    rw [hbucket, makeRoom_eq l caller now]
    rfl
  unfold acquire
  simp only [hcounted]
  rw [answer, spent]
  split
  · rw [makeRoom_eq l caller now]
  · rw [makeRoom_eq l caller now]

/-! ### What a turn does to one bucket -/

/-- What a turn does to the bucket of a caller. -/
inductive Turned (l : Limiter α) (caller : String) (t : LimiterTurn) : Option (Bucket α) → Prop
  | tried (hby : t.isBy caller = true) :
      Turned l caller t (some (spent (l.counted caller t.now)))
  | untouched (hby : t.isBy caller = false) : Turned l caller t (l.buckets.get? caller)
  /-- The bucket was counted a refill time ago or earlier. -/
  | forgotten (hby : t.isBy caller = false) {b : Bucket α}
      (hb : l.buckets.get? caller = some b)
      (hidle : l.refillTime.nanos ≤ t.now - b.countedAt) : Turned l caller t none

theorem turned_dropIdle {idle : Duration} (hby : t.isBy caller = false)
    (hidle : l.refillTime.nanos ≤ idle.nanos) :
    l.Turned caller t ((l.dropIdle idle t.now).buckets.get? caller) := by
  rw [dropIdle, Table.get?_filter]
  cases hb : l.buckets.get? caller with
  | none =>
    rw [Option.filter_none, ← hb]
    exact .untouched hby
  | some b =>
    by_cases hlt : t.now - b.countedAt < idle.nanos
    · rw [Option.filter_some, if_pos (by simpa using hlt), ← hb]
      exact .untouched hby
    · rw [Option.filter_some, if_neg (by simpa using hlt)]
      exact .forgotten hby hb (Nat.le_trans hidle (Nat.le_of_not_lt hlt))

theorem turned_makeRoom {c : String} (hby : t.isBy caller = false) :
    l.Turned caller t ((l.makeRoom c t.now).buckets.get? caller) := by
  unfold makeRoom
  split
  · exact turned_dropIdle hby (Nat.le_refl _)
  · exact .untouched hby

theorem turned (l : Limiter α) (caller : String) (t : LimiterTurn) :
    l.Turned caller t ((l.step t).buckets.get? caller) := by
  cases t with
  | acquire c now =>
    show l.Turned caller _ ((l.acquire c now).1.buckets.get? caller)
    rw [acquire_eq]
    by_cases hc : caller = c
    · subst hc
      rw [Table.get?_insert_self]
      exact .tried (LimiterTurn.isBy_acquire caller now)
    · rw [Table.get?_insert_ne _ hc]
      have hby : (LimiterTurn.acquire c now).isBy caller = false := by
        simpa [LimiterTurn.isBy] using Ne.symm hc
      exact turned_makeRoom hby
  | prune idle now =>
    have hmax : l.refillTime.nanos ≤ (max idle l.refillTime).nanos := by
      show _ ≤ (if idle.nanos ≤ l.refillTime.nanos then l.refillTime else idle).nanos
      split <;> omega
    exact turned_dropIdle rfl hmax
  | available c now => exact .untouched rfl

/-- A turn forgets a caller that had a bucket. -/
def Forgets (l : Limiter α) (caller : String) (t : LimiterTurn) : Prop :=
  (l.buckets.get? caller).isSome = true ∧ (l.step t).buckets.get? caller = none

instance (l : Limiter α) (caller : String) (t : LimiterTurn) : Decidable (l.Forgets caller t) :=
  inferInstanceAs (Decidable (_ ∧ _))

/-- Only a bucket that was counted a refill time ago or earlier is forgotten. -/
theorem Forgets.idle (h : l.Forgets caller t) :
    ∃ b, l.buckets.get? caller = some b ∧ l.refillTime.nanos ≤ t.now - b.countedAt := by
  obtain ⟨hsome, hnone⟩ := h
  have hturned := l.turned caller t
  rw [hnone] at hturned
  generalize hx : none = x at hturned
  cases hturned with
  | tried _ => cases hx
  | untouched _ =>
    rw [← hx] at hsome
    cases hsome
  | forgotten _ hb hidle => exact ⟨_, hb, hidle⟩

/-- What others do leaves a bucket alone, or forgets it. -/
theorem get?_step_of_not_forgets (hby : t.isBy caller = false) (h : ¬ l.Forgets caller t) :
    (l.step t).buckets.get? caller = l.buckets.get? caller := by
  have hturned := l.turned caller t
  generalize hx : (l.step t).buckets.get? caller = x at hturned ⊢
  cases hturned with
  | tried hby' => exact absurd (hby.symm.trans hby') nofun
  | untouched _ => rfl
  | forgotten _ hb _ => exact absurd ⟨by simp [hb], hx⟩ h

/-- What others do in a run leaves a bucket alone, or forgets it. -/
theorem get?_run_of_not_isBy (h : ∀ t ∈ ts, t.isBy caller = false) :
    (l.run ts).buckets.get? caller = l.buckets.get? caller ∨
      (l.run ts).buckets.get? caller = none := by
  induction ts generalizing l with
  | nil => exact Or.inl rfl
  | cons t ts ih =>
    rw [run_cons]
    rcases ih (l := l.step t) fun u hu => h u (List.mem_cons_of_mem t hu) with hrest | hrest
    · by_cases hforgets : l.Forgets caller t
      · exact Or.inr (hrest.trans hforgets.2)
      · have hby : t.isBy caller = false := h t List.mem_cons_self
        exact Or.inl (hrest.trans (get?_step_of_not_forgets hby hforgets))
    · exact Or.inr hrest

/-- A turn changes buckets only. -/
theorem step_eq (l : Limiter α) (t : LimiterTurn) :
    l.step t = { l with buckets := (l.step t).buckets } := by
  cases t with
  | acquire c now =>
    show (l.acquire c now).1 = _
    rw [step, acquire_eq]
  | prune idle now => rfl
  | available c now => rfl

@[simp] theorem capacity_step (l : Limiter α) (t : LimiterTurn) :
    (l.step t).capacity = l.capacity := by
  rw [step_eq]

@[simp] theorem refillRate_step (l : Limiter α) (t : LimiterTurn) :
    (l.step t).refillRate = l.refillRate := by
  rw [step_eq]

@[simp] theorem maxTracked_step (l : Limiter α) (t : LimiterTurn) :
    (l.step t).maxTracked = l.maxTracked := by
  rw [step_eq]

@[simp] theorem refillTime_step (l : Limiter α) (t : LimiterTurn) :
    (l.step t).refillTime = l.refillTime := by
  rw [refillTime, refillTime, capacity_step, refillRate_step]

@[simp] theorem capacity_run (l : Limiter α) (ts : List LimiterTurn) :
    (l.run ts).capacity = l.capacity :=
  run_of_invariant (P := fun l' => l'.capacity = l.capacity) rfl fun l' t h =>
    (capacity_step l' t).trans h

@[simp] theorem refillRate_run (l : Limiter α) (ts : List LimiterTurn) :
    (l.run ts).refillRate = l.refillRate :=
  run_of_invariant (P := fun l' => l'.refillRate = l.refillRate) rfl fun l' t h =>
    (refillRate_step l' t).trans h

@[simp] theorem maxTracked_run (l : Limiter α) (ts : List LimiterTurn) :
    (l.run ts).maxTracked = l.maxTracked :=
  run_of_invariant (P := fun l' => l'.maxTracked = l.maxTracked) rfl fun l' t h =>
    (maxTracked_step l' t).trans h

end

end Limiter

end Dispatch
