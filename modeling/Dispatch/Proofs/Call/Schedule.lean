/-
Dispatch/Proofs/Call/Schedule.lean

The delays between the attempts of a call.

Every delay but the first comes from the one before by `next`, so the delay with number `i` is the
base delay after `i` such steps (`getElem?_delaysFrom`), and the shape of all delays is that of one
step: from a delay that may still grow it leads to a longer one (`lt_next`), and from no delay, or
the longest one, it leads nowhere (`next_of_settled`).

A call does not hold the list.  It holds a schedule, of which it takes a delay after an attempt that
failed with attempts left.  `Schedule.after` is the schedule with so many delays taken, and a call
between attempts stands where its number of attempts says (`OnSchedule`).  Every turn keeps that,
whatever the breakers answer and whenever the turn comes, so a call runs out of attempts before it
runs out of delays, and no delay is ever made up.
-/
import Dispatch.Proofs.Call.Range
import Dispatch.Proofs.Duration.Doubling

namespace Dispatch

namespace Backoff

variable {d longest : Duration} {n i : Nat}

/-! ### One step -/

/-- A delay that is no time, or the longest delay, stays as it is. -/
theorem next_of_settled (h : d = .zero ∨ d = longest) : next longest d = d := by
  refine Duration.ext_nanos ?_
  rw [next, Duration.nanos_min]
  rcases h with rfl | rfl
  · rw [Duration.doubled_zero, ite_self]
    exact Nat.zero_min _
  · have hself : ¬ d < d := Nat.lt_irrefl _
    rw [if_neg hself, Nat.min_self]

/-- Any other delay grows. -/
theorem lt_next (hd : d ≠ .zero) (h : d < longest) : d < next longest d := by
  have hmax : d < Duration.max := Nat.lt_of_lt_of_le h (Nat.le_sub_one_of_lt longest.bounded)
  rw [Duration.lt_iff, next, Duration.nanos_min, if_pos h]
  exact lt_min (Duration.lt_doubled hd hmax) h

/-! ### All delays -/

@[simp] theorem length_delaysFrom (longest : Duration) (n : Nat) (d : Duration) :
    (delaysFrom longest n d).length = n := by
  induction n generalizing d with
  | zero => rfl
  | succ n ih => rw [delaysFrom, List.length_cons, ih]

/-- The delay with a number is the first one after so many steps. -/
theorem getElem?_delaysFrom (longest : Duration) (n i : Nat) (d : Duration) :
    (delaysFrom longest n d)[i]? = if i < n then some ((next longest)^[i] d) else none := by
  induction n generalizing d i with
  | zero => rfl
  | succ n ih =>
    cases i with
    | zero => rfl
    | succ i =>
      rw [delaysFrom, List.getElem?_cons_succ, ih, Function.iterate_succ_apply]
      simp only [Nat.add_lt_add_iff_right]

/-- A later delay is the next one after that before it. -/
theorem eq_next_of_getElem? {x y : Duration} (hx : (delaysFrom longest n d)[i]? = some x)
    (hy : (delaysFrom longest n d)[i + 1]? = some y) : y = next longest x := by
  rw [getElem?_delaysFrom] at hx hy
  split at hx
  · split at hy
    · rw [← Option.some.inj hx, ← Option.some.inj hy, Function.iterate_succ_apply']
    · cases hy
  · cases hx

/-! ### One delay after the other -/

namespace Schedule

variable {s s' : Schedule} {retry : RetrySettings} {ds : List Duration}

/-- The next delay, if one is to come. -/
def next? (longest : Duration) (s : Schedule) : Option (Duration × Schedule) :=
  match s.remaining with
  | 0 => none
  | n + 1 => some (s.delay, { remaining := n, delay := next longest s.delay })

/-- Where no delay is to come, no time is taken for one. -/
theorem take_eq (longest : Duration) (s : Schedule) :
    s.take longest = (s.next? longest).getD (.zero, s) := by
  obtain ⟨n, d⟩ := s
  cases n <;> rfl

/-- All that a schedule yields, until nothing is to come. -/
inductive Yields (longest : Duration) : Schedule → List Duration → Prop
  | done {s : Schedule} (h : s.next? longest = none) : Yields longest s []
  | more {s s' : Schedule} {d : Duration} {ds : List Duration}
      (h : s.next? longest = some (d, s')) (rest : Yields longest s' ds) :
      Yields longest s (d :: ds)

/-- A schedule yields the delays from its next one on. -/
theorem yields_iff : s.Yields longest ds ↔ ds = delaysFrom longest s.remaining s.delay := by
  constructor
  · intro h
    induction h with
    | @done s h =>
      unfold next? at h
      split at h
      · next hn => rw [hn, delaysFrom]
      · cases h
    | @more s s' d ds h rest ih =>
      unfold next? at h
      split at h
      · cases h
      · next n hn =>
        cases h
        rw [hn, delaysFrom, ih]
  · rintro rfl
    obtain ⟨n, d⟩ := s
    induction n generalizing d with
    | zero => exact .done rfl
    | succ n ih => exact .more rfl (ih _)

/-- The schedule of a call with so many delays taken. -/
def after (retry : RetrySettings) (k : Nat) : Schedule where
  remaining := retry.maxAttempts - 1 - k
  delay := (next retry.maxDelay)^[k] retry.baseDelay

/-- As long as attempts are left, the delay with the next number is there. -/
theorem next?_after {k : Nat} (h : k + 1 < retry.maxAttempts) :
    ∃ d, (delays retry)[k]? = some d ∧
      (after retry k).next? retry.maxDelay = some (d, after retry (k + 1)) := by
  have hk : k < retry.maxAttempts - 1 := Nat.lt_sub_of_add_lt h
  refine ⟨(next retry.maxDelay)^[k] retry.baseDelay, ?_, ?_⟩
  · rw [delays, getElem?_delaysFrom, if_pos hk]
  · have hremaining : (after retry k).remaining = retry.maxAttempts - 1 - (k + 1) + 1 := by
      show retry.maxAttempts - 1 - k = _
      omega
    rw [next?, hremaining, after, after, Function.iterate_succ_apply']

end Schedule

end Backoff

/-! ### The schedule of a call -/

namespace Call

open Backoff (Schedule)

variable {α : Type} {plan : CallPlan} {c : Call α} {t : CallTurn α}

/-- A call that is not over has taken a delay for every attempt that has failed. -/
def OnSchedule (plan : CallPlan) (c : Call α) : Prop :=
  match c.stage with
  | .ready | .waiting _ => c.delays = .after plan.retry c.attempts
  | .running _ => 0 < c.attempts ∧ c.delays = .after plan.retry (c.attempts - 1)
  | .finished _ | .cancelled | .crashed _ => True

theorem OnSchedule.of_isOver (h : c.isOver = true) : c.OnSchedule plan := by
  unfold isOver at h
  unfold OnSchedule
  split at h
  · cases h
  · cases h
  · cases h
  all_goals
    next hs => rw [hs]; trivial

/-- While an attempt runs and others are left, the delay before the next one is there. -/
theorem OnSchedule.next? (h : c.OnSchedule plan) {a : RunningAttempt} (hs : c.stage = .running a)
    (hmore : c.attempts < plan.retry.maxAttempts) :
    ∃ d, (Backoff.delays plan.retry)[c.attempts - 1]? = some d ∧
      c.delays.next? plan.retry.maxDelay = some (d, .after plan.retry c.attempts) := by
  unfold OnSchedule at h
  rw [hs] at h
  obtain ⟨hpos, hdelays⟩ := h
  have hlast : c.attempts - 1 + 1 = c.attempts := Nat.succ_pred_eq_of_pos hpos
  obtain ⟨d, hd, hnext⟩ := Schedule.next?_after (k := c.attempts - 1) (by rwa [hlast])
  rw [hlast] at hnext
  exact ⟨d, hd, hdelays ▸ hnext⟩

/-- A failure after which no delay is due ends the call, and leaves the schedule as it is. -/
theorem Sequel.of_not_due {now : Nat} {f : Failure} {c' : Call α} (h : c.Sequel plan now f c')
    (hdue : ¬ (f.category = .transient ∧ c.attempts < plan.retry.maxAttempts)) :
    c'.isOver = true ∧ c'.delays = c.delays := by
  cases h with
  | final hf => exact ⟨rfl, rfl⟩
  | exhausted hf hmax => exact ⟨rfl, rfl⟩
  | lost hf hmore hw => exact absurd ⟨hf, hmore⟩ hdue
  | late hf hmore hw hd => exact absurd ⟨hf, hmore⟩ hdue
  | waits hf hmore hw hd => exact absurd ⟨hf, hmore⟩ hdue

/-- A failure leads to an end, or to a delay that is taken from the schedule. -/
theorem OnSchedule.afterFailure (h : c.OnSchedule plan) {a : RunningAttempt}
    (hs : c.stage = .running a) (now : Nat) (f : Failure) :
    (c.afterFailure plan now f).OnSchedule plan := by
  by_cases hdue : f.category = .transient ∧ c.attempts < plan.retry.maxAttempts
  · obtain ⟨hf, hmore⟩ := hdue
    obtain ⟨d, -, hnext⟩ := h.next? hs hmore
    have htake : c.delays.take plan.retry.maxDelay = (d, .after plan.retry c.attempts) := by
      rw [Schedule.take_eq, hnext, Option.getD_some]
    rw [afterFailure_eq hf hmore, htake]
    split
    · trivial
    · split
      · trivial
      · exact (rfl : Schedule.after plan.retry c.attempts = _)
  · exact .of_isOver ((sequel c f).of_not_due hdue).1

/-- **Every turn keeps a call on its schedule.** -/
theorem OnSchedule.step (h : c.OnSchedule plan) (hc : c.Coherent plan) (t : CallTurn α) :
    (c.step plan t).OnSchedule plan := by
  by_cases hrun : ∃ a, c.stage = .running a
  · obtain ⟨a, hs⟩ := hrun
    rcases step_of_running plan hs t with hstep | ⟨result, hstep⟩ | hstep | ⟨f, hstep⟩
    · rwa [hstep]
    · rw [hstep]
      trivial
    · rw [hstep]
      trivial
    · rw [hstep]
      exact h.afterFailure hs t.now f
  · -- no attempt runs, so no delay is taken
    have hacted : Acted plan c t (c.mark? plan t) (c.act plan t).1 (c.step plan t) := acted hc t
    generalize c.mark? plan t = mark, (c.act plan t).1 = b, c.step plan t = c' at hacted ⊢
    cases hacted with
    | idle hidle => exact h
    | late hs he hd => trivial
    | refused hs he hd hb => trivial
    | started hs he hd hb hsince fits =>
      unfold OnSchedule at h
      rw [hs] at h
      exact ⟨Nat.succ_pos _, h⟩
    | woken hs he =>
      unfold OnSchedule at h
      rw [hs] at h
      exact h
    | left hs he => trivial
    | produced hs | failed hs | timedOut hs | cutShort hs | abandoned hs =>
      exact absurd ⟨_, hs⟩ hrun

theorem OnSchedule.run (h : c.OnSchedule plan) (hc : c.Coherent plan)
    (turns : List (CallTurn α)) : (c.run plan turns).OnSchedule plan := by
  induction turns generalizing c with
  | nil => exact h
  | cons t turns ih => exact ih (h.step hc t) (hc.step t)

theorem onSchedule_start (plan : CallPlan) (now : Nat) :
    (start plan now : Call α).OnSchedule plan := by
  unfold start
  split
  · rfl
  · trivial

/-- A turn after which a call asks for its next delay: an attempt ends in a way that may pass, and
attempts are left. -/
def AsksForDelay (plan : CallPlan) (c : Call α) (t : CallTurn α) : Prop :=
  (∃ e, c.mark? plan t = some (.ended e) ∧ e.Passing plan) ∧
    c.attempts < plan.retry.maxAttempts

/-- What ends was running. -/
theorem exists_running_of_ended {e : AttemptEnd α} (h : c.mark? plan t = some (.ended e)) :
    ∃ a, c.stage = .running a := by
  unfold mark? at h
  split at h
  · split_ifs at h
    · cases h
    · cases h
  · next a value hs he => exact ⟨a, hs⟩
  · next a failure hs he => exact ⟨a, hs⟩
  · next a hs he => exact ⟨a, hs⟩
  · next a hs he => exact ⟨a, hs⟩
  · cases h

/-- Nothing else that happens to a call takes a delay. -/
theorem delays_step_of_not_asks (hc : c.Coherent plan) (h : ¬ c.AsksForDelay plan t) :
    (c.step plan t).delays = c.delays := by
  have hacted : Acted plan c t (c.mark? plan t) (c.act plan t).1 (c.step plan t) := acted hc t
  unfold AsksForDelay at h
  generalize c.mark? plan t = mark, (c.act plan t).1 = b, c.step plan t = c' at hacted h ⊢
  -- a failure that could ask would have left its mark
  have hdue {e : AttemptEnd α} {f : Failure} (hmark : mark = some (.ended e))
      (he : e.failure? plan = some f) :
      ¬ (f.category = .transient ∧ c.attempts < plan.retry.maxAttempts) :=
    fun ⟨hf, hmore⟩ => h ⟨⟨e, hmark, f, he, hf⟩, hmore⟩
  cases hacted with
  | failed hs he next => exact (next.of_not_due (hdue rfl rfl)).2
  | timedOut hs he hlong next => exact (next.of_not_due (hdue rfl rfl)).2
  | idle | late | refused | started | produced | cutShort | woken | abandoned | left => rfl

end Call

namespace Backoff

/-- **The shape of the delays.**  For settings whose base delay is not longer than the longest
delay, the schedule of a call yields one delay less than there are attempts, and none if there is
one attempt at most.  The first is the base delay, none is longer than the longest, and each later
one is longer than the one before, unless that one is no time or the longest delay: then it is the
same.  In every run of a call, whatever its operation, its factors, the breakers and the clock do, a
turn after which the call asks for a delay finds one, that with the number of the attempt; so the
time that stands for a missing delay is never taken.  No other turn uses up a delay. -/
theorem delays_shape (s : RetrySettings) (h : s.baseDelay ≤ s.maxDelay) :
    (∀ ds, (Schedule.ofSettings s).Yields s.maxDelay ds ↔ ds = delays s) ∧
    (delays s).length = s.maxAttempts - 1 ∧
    (∀ d, (delays s)[0]? = some d → d = s.baseDelay) ∧
    (∀ d ∈ delays s, d ≤ s.maxDelay) ∧
    (∀ i x y, (delays s)[i]? = some x → (delays s)[i + 1]? = some y →
      if x = .zero ∨ x = s.maxDelay then y = x else x < y) ∧
    ∀ {α : Type} (plan : CallPlan) (now : Nat) (turns : List (CallTurn α)) (t : CallTurn α),
      plan.retry = s →
      let c := (Call.start plan now).run plan turns
      (c.AsksForDelay plan t →
        ∃ d rest, (delays s)[c.attempts - 1]? = some d ∧
          c.delays.next? s.maxDelay = some (d, rest) ∧
          c.delays.take s.maxDelay = (d, rest)) ∧
      (¬ c.AsksForDelay plan t → (c.step plan t).delays = c.delays) := by
  have hlongest : ∀ d ∈ delays s, d ≤ s.maxDelay := le_longest_of_mem h
  refine ⟨fun ds => Schedule.yields_iff, length_delaysFrom _ _ _, fun d hd => ?_, hlongest,
    fun i x y hx hy => ?_, ?_⟩
  · rw [delays, getElem?_delaysFrom] at hd
    split at hd
    · exact (Option.some.inj hd).symm
    · cases hd
  · rw [eq_next_of_getElem? hx hy]
    split
    · next hsettled => exact next_of_settled hsettled
    · next hgrows =>
      obtain ⟨hzero, hmax⟩ := not_or.mp hgrows
      have hle : x ≤ s.maxDelay := hlongest x (List.mem_of_getElem? hx)
      exact lt_next hzero (Nat.lt_of_le_of_ne hle fun heq => hmax (Duration.ext_nanos heq))
  · rintro α plan now turns t rfl c
    have hcoherent : (Call.start plan now : Call α).Coherent plan := Call.coherent_start plan now
    refine ⟨fun ⟨⟨e, hended, _⟩, hmore⟩ => ?_, Call.delays_step_of_not_asks (hcoherent.run turns)⟩
    have hc : c.OnSchedule plan := (Call.onSchedule_start plan now).run hcoherent turns
    obtain ⟨a, hs⟩ := Call.exists_running_of_ended hended
    obtain ⟨d, hd, hnext⟩ := hc.next? hs hmore
    exact ⟨d, _, hd, hnext, by rw [Schedule.take_eq, hnext, Option.getD_some]⟩

/-- Two delays around `2 ^ 24` seconds, where 32 bits no longer hold every second: the second one is
two seconds short of twice the first, and still longer.  The call asks for it after its second
attempt. -/
theorem delays_of_three_attempts :
    let s : RetrySettings := {
      maxAttempts := 3, baseDelay := .ofSecs 16777217, maxDelay := .ofSecs 1000000000
      deadline := .ofSecs 1000000000 }
    let plan : CallPlan := {
      backend := "b", timeout := .ofSecs 30, retry := s, factor := fun _ => ⟨1, 0⟩ }
    let outage : Failure := { category := .transient, message := "unavailable" }
    let woken := (Duration.ofSecs 16777217).nanos
    let turns : List (CallTurn Unit) := [
      { now := 0, breakers := {}, event := .attempt },
      { now := 0, breakers := {}, event := .complete (.error outage) },
      { now := woken, breakers := {}, event := .wake },
      { now := woken, breakers := {}, event := .attempt }]
    let c := (Call.start plan 0).run plan turns
    let t : CallTurn Unit := {
      now := woken, breakers := {}, event := .complete (.error outage) }
    (s.baseDelay ≤ s.maxDelay ∧ plan.retry = s ∧ c.AsksForDelay plan t) ∧
    delays s = [.ofSecs 16777217, .ofSecs 33554432] ∧
    Duration.ofSecs 16777217 < .ofSecs 33554432 ∧
    ∃ rest, c.delays.next? s.maxDelay = some (.ofSecs 33554432, rest) := by
  intro s plan outage woken turns c t
  have hbase : s.baseDelay ≤ s.maxDelay := by decide
  have hasks : c.AsksForDelay plan t :=
    ⟨⟨.failed outage, by decide +kernel, outage, rfl, rfl⟩, by decide +kernel⟩
  have hlist : delays s = [.ofSecs 16777217, .ofSecs 33554432] := by decide +kernel
  obtain ⟨-, -, -, -, hgrows, hcall⟩ := delays_shape s hbase
  refine ⟨⟨hbase, rfl, hasks⟩, hlist, ?_, ?_⟩
  · -- the first delay is neither no time nor the longest one
    have hstep := hgrows 0 _ _ (by rw [hlist]; rfl) (by rw [hlist]; rfl)
    rwa [if_neg (by decide +kernel)] at hstep
  · obtain ⟨d, rest, hd, hnext, -⟩ := (hcall plan 0 turns t rfl).1 hasks
    have hattempts : c.attempts = 2 := by decide +kernel
    have hsecond : (delays s)[c.attempts - 1]? = some (Duration.ofSecs 33554432) := by
      rw [hattempts, hlist]
      rfl
    obtain rfl := Option.some.inj (hd.symm.trans hsecond)
    exact ⟨rest, hnext⟩

end Backoff

end Dispatch
