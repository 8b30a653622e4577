/-
Dispatch/Proofs/Call/Range.lean

Times that cannot be computed.

A call computes its deadline when it starts, and after every failure that may pass the end of the
delay to come.  `Ranged` says, for every stage of a call, that what is left of its delays fits the
clock from there on; a patient turn keeps it (`Ranged.step`), and no such call has crashed.  Where
the delays do not fit, a run crashes that makes every delay before the fatal one as short as it can
be, and the fatal one as long (`exists_crash`).  So a call can crash exactly if its settings are out
of range (`never_crashes_iff`).  That a configuration is accepted does not say that they are, for
the checks relate durations only to each other; a bound on the longest delay does
(`RetrySettings.inRange_of_secs_lt`).
-/
import Dispatch.Proofs.Call.Delays
import Dispatch.Proofs.Call.Turn
import Dispatch.Proofs.Config.Validation
import Dispatch.Resilience.Guards

namespace Dispatch

namespace Call

variable {α : Type} {plan : CallPlan} {c : Call α} {t : CallTurn α} {latest last now : Nat}

/-! ### Patient runs -/

/-- The clock does not go backwards and reads `latest` at most, and no delay ends early. -/
def Patient (plan : CallPlan) (latest : Nat) : Nat → Call α → List (CallTurn α) → Prop
  | _, _, [] => True
  | last, c, t :: ts => last ≤ t.now ∧ t.now ≤ latest ∧
    (∀ w, c.stage = .waiting w → t.event = .wake → w ≤ t.now) ∧
      Patient plan latest t.now (c.step plan t) ts

/-- The delays that are still to come. -/
def upcoming (plan : CallPlan) (c : Call α) : List Duration :=
  Backoff.delaysFrom plan.retry.maxDelay c.delays.remaining c.delays.delay

theorem upcoming_of_succ {n : Nat} (h : c.delays.remaining = n + 1) :
    c.upcoming plan = c.delays.delay :: Backoff.delaysFrom plan.retry.maxDelay n
      (Backoff.next plan.retry.maxDelay c.delays.delay) := by
  rw [upcoming, h, Backoff.delaysFrom]

/-- A call for which there is a delay for every attempt that is left, and the delays fit. -/
def Ranged (plan : CallPlan) (latest last : Nat) (c : Call α) : Prop :=
  match c.stage with
  | .ready => c.attempts + c.delays.remaining + 1 = plan.retry.maxAttempts ∧
    (last < c.deadline → Backoff.DelaysFit c.deadline latest last (c.upcoming plan))
  | .running _ => c.attempts + c.delays.remaining = plan.retry.maxAttempts ∧
    Backoff.DelaysFit c.deadline latest last (c.upcoming plan)
  | .waiting w => c.attempts + c.delays.remaining + 1 = plan.retry.maxAttempts ∧
    (w < c.deadline → Backoff.DelaysFit c.deadline latest w (c.upcoming plan))
  | .finished _ | .cancelled => True
  | .crashed _ => False

theorem Ranged.later {c : Call α} (h : c.Ranged plan latest last) (hle : last ≤ now) :
    c.Ranged plan latest now := by
  unfold Ranged at *
  cases hs : c.stage with
  | ready =>
    rw [hs] at h
    exact ⟨h.1, fun hlt => (h.2 (Nat.lt_of_le_of_lt hle hlt)).later hle⟩
  | running a =>
    rw [hs] at h
    exact ⟨h.1, h.2.later hle⟩
  | waiting w =>
    rw [hs] at h
    exact h
  | finished result => trivial
  | cancelled => trivial
  | crashed fault =>
    rw [hs] at h
    exact h

/-- A call that has returned or was abandoned computes nothing any more. -/
theorem ranged_finish (c : Call α) (result : Except CallError α) :
    (c.finish result).Ranged plan latest last := trivial

/-! ### After a failure -/

theorem take_of_succ {s : Backoff.Schedule} {n : Nat} (h : s.remaining = n + 1)
    (longest : Duration) :
    s.take longest = (s.delay, { remaining := n, delay := Backoff.next longest s.delay }) := by
  unfold Backoff.Schedule.take
  rw [h]

/-- What a failure leads to that may pass, with attempts left. -/
theorem afterFailure_eq {f : Failure} (hf : f.category = .transient)
    (hmore : c.attempts < plan.retry.maxAttempts) (now : Nat) :
    c.afterFailure plan now f = match c.wakeUp plan now with
      | .error fault =>
        { c with delays := (c.delays.take plan.retry.maxDelay).2, stage := .crashed fault }
      | .ok w =>
        if c.deadline ≤ w then c.finish (.error (.deadlineExceeded plan.backend c.attempts))
        else { c with delays := (c.delays.take plan.retry.maxDelay).2
                      stage := .waiting (Clock.onGrid w) } := by
  have hretry : ¬ (!f.category.isRetryable) = true := by
    rw [show f.category.isRetryable = true from decide_eq_true hf]
    exact Bool.false_ne_true
  unfold afterFailure
  exact (if_neg hretry).trans (if_neg (Nat.not_le_of_lt hmore))

/-- How the end of a delay is computed.  The definition is unfolded in a hypothesis: in a goal its
scaled delay would be evaluated. -/
theorem wakeUp_cases (plan : CallPlan) (now : Nat) (c : Call α) :
    (Backoff.scaled? (plan.factor c.attempts) (c.delays.take plan.retry.maxDelay).1 = none ∧
        c.wakeUp plan now = .error .delay) ∨
      ∃ x, Backoff.scaled? (plan.factor c.attempts) (c.delays.take plan.retry.maxDelay).1 = some x ∧
        (Clock.bound ≤ now + x.nanos ∧ c.wakeUp plan now = .error .wakeUp ∨
          now + x.nanos < Clock.bound ∧ c.wakeUp plan now = .ok (now + x.nanos)) := by
  generalize hdef : @wakeUp α = f
  delta wakeUp at hdef
  subst hdef
  cases hx : Backoff.scaled? (plan.factor c.attempts) (c.delays.take plan.retry.maxDelay).1 with
  | none => exact Or.inl ⟨rfl, by simp only [hx]⟩
  | some x =>
    refine Or.inr ⟨x, rfl, ?_⟩
    by_cases hbound : now + x.nanos < Clock.bound
    · have hafter : Clock.after? now x = some (now + x.nanos) := by
        rw [Clock.after?, if_pos hbound]
      exact Or.inr ⟨hbound, by simp only [hx, hafter]⟩
    · have hafter : Clock.after? now x = none := by
        rw [Clock.after?, if_neg hbound]
      exact Or.inl ⟨Nat.le_of_not_lt hbound, by simp only [hx, hafter]⟩

/-- When the delay ends that a failure leads to. -/
theorem wakeUp_eq {x : Duration}
    (hx : Backoff.scaled? (plan.factor c.attempts) (c.delays.take plan.retry.maxDelay).1 = some x)
    (hbound : now + x.nanos < Clock.bound) : c.wakeUp plan now = .ok (now + x.nanos) := by
  rcases c.wakeUp_cases plan now with ⟨hnone, -⟩ | ⟨y, hy, ⟨hle, -⟩ | ⟨-, hw⟩⟩
  · cases hx.symm.trans hnone
  · obtain rfl : y = x := Option.some.inj (hy.symm.trans hx)
    exact absurd hbound (Nat.not_lt_of_le hle)
  · obtain rfl : y = x := Option.some.inj (hy.symm.trans hx)
    exact hw

/-- Where the delays fit, a failure leads to a delay that fits, or to an end. -/
theorem ranged_afterFailure (hattempts : c.attempts + c.delays.remaining = plan.retry.maxAttempts)
    (hfit : Backoff.DelaysFit c.deadline latest last (c.upcoming plan))
    (hdrawn : ∀ n, Backoff.Drawn (plan.factor n)) (hle : last ≤ now) (hlatest : now ≤ latest)
    (f : Failure) : (c.afterFailure plan now f).Ranged plan latest now := by
  by_cases hf : f.category = .transient
  · by_cases hmore : c.attempts < plan.retry.maxAttempts
    · -- a delay is due, and there is one for each attempt that is left
      obtain ⟨n, hn⟩ : ∃ n, c.delays.remaining = n + 1 :=
        Nat.exists_eq_succ_of_ne_zero (by omega)
      have htake := take_of_succ hn plan.retry.maxDelay
      rw [upcoming_of_succ hn] at hfit
      obtain ⟨x, hx, hbound, hrest⟩ := hfit.next (hdrawn c.attempts) hle hlatest
      have hwake : c.wakeUp plan now = .ok (now + x.nanos) := by
        refine wakeUp_eq ?_ hbound
        rw [htake]
        exact hx
      rw [afterFailure_eq hf hmore, hwake, htake]
      simp only
      split
      · exact ranged_finish _ _
      · refine ⟨?_, hrest⟩
        show c.attempts + n + 1 = _
        omega
    · have hend : c.afterFailure plan now f
          = c.finish (.error (.retriesExhausted plan.backend c.attempts f)) := by
        have hretry : f.category.isRetryable = true := decide_eq_true hf
        unfold afterFailure
        rw [hretry, Bool.not_true, if_neg Bool.false_ne_true, if_pos (Nat.le_of_not_lt hmore)]
      rw [hend]
      exact ranged_finish _ _
  · have hend : c.afterFailure plan now f = c.finish (.error (.backend plan.backend f)) := by
      have hretry : f.category.isRetryable = false := decide_eq_false hf
      unfold afterFailure
      rw [hretry, Bool.not_false, if_pos rfl]
    rw [hend]
    exact ranged_finish _ _

/-! ### Every turn -/

theorem step_complete {a : RunningAttempt} {f : Failure} (hs : c.stage = .running a)
    (he : t.event = .complete (.error f)) : c.step plan t = c.afterFailure plan t.now f := by
  simp only [step, act, complete, hs, he]

theorem step_expire {a : RunningAttempt} (hs : c.stage = .running a) (he : t.event = .expire) :
    c.step plan t = if a.clamped then c.finish (.error (.deadlineExceeded plan.backend c.attempts))
      else c.afterFailure plan t.now (timedOut a.limit) := by
  simp only [step, act, expire, hs, he]
  split <;> rfl

/-- While an attempt runs, a turn leaves the call as it is, ends it, or lets the attempt fail. -/
theorem step_of_running {a : RunningAttempt} (plan : CallPlan) (hs : c.stage = .running a)
    (t : CallTurn α) :
    c.step plan t = c ∨ (∃ result, c.step plan t = c.finish result) ∨
      c.step plan t = { c with stage := .cancelled } ∨
      ∃ f, c.step plan t = c.afterFailure plan t.now f := by
  cases he : t.event with
  | attempt =>
    rw [step, (act_of_not_takes (by simp [takes, hs, he])).2]
    exact Or.inl rfl
  | complete outcome =>
    cases outcome with
    | ok value => exact Or.inr (Or.inl ⟨.ok value, by simp only [step, act, complete, hs, he]⟩)
    | error f => exact Or.inr (Or.inr (Or.inr ⟨f, step_complete hs he⟩))
  | expire =>
    rw [step_expire hs he]
    split
    · exact Or.inr (Or.inl ⟨_, rfl⟩)
    · exact Or.inr (Or.inr (Or.inr ⟨_, rfl⟩))
  | wake =>
    rw [step, (act_of_not_takes (by simp [takes, hs, he])).2]
    exact Or.inl rfl
  | cancel => exact Or.inr (Or.inr (Or.inl (by simp only [step, act, cancel, hs, he])))

/-- The end of an attempt keeps a call in range. -/
theorem Ranged.step_running {a : RunningAttempt} (h : c.Ranged plan latest last)
    (hs : c.stage = .running a) (hdrawn : ∀ n, Backoff.Drawn (plan.factor n))
    (hle : last ≤ t.now) (hlatest : t.now ≤ latest) :
    (c.step plan t).Ranged plan latest t.now := by
  rcases step_of_running plan hs t with hstep | ⟨result, hstep⟩ | hstep | ⟨f, hstep⟩
  · rw [hstep]
    exact h.later hle
  · rw [hstep]
    exact ranged_finish _ _
  · rw [hstep]
    trivial
  · rw [hstep]
    unfold Ranged at h
    rw [hs] at h
    exact ranged_afterFailure h.1 h.2 hdrawn hle hlatest f

/-- **A patient turn keeps a call in range.** -/
theorem Ranged.step (h : c.Ranged plan latest last) (hc : c.Coherent plan)
    (hdrawn : ∀ n, Backoff.Drawn (plan.factor n)) (hle : last ≤ t.now) (hlatest : t.now ≤ latest)
    (hwake : ∀ w, c.stage = .waiting w → t.event = .wake → w ≤ t.now) :
    (c.step plan t).Ranged plan latest t.now := by
  by_cases hrun : ∃ a, c.stage = .running a
  · obtain ⟨a, hs⟩ := hrun
    exact h.step_running hs hdrawn hle hlatest
  -- no attempt runs, so nothing fails
  have hacted : Acted plan c t (c.mark? plan t) (c.act plan t).1 (c.step plan t) := acted hc t
  generalize c.mark? plan t = mark, (c.act plan t).1 = b, c.step plan t = c' at hacted ⊢
  cases hacted with
  | idle hidle => exact h.later hle
  | late hs he hd => exact ranged_finish _ _
  | refused hs he hd hb => exact ranged_finish _ _
  | started hs he hd hb hsince fits =>
    unfold Ranged at h
    rw [hs] at h
    refine ⟨?_, (h.2 (Nat.lt_of_le_of_lt hle hd)).later hle⟩
    show c.attempts + 1 + c.delays.remaining = _
    omega
  | @woken w hs he =>
    have hdue : w ≤ t.now := hwake w hs he
    unfold Ranged at h
    rw [hs] at h
    exact ⟨h.1, fun hlt => (h.2 (Nat.lt_of_le_of_lt hdue hlt)).later hdue⟩
  | left hs he => trivial
  | produced hs | failed hs | timedOut hs | cutShort hs | abandoned hs =>
    exact absurd ⟨_, hs⟩ hrun

/-- No patient run crashes a call in range. -/
theorem Ranged.not_crashed {turns : List (CallTurn α)} (h : c.Ranged plan latest last)
    (hc : c.Coherent plan) (hdrawn : ∀ n, Backoff.Drawn (plan.factor n))
    (hpatient : Patient plan latest last c turns) (fault : TimeFault) :
    (c.run plan turns).stage ≠ .crashed fault := by
  induction turns generalizing c last with
  | nil =>
    intro hs
    unfold Ranged at h
    change c.stage = .crashed fault at hs
    rw [hs] at h
    exact h
  | cons t turns ih =>
    obtain ⟨hle, hlatest, hwake, hrest⟩ := hpatient
    exact ih (h.step hc hdrawn hle hlatest hwake) (hc.step t) hrest

/-! ### A run that crashes -/

/-- The plan with factors that are the least ones before the attempt with a number, and the
greatest from it on. -/
def steep (plan : CallPlan) (k : Nat) : CallPlan :=
  { plan with factor := fun n => if n < k then Backoff.leastFactor else Backoff.greatestFactor }

theorem drawn_steep (plan : CallPlan) (k n : Nat) : Backoff.Drawn ((steep plan k).factor n) := by
  show Backoff.Drawn (if n < k then Backoff.leastFactor else Backoff.greatestFactor)
  split
  · exact Backoff.drawn_leastFactor
  · exact Backoff.drawn_greatestFactor

/-- A failure that may pass. -/
def outage : Failure := { category := .transient, message := "unavailable" }

/-- An attempt that is let through, and fails later in a way that may pass. -/
def failing (began ended : Nat) : List (CallTurn α) := [
  { now := began, breakers := {}, event := .attempt },
  { now := ended, breakers := {}, event := .complete (.error outage) }]

theorem step_attempt (plan : CallPlan) (hs : c.stage = .ready) (hlt : now < c.deadline) :
    ∃ a, c.step plan { now, breakers := {}, event := .attempt }
      = { c with attempts := c.attempts + 1, stage := .running a } := by
  let t : CallTurn α := { now, breakers := {}, event := .attempt }
  have hacted : Acted plan c t (c.mark? plan t) (c.act plan t).1 (c.step plan t) :=
    acted_attempt hs rfl
  show ∃ a, c.step plan t = _
  generalize c.mark? plan t = mark, (c.act plan t).1 = b, c.step plan t = c' at hacted ⊢
  cases hacted with
  | @started a hs he hd hb hsince fits => exact ⟨a, rfl⟩
  | idle hidle => simp [takes, hs, t] at hidle
  | late hs he hd => exact absurd hlt (Nat.not_lt_of_le hd)
  | refused hs he hd hb => cases hb
  | left hs he => cases he
  | produced hs' | failed hs' | timedOut hs' | cutShort hs' | woken hs' | abandoned hs' =>
    cases hs.symm.trans hs'

/-- Such an attempt leads to a delay or to an end. -/
theorem run_failing (plan : CallPlan) (ended : Nat) (hs : c.stage = .ready)
    (hlt : now < c.deadline) :
    ∃ a, c.run plan (failing now ended)
      = ({ c with attempts := c.attempts + 1, stage := .running a } : Call α).afterFailure plan
          ended outage := by
  obtain ⟨a, ha⟩ := step_attempt plan hs hlt
  refine ⟨a, ?_⟩
  rw [failing, run_cons, ha, run_cons, run_nil]
  exact step_complete rfl rfl

theorem patient_failing {ended : Nat} {turns : List (CallTurn α)} (hle : now ≤ ended)
    (hlatest : ended ≤ latest)
    (hrest : Patient plan latest ended (c.run plan (failing now ended)) turns) :
    Patient plan latest now c (failing now ended ++ turns) :=
  ⟨Nat.le_refl _, Nat.le_trans hle hlatest, nofun, hle, hlatest, nofun, hrest⟩

/-- A delay that cannot be scaled by the greatest factor, or does not end by then, is fatal after an
attempt that fails as late as it can. -/
theorem crash_failing (hs : c.stage = .ready) (hlt : now < c.deadline)
    (hmore : c.attempts + 1 < plan.retry.maxAttempts)
    (hfatal : ¬ ∃ x ∈ Backoff.scaled? Backoff.greatestFactor (c.delays.take plan.retry.maxDelay).1,
      latest + x.nanos < Clock.bound) :
    ∃ fault, (c.run (steep plan (c.attempts + 1)) (failing now latest)).stage = .crashed fault := by
  obtain ⟨a, hrun⟩ := run_failing (steep plan (c.attempts + 1)) latest hs hlt
  have hfactor : (steep plan (c.attempts + 1)).factor (c.attempts + 1)
      = Backoff.greatestFactor := if_neg (Nat.lt_irrefl _)
  rw [hrun, afterFailure_eq rfl hmore]
  rcases wakeUp_cases (steep plan (c.attempts + 1)) latest
    ({ c with attempts := c.attempts + 1, stage := .running a } : Call α)
    with ⟨-, hw⟩ | ⟨x, hx, ⟨-, hw⟩ | ⟨hle, -⟩⟩
  · rw [hw]
    exact ⟨_, rfl⟩
  · rw [hw]
    exact ⟨_, rfl⟩
  · rw [hfactor] at hx
    exact absurd ⟨x, hx, hle⟩ hfatal

/-- A delay that is as short as it can be, and ends before the deadline, is waited for. -/
theorem run_failing_wake {k : Nat} {x : Duration} (hs : c.stage = .ready) (hlt : now < c.deadline)
    (hmore : c.attempts + 1 < plan.retry.maxAttempts) (hk : c.attempts + 1 < k)
    (hbound : c.deadline < Clock.bound)
    (hx : Backoff.scaled? Backoff.leastFactor (c.delays.take plan.retry.maxDelay).1 = some x)
    (hbefore : Clock.onGrid (now + x.nanos) < c.deadline) :
    c.run (steep plan k) (failing now now) = { c with
      attempts := c.attempts + 1
      delays := (c.delays.take plan.retry.maxDelay).2
      stage := .waiting (Clock.onGrid (now + x.nanos)) } := by
  obtain ⟨a, hrun⟩ := run_failing (steep plan k) now hs hlt
  have hfactor : (steep plan k).factor (c.attempts + 1) = Backoff.leastFactor := if_pos hk
  have hin : now + x.nanos < c.deadline := Nat.lt_of_le_of_lt (Clock.le_onGrid _) hbefore
  have hwake : ({ c with attempts := c.attempts + 1, stage := .running a } : Call α).wakeUp
      (steep plan k) now = .ok (now + x.nanos) := by
    refine wakeUp_eq ?_ (Nat.lt_trans hin hbound)
    rw [hfactor]
    exact hx
  rw [hrun, afterFailure_eq rfl hmore, hwake]
  exact if_neg (Nat.not_le_of_lt hin)

/-- **Where the delays do not fit, some run crashes.** -/
theorem exists_crash (hs : c.stage = .ready)
    (hattempts : c.attempts + c.delays.remaining + 1 = plan.retry.maxAttempts)
    (hbound : c.deadline < Clock.bound) (hlt : now < c.deadline)
    (hfit : ¬ Backoff.DelaysFit c.deadline latest now (c.upcoming plan)) :
    ∃ k > c.attempts, ∃ turns, Patient (steep plan k) latest now c turns ∧
      ∃ fault, (c.run (steep plan k) turns).stage = .crashed fault := by
  generalize hn : c.delays.remaining = n at hattempts
  induction n generalizing c now with
  | zero =>
    have hnone : c.upcoming plan = [] := by rw [upcoming, hn, Backoff.delaysFrom]
    rw [hnone] at hfit
    exact absurd trivial hfit
  | succ n ih =>
    have htake := take_of_succ hn plan.retry.maxDelay
    have hmore : c.attempts + 1 < plan.retry.maxAttempts := by omega
    rw [upcoming_of_succ hn] at hfit
    have hnow : now ≤ latest := Backoff.DelaysFit.le_latest hfit
    rcases Backoff.DelaysFit.not_cons hfit with hlongest | ⟨x, hx, hbefore, hunfit⟩
    · -- this delay is fatal, if it begins as late and is as long as it can be
      refine ⟨c.attempts + 1, Nat.lt_succ_self _, failing now latest ++ [], ?_, ?_⟩
      · exact patient_failing hnow (Nat.le_refl _) trivial
      · rw [List.append_nil]
        refine crash_failing hs hlt hmore ?_
        rw [htake]
        exact hlongest
    · -- a later one is, if this one begins as early and is as short as it can be
      let woken : Call α := { c with
        attempts := c.attempts + 1
        delays := { remaining := n, delay := Backoff.next plan.retry.maxDelay c.delays.delay }
        stage := .ready }
      have hattempts' : woken.attempts + n + 1 = plan.retry.maxAttempts := by
        show c.attempts + 1 + n + 1 = _
        omega
      obtain ⟨k, hk, turns, hpatient, hcrash⟩ :=
        ih (c := woken) rfl hbound hbefore hunfit rfl hattempts'
      have hwaits : c.run (steep plan k) (failing now now)
          = { woken with stage := .waiting (Clock.onGrid (now + x.nanos)) } := by
        have htaken : (c.delays.take plan.retry.maxDelay).1 = c.delays.delay := by rw [htake]
        rw [run_failing_wake hs hlt hmore hk hbound (htaken ▸ hx) hbefore, htake]
      refine ⟨k, Nat.lt_of_succ_lt hk, failing now now ++
        { now := Clock.onGrid (now + x.nanos), breakers := {}, event := .wake } :: turns, ?_, ?_⟩
      · refine patient_failing (Nat.le_refl _) hnow ?_
        rw [hwaits]
        refine ⟨?_, Backoff.DelaysFit.le_latest hunfit, ?_, hpatient⟩
        · exact Nat.le_trans (Nat.le_add_right _ _) (Clock.le_onGrid _)
        · rintro w ⟨rfl⟩ -
          exact Nat.le_refl _
      · rw [run_append, hwaits]
        exact hcrash

end Call

/-! ### Settings in range -/

/-- Settings of retries with which every time of a call can be computed that starts then, as long as
the clock reads `latest` at most. -/
def RetrySettings.InRange (s : RetrySettings) (start latest : Nat) : Prop :=
  start + s.deadline.nanos < Clock.bound ∧
    Backoff.DelaysFit (start + s.deadline.nanos) latest start (Backoff.delays s)

instance (s : RetrySettings) (start latest : Nat) : Decidable (s.InRange start latest) :=
  inferInstanceAs (Decidable (_ ∧ _))

/-- A longest delay of less than `2 ^ 60` seconds is in range, if the deadline is a time and the
clock reads less than `2 ^ 62` seconds. -/
theorem RetrySettings.inRange_of_secs_lt {s : RetrySettings} {start : Nat}
    (hdelays : s.baseDelay ≤ s.maxDelay) (hlong : s.maxDelay.secs < 2 ^ 60)
    (hdeadline : start + s.deadline.nanos < Clock.bound)
    (hlatest : latest < 2 ^ 62 * Duration.perSecond) : s.InRange start latest := by
  refine ⟨hdeadline, Backoff.DelaysFit.of_secs_lt (fun d hd => ?_) hlatest⟩
  have hle : d.secs ≤ s.maxDelay.secs :=
    Nat.div_le_div_right (Backoff.le_longest_of_mem hdelays d hd)
  exact Nat.lt_of_le_of_lt hle hlong

namespace Call

theorem start_eq {start : Nat} (h : start + plan.retry.deadline.nanos < Clock.bound) :
    (Call.start plan start : Call α) = {
      deadline := start + plan.retry.deadline.nanos
      delays := Backoff.Schedule.ofSettings plan.retry
      stage := .ready } := by
  unfold Call.start Clock.after?
  rw [if_pos h]

/-- A call whose settings are in range begins in range. -/
theorem ranged_start {start : Nat} (hmax : plan.retry.maxAttempts ≠ 0)
    (h : plan.retry.InRange start latest) :
    (Call.start plan start : Call α).Ranged plan latest start := by
  rw [start_eq h.1]
  refine ⟨?_, fun _ => h.2⟩
  show 0 + (plan.retry.maxAttempts - 1) + 1 = plan.retry.maxAttempts
  omega

/-- Settings that are not in range crash some call. -/
theorem exists_crash_start (plan : CallPlan) {start : Nat} (hretry : plan.retry.Valid)
    (h : ¬ plan.retry.InRange start latest) :
    ∃ k, ∃ turns : List (CallTurn α),
      Patient (steep plan k) latest start (Call.start plan start) turns ∧
        ∃ fault, ((Call.start plan start).run (steep plan k) turns).stage = .crashed fault := by
  by_cases hbound : start + plan.retry.deadline.nanos < Clock.bound
  · let c : Call α := Call.start plan start
    have hc : c = _ := start_eq hbound
    have hattempts : c.attempts + c.delays.remaining + 1 = plan.retry.maxAttempts := by
      rw [hc]
      show 0 + (plan.retry.maxAttempts - 1) + 1 = plan.retry.maxAttempts
      have hmax := hretry.attempts_ne_zero
      omega
    have hlt : start < c.deadline := by
      rw [hc]
      exact Nat.lt_add_of_pos_right hretry.deadline_pos
    have hfit : ¬ Backoff.DelaysFit c.deadline latest start (c.upcoming plan) := by
      rw [hc]
      exact fun hfit => h ⟨hbound, hfit⟩
    obtain ⟨k, -, hcrash⟩ := exists_crash (by rw [hc]) hattempts (by rw [hc]; exact hbound) hlt hfit
    exact ⟨k, hcrash⟩
  · refine ⟨0, [], trivial, ?_⟩
    rcases start_cases (α := α) plan start with ⟨-, hafter, -⟩ | ⟨delays, -, hstart⟩
    · rw [Clock.after?, if_neg hbound] at hafter
      cases hafter
    · rw [run_nil, hstart]
      exact ⟨_, rfl⟩

/-- **A configuration that is accepted can crash no call, exactly if its settings are in range.** -/
theorem never_crashes_iff (config : Config) (hvalid : config.validate = .ok ())
    (start latest : Nat) :
    (∀ (backend : String) (timeout : Duration) (factor : Nat → BinaryFraction)
        (turns : List (CallTurn α)),
      let plan := (Guards.ofConfig config).plan backend timeout factor
      (∀ n, Backoff.Drawn (factor n)) → Patient plan latest start (Call.start plan start) turns →
        ∀ fault, ((Call.start plan start).run plan turns).stage ≠ .crashed fault) ↔
      config.resilience.retry.InRange start latest := by
  have hretry : config.resilience.retry.Valid := (Config.validate_eq_ok_iff.mp hvalid).retry
  constructor
  · intro hnever
    by_contra hout
    let plan := (Guards.ofConfig config).plan "" Duration.zero fun _ => Backoff.leastFactor
    obtain ⟨k, turns, hpatient, fault, hcrash⟩ :=
      exists_crash_start (α := α) plan hretry hout
    exact hnever "" Duration.zero (steep plan k).factor turns (drawn_steep plan k) hpatient fault
      hcrash
  · intro hin backend timeout factor turns plan hdrawn hpatient
    exact (ranged_start hretry.attempts_ne_zero hin).not_crashed (coherent_start plan start) hdrawn
      hpatient

namespace Example

/-- A configuration with such a deadline and such delays. -/
def waiting (deadline delay : Duration) : Config where
  routing := { defaultBackend := "gpt" }
  resilience := { retry := { deadline, baseDelay := delay, maxDelay := delay } }

/-- An attempt that fails at once. -/
def unavailable : List (CallTurn Unit) := failing 0 0

end Example

open Example in
/-- Delays of ten seconds in a minute, with a clock that reads a thousand years at most. -/
theorem never_crashes_of_short_delays :
    let config := waiting (.ofSecs 60) (.ofSecs 10)
    let latest := 31557600000 * Duration.perSecond
    config.validate = .ok () ∧ config.resilience.retry.InRange 0 latest ∧
    ∀ (backend : String) (timeout : Duration) (factor : Nat → BinaryFraction)
        (turns : List (CallTurn Unit)),
      let plan := (Guards.ofConfig config).plan backend timeout factor
      (∀ n, Backoff.Drawn (factor n)) → Patient plan latest 0 (Call.start plan 0) turns →
        ∀ fault, ((Call.start plan 0).run plan turns).stage ≠ .crashed fault := by
  intro config latest
  have hvalid : config.validate = .ok () := by decide +kernel
  have hin : config.resilience.retry.InRange 0 latest :=
    RetrySettings.inRange_of_secs_lt (by decide) (by decide) (by decide) (by decide)
  exact ⟨hvalid, hin, (never_crashes_iff config hvalid 0 latest).mpr hin⟩

open Example in
/-- Accepted settings crash a call in each way: the deadline is no time, the delay cannot be scaled,
or its end is no time. -/
theorem crashed_in_each_way :
    let longest : Duration := .ofSecs 18446744073709551615
    let plan config factor := (Guards.ofConfig config).plan "gpt" (.ofSecs 30) fun _ => factor
    let late := plan (waiting longest .zero) ⟨1, 0⟩
    let stretched := plan (waiting (.ofSecs 60) longest) ⟨1, 0⟩
    let halved := plan (waiting (.ofSecs 60) longest) Backoff.leastFactor
    (waiting longest .zero).validate = .ok () ∧
      (waiting (.ofSecs 60) longest).validate = .ok () ∧
      Backoff.Drawn ⟨1, 0⟩ ∧ Backoff.Drawn Backoff.leastFactor ∧
    (Call.start late 0 : Call Unit).stage = .crashed .deadline ∧
    ((Call.start stretched 0).run stretched unavailable).stage = .crashed .delay ∧
    ((Call.start halved 0).run halved unavailable).stage = .crashed .wakeUp := by
  intro longest plan late stretched halved
  refine ⟨by decide +kernel, by decide +kernel, by decide, Backoff.drawn_leastFactor, ?_, ?_, ?_⟩
  · exact fault?_eq_some.mp (by decide +kernel)
  · exact fault?_eq_some.mp (by decide +kernel)
  · exact fault?_eq_some.mp (by decide +kernel)

end Call

end Dispatch
