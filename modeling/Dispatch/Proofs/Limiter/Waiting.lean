/-
Dispatch/Proofs/Limiter/Waiting.lean

How long a caller has to wait for a token.

A caller that is refused is told to wait until its bucket has gained what is missing to a whole
token (`wait`), rounded to the nearest nanosecond.  After as much time as it is told, and not
before, it should be granted one.

It is never granted one before (`refused_before_wait`).  Fewer whole nanoseconds than it is told are
less than the exact wait, so the bucket is short of a token until then.  What is tried meanwhile is
refused and takes nothing, and counting the bucket anew changes nothing either; nor is the caller
forgotten, for a refill time is no shorter than any wait.  This is what `KeptWaiting` says of a
state, and every turn before the time preserves it.

When the time has passed, the token is there unless the wait was rounded down: then the caller is
refused once more, by a fraction of a nanosecond, if it has not been forgotten meanwhile
(`granted_after_wait_iff`).  A nanosecond later it is granted a token in any case.
-/
import Dispatch.Proofs.Limiter.Availability

namespace Dispatch

namespace Limiter

/-- The seconds in which a caller that has no token gains what is missing. -/
def wait (l : Limiter Rat) (caller : String) (now : Nat) : Rat :=
  (1 - l.available caller now) / l.refillRate

variable {l : Limiter Rat} {caller : String} {t : LimiterTurn} {ts : List LimiterTurn}
  {now n till : Nat} {d : Duration}

/-! ### Being refused -/

theorem one_le_capacity_run {capacity : Nat} (h : 1 ≤ capacity) {refillRate : Rat}
    {maxTracked : Nat} (ts : List LimiterTurn) :
    1 ≤ ((exact capacity refillRate maxTracked).run ts).capacity := by
  rw [capacity_run]
  exact Nat.one_le_cast.mpr h

/-- Who is refused has no token, and is told the rounded wait. -/
theorem acquire_eq_error_iff :
    (l.acquire caller now).2 = .error d ↔
      l.available caller now < 1 ∧ TokenCount.duration (l.wait caller now) = d := by
  have hanswer : (l.acquire caller now).2
      = if 1 ≤ l.available caller now then .ok ()
        else .error (TokenCount.duration (l.wait caller now)) := by
    rw [acquire_eq, counted_eq]
    show l.answer _ = _
    unfold answer
    simp only [hasToken_eq, decide_eq_true_eq]
    rfl
  rw [hanswer]
  by_cases hone : 1 ≤ l.available caller now
  · rw [if_pos hone]
    exact iff_of_false nofun fun h => absurd h.1 (not_lt.mpr hone)
  · rw [if_neg hone, Except.error.injEq, and_iff_right (not_le.mp hone)]

theorem wait_nonneg (hrate : 0 < l.refillRate) (h : l.available caller now < 1) :
    0 ≤ l.wait caller now :=
  div_nonneg (sub_nonneg.mpr h.le) hrate.le

/-- No wait is longer than a refill time. -/
theorem duration_wait_le (hl : l.Sound) (hcapacity : 1 ≤ l.capacity)
    (h : l.available caller now < 1) :
    TokenCount.duration (l.wait caller now) ≤ l.refillTime := by
  have hmissing : 1 - l.available caller now ≤ l.capacity := by
    linarith [hl.available_nonneg caller now]
  exact duration_mono (wait_nonneg hl.refillRate h)
    (div_le_div_of_nonneg_right hmissing hl.refillRate.le)

/-- After a refusal there is a whole token as soon as the exact wait is over. -/
theorem one_le_available_after_refusal_iff (hrate : 0 < l.refillRate) (hcapacity : 1 ≤ l.capacity)
    (hby : t.isBy caller = true) (h : l.available caller t.now < 1) :
    1 ≤ (l.step t).available caller n ↔
      l.wait caller t.now ≤ (n - t.now : Nat) / Duration.perSecond := by
  have hleft : left (l.available caller t.now) = l.available caller t.now :=
    if_neg (not_le.mpr h)
  rw [available_after_attempt hby, hleft, le_min_iff, and_iff_left hcapacity]
  unfold wait gain
  rw [div_le_iff₀ hrate]
  constructor <;> intro hle <;> linarith

/-! ### Not before -/

/-- A caller has no token before a time, and is not forgotten before it. -/
structure KeptWaiting (l : Limiter Rat) (caller : String) (now till : Nat) : Prop where
  short : ∀ {n}, now ≤ n → n < till → l.available caller n < 1
  bucket : ∃ b, l.buckets.get? caller = some b ∧ b.countedAt ≤ now ∧
    till ≤ b.countedAt + l.refillTime.nanos

/-- Who is refused is kept waiting as long as it is told. -/
theorem KeptWaiting.of_refused (hl : l.Sound) (hcapacity : 1 ≤ l.capacity)
    (h : (l.acquire caller now).2 = .error d) :
    (l.step (.acquire caller now)).KeptWaiting caller now (now + d.nanos) := by
  obtain ⟨hshort, rfl⟩ := acquire_eq_error_iff.mp h
  have hby := LimiterTurn.isBy_acquire caller now
  refine ⟨fun {n} hnow hn => not_le.mp fun hone => ?_, _, get?_step_of_isBy hby l, le_rfl, ?_⟩
  · have hwaited := (one_le_available_after_refusal_iff hl.refillRate hcapacity hby hshort).mp hone
    have hless : n - now < (TokenCount.duration (l.wait caller now)).nanos := by omega
    exact absurd (lt_of_lt_duration (wait_nonneg hl.refillRate hshort) hless) (not_lt.mpr hwaited)
  · rw [refillTime_step]
    exact Nat.add_le_add_left (duration_wait_le hl hcapacity hshort) now

/-- Whatever is done before the time, a caller is kept waiting. -/
theorem KeptWaiting.step (h : l.KeptWaiting caller now till) (hnow : now ≤ t.now)
    (htill : t.now < till) : (l.step t).KeptWaiting caller t.now till := by
  obtain ⟨b, hb, hcounted, hidle⟩ := h.bucket
  cases hby : t.isBy caller with
  | true =>
    refine ⟨fun {n} hle hlt => ?_, _, get?_step_of_isBy hby l, le_rfl, ?_⟩
    · -- the attempt comes after the last count, so it earns nothing
      refine (available_after_attempt_le_of_counted hby (fun b' hb' => ?_) hle).trans_lt
        (h.short (hnow.trans hle) hlt)
      obtain rfl := Option.some.inj (hb.symm.trans hb')
      exact hcounted.trans hnow
    · rw [refillTime_step]
      show till ≤ t.now + l.refillTime.nanos
      omega
  | false =>
    have hkept : (l.step t).buckets.get? caller = l.buckets.get? caller := by
      refine get?_step_of_not_forgets hby fun hforgets => ?_
      -- a refill time from the last count ends at `till` or later
      obtain ⟨b', hb', hlong⟩ := hforgets.idle
      obtain rfl := Option.some.inj (hb.symm.trans hb')
      omega
    refine ⟨fun {n} hle hlt => ?_, b, hkept.trans hb, hcounted.trans hnow, ?_⟩
    · rw [available_step_of_get?_eq hkept]
      exact h.short (hnow.trans hle) hlt
    · rw [refillTime_step]
      exact hidle

/-- Who is kept waiting until a time is refused before it. -/
theorem KeptWaiting.refused (h : l.KeptWaiting caller now till) (htimes : Timely ts)
    (hnow : ∀ t ∈ ts, now ≤ t.now) :
    ∀ a ∈ l.attempts caller ts, a.1 < till → a.2.isOk = false := by
  induction ts generalizing l now with
  | nil => nofun
  | cons t ts ih =>
    intro a ha hlt
    have hle : now ≤ t.now := hnow t List.mem_cons_self
    have htill : t.now < till := by
      obtain ⟨u, hu, hua⟩ := exists_of_mem_attempts ha
      rcases List.mem_cons.mp hu with rfl | hu
      · exact hua ▸ hlt
      · exact (htimes.le hu).trans_lt (hua ▸ hlt)
    have hrest := ih (h.step hle htill) htimes.tail fun u hu => htimes.le hu
    cases hby : t.isBy caller with
    | true =>
      rw [attempts_cons_of_isBy hby] at ha
      rcases List.mem_cons.mp ha with rfl | ha
      · rw [isOk_acquire, decide_eq_false_iff_not]
        exact not_le.mpr (h.short hle htill)
      · exact hrest a ha hlt
    | false =>
      rw [attempts_cons_of_not_isBy hby] at ha
      exact hrest a ha hlt

/-- **Nobody is told to wait too long.**  Whoever has used a limiter, in whatever way: if a caller is
refused and told to wait, every later attempt of the caller before that time has passed is refused,
too, however many it makes and whatever others do meanwhile, as long as the clock does not go
backwards from then on. -/
theorem refused_before_wait (capacity : Nat) (hcapacity : 1 ≤ capacity) {refillRate : Rat}
    (hrate : 0 < refillRate) (maxTracked : Nat) (turns later : List LimiterTurn) (caller : String)
    {now : Nat} {d : Duration} (htimes : Timely (.acquire caller now :: later))
    (hrefused : (((exact capacity refillRate maxTracked).run turns).acquire caller now).2
      = .error d) :
    ∀ a ∈ ((exact capacity refillRate maxTracked).run
        (turns ++ [.acquire caller now])).attempts caller later,
      a.1 < now + d.nanos → a.2.isOk = false := by
  have hsound := (sound_exact capacity hrate maxTracked).run turns
  rw [run_append]
  exact (KeptWaiting.of_refused hsound (one_le_capacity_run hcapacity turns) hrefused).refused
    htimes.tail fun t ht => htimes.le ht

/-- At three tokens a second, who has spent its only one is told to wait a third of a second, and is
refused up to the last nanosecond, though meanwhile others make room and prune. -/
theorem refused_to_last_nanosecond :
    let turns : List LimiterTurn := [.acquire "alice" 0]
    let later : List LimiterTurn := [
      .acquire "alice" 200000000, .acquire "bob" 200000000, .prune .zero 333333332,
      .acquire "alice" 333333332]
    let l := exact 1 3 1
    let d : Duration := ⟨333333333, by decide⟩
    (1 ≤ 1 ∧ (0 : Rat) < 3 ∧ Timely (.acquire "alice" 0 :: later) ∧
      ((l.run turns).acquire "alice" 0).2 = .error d) ∧
    ((l.run (turns ++ [.acquire "alice" 0])).attempts "alice" later).map Prod.fst
      = [200000000, 333333332] ∧
    ∀ a ∈ (l.run (turns ++ [.acquire "alice" 0])).attempts "alice" later,
      a.1 < 0 + d.nanos → a.2.isOk = false := by
  intro turns later l d
  have hrate : (0 : Rat) < 3 := by norm_num
  have htimes : Timely (.acquire "alice" 0 :: later) := by decide
  have hrefused : ((l.run turns).acquire "alice" 0).2 = .error d := by
    rw [acquire_eq_error_iff]
    decide +kernel
  refine ⟨⟨le_rfl, hrate, htimes, hrefused⟩, by decide +kernel, ?_⟩
  exact refused_before_wait 1 le_rfl hrate 1 turns later "alice" htimes hrefused

/-! ### Then, or a nanosecond later -/

/-- **When waiting as long as one is told is enough.**  Whoever has used a limiter, in whatever way:
if a caller is refused and told to wait, and does not try again until that time has passed, whatever
others do meanwhile, it is granted a token exactly if more time has passed than that, or the exact
wait is no longer than what it was told, so that nothing was rounded down, or the caller has been
forgotten. -/
theorem granted_after_wait_iff (capacity : Nat) (hcapacity : 1 ≤ capacity) {refillRate : Rat}
    (hrate : 0 < refillRate) (maxTracked : Nat) (turns others : List LimiterTurn) (caller : String)
    {now n : Nat} {d : Duration}
    (hrefused : (((exact capacity refillRate maxTracked).run turns).acquire caller now).2
      = .error d)
    (hd : d < Duration.max) (hothers : ∀ t ∈ others, t.isBy caller = false)
    (hn : now + d.nanos ≤ n) :
    let l := (exact capacity refillRate maxTracked).run turns
    let l' := l.run (.acquire caller now :: others)
    (l'.acquire caller n).2.isOk = true ↔
      now + d.nanos < n ∨ l.wait caller now ≤ d.nanos / Duration.perSecond ∨
        l'.buckets.get? caller = none := by
  intro l l'
  have hone : 1 ≤ l.capacity := one_le_capacity_run hcapacity turns
  have hrate' : 0 < l.refillRate := ((sound_exact capacity hrate maxTracked).run turns).refillRate
  have hby := LimiterTurn.isBy_acquire caller now
  obtain ⟨hshort, rfl⟩ := acquire_eq_error_iff.mp hrefused
  rw [isOk_acquire, decide_eq_true_eq]
  cases hbucket : l'.buckets.get? caller with
  | none =>
    -- who has been forgotten has a full bucket
    rw [available_of_none hbucket]
    refine iff_of_true ?_ (Or.inr (Or.inr rfl))
    rw [capacity_run]
    exact hone
  | some b =>
    have hkept := (get?_run_of_not_isBy (l := l.step (.acquire caller now)) hothers).resolve_right
      fun hnone => nomatch hbucket.symm.trans hnone
    have hsame : l'.available caller n = (l.step (.acquire caller now)).available caller n :=
      available_congr (capacity_run _ others) (refillRate_run _ others) hkept n
    rw [hsame, one_le_available_after_refusal_iff hrate' hone hby hshort]
    show l.wait caller now ≤ (n - now : Nat) / Duration.perSecond ↔ _
    rcases hn.eq_or_lt with rfl | hlater
    · rw [Nat.add_sub_cancel_left]
      simp
    · -- the rounded wait is less than a nanosecond too short
      have hmax : TokenCount.duration (l.wait caller now) ≠ Duration.max := fun hmax =>
        absurd hd (hmax ▸ Nat.lt_irrefl _)
      exact iff_of_true (le_of_duration_lt hmax (Nat.lt_sub_iff_add_lt'.mpr hlater))
        (Or.inl hlater)

/-- At three tokens in two seconds a token takes two thirds of a second, which are rounded up: who
waits as long as it is told is granted one. -/
theorem granted_when_wait_is_rounded_up :
    let turns : List LimiterTurn := [.acquire "alice" 0]
    let others : List LimiterTurn := [.acquire "bob" 600000000, .prune .zero 666666666]
    let l := (exact 1 (3 / 2) 1).run turns
    let d : Duration := ⟨666666667, by decide⟩
    (1 ≤ 1 ∧ (0 : Rat) < 3 / 2 ∧ (l.acquire "alice" 0).2 = .error d ∧ d < Duration.max ∧
      (∀ t ∈ others, t.isBy "alice" = false) ∧ 0 + d.nanos ≤ 666666667) ∧
    ((l.run (.acquire "alice" 0 :: others)).acquire "alice" 666666667).2.isOk = true := by
  intro turns others l d
  have hrate : (0 : Rat) < 3 / 2 := by norm_num
  have hrefused : (l.acquire "alice" 0).2 = .error d := by
    rw [acquire_eq_error_iff]
    decide +kernel
  have hd : d < Duration.max := by decide
  have hothers : ∀ t ∈ others, t.isBy "alice" = false := by decide
  have hn : 0 + d.nanos ≤ 666666667 := by decide
  have hwait : l.wait "alice" 0 ≤ d.nanos / Duration.perSecond := by decide +kernel
  refine ⟨⟨le_rfl, hrate, hrefused, hd, hothers, hn⟩, ?_⟩
  exact (granted_after_wait_iff 1 le_rfl hrate 1 turns others "alice" hrefused hd hothers hn).mpr
    (Or.inr (Or.inl hwait))

/-- At three tokens a second a token takes a third of a second, which is rounded down: who waits as
long as it is told is refused once more, and told to wait for no time at all. -/
theorem refused_when_wait_is_rounded_down :
    let l := (exact 1 3 10000).run [.acquire "alice" 0]
    let d : Duration := ⟨333333333, by decide⟩
    Timely [.acquire "alice" 0, .acquire "alice" 0, .acquire "alice" (0 + d.nanos)] ∧
    (l.acquire "alice" 0).2 = .error d ∧ d < Duration.max ∧
    ((l.run [.acquire "alice" 0]).acquire "alice" (0 + d.nanos)).2 = .error .zero := by
  intro l d
  refine ⟨by decide, ?_, by decide, ?_⟩
  · rw [acquire_eq_error_iff]
    decide +kernel
  · rw [acquire_eq_error_iff]
    decide +kernel

end Limiter

end Dispatch
