/-
Dispatch/Proofs/Limiter/Tokens.lean

Tokens counted exactly.

Over quotients, the tokens of a caller at a time are a matter of arithmetic: what it had when its
bucket was counted, and what it has gained since (`gain`), up to the capacity.  `available` says
what that is, for callers with and without a bucket, and an attempt is answered by it alone: it is
granted exactly if there is a whole token (`isOk_acquire`).  As time passes the tokens of a caller
only become more, by what it gains at most (`available_mono`, `available_le_add_gain`).

Nobody is ever in debt (`Sound`).
-/
import Mathlib.Algebra.Order.Field.Rat
import Mathlib.Tactic.Linarith
import Dispatch.Proofs.Limiter.Attempts
import Dispatch.Proofs.Number.Rounding

namespace Dispatch

/-! ### Seconds as a duration -/

/-- A duration is at most half a nanosecond shorter than the seconds that it was made of. -/
theorem Duration.two_mul_le_of_ofRat? {x : Rat} {d : Duration} (h : Duration.ofRat? x = some d) :
    2 * (x * Duration.perSecond) ≤ 2 * d.nanos + 1 := by
  unfold Duration.ofRat? at h
  split at h
  · cases h
  · next hx =>
    have hnum : (0 : Int) ≤ x.num := Rat.num_nonneg.mpr (not_lt.mp hx)
    have hden : (0 : Rat) < x.den := by exact_mod_cast x.den_pos
    have hround : 2 * (x.num.toNat * Duration.perSecond) ≤ (2 * d.nanos + 1) * x.den := by
      rw [Duration.ofNanos?_eq_some.mp h]
      exact two_mul_le_roundDiv x.den_pos
    have hcast : 2 * ((x.num : Rat) * Duration.perSecond) ≤ (2 * d.nanos + 1) * x.den := by
      have htoNat : ((x.num.toNat : Nat) : Rat) = x.num := by
        exact_mod_cast Int.toNat_of_nonneg hnum
      rw [← htoNat]
      exact_mod_cast hround
    have hx' : x * x.den = x.num := Rat.mul_den_eq_num x
    rw [← hx'] at hcast
    refine le_of_mul_le_mul_right ?_ hden
    linarith

section

open TokenCount

variable {x y : Rat} {n : Nat}

/-- Seconds are rounded to whole nanoseconds, and cut off at the longest duration. -/
theorem nanos_duration (hx : 0 ≤ x) :
    (duration x).nanos
      = min (roundDiv (x.num.toNat * Duration.perSecond) x.den) Duration.max.nanos := by
  show ((Duration.ofRat? x).getD Duration.max).nanos = _
  unfold Duration.ofRat?
  rw [if_neg (not_lt.mpr hx)]
  exact Duration.nanos_saturating _

/-- A number of seconds against a quotient, in whole numbers. -/
theorem le_div_perSecond_iff (hx : 0 ≤ x) :
    x ≤ n / Duration.perSecond ↔ x.num.toNat * Duration.perSecond ≤ n * x.den := by
  have hper : (0 : Rat) < Duration.perSecond := by norm_num [Duration.perSecond]
  have hden : (0 : Rat) < x.den := by exact_mod_cast x.den_pos
  have hnum : ((x.num.toNat : Nat) : Rat) = x * x.den := by
    rw [Rat.mul_den_eq_num]
    exact_mod_cast Int.toNat_of_nonneg (Rat.num_nonneg.mpr hx)
  have hcast : x.num.toNat * Duration.perSecond ≤ n * x.den
      ↔ x * x.den * Duration.perSecond ≤ n * x.den := by
    rw [← hnum]
    exact_mod_cast Iff.rfl
  rw [hcast, le_div_iff₀ hper, mul_right_comm]
  exact (mul_le_mul_iff_left₀ hden).symm

/-- More seconds are no shorter duration. -/
theorem duration_mono (hx : 0 ≤ x) (hxy : x ≤ y) : duration x ≤ duration y := by
  have hy : 0 ≤ y := hx.trans hxy
  show (duration x).nanos ≤ (duration y).nanos
  rw [nanos_duration hx, nanos_duration hy]
  refine min_le_min_right _ (roundDiv_mono x.den_pos y.den_pos ?_)
  have hnum : x.num.toNat * y.den ≤ y.num.toNat * x.den := by
    have hle := (Rat.le_iff x y).mp hxy
    have hnx := Int.toNat_of_nonneg (Rat.num_nonneg.mpr hx)
    have hny := Int.toNat_of_nonneg (Rat.num_nonneg.mpr hy)
    rw [← hnx, ← hny] at hle
    exact_mod_cast hle
  rw [Nat.mul_right_comm, Nat.mul_right_comm y.num.toNat]
  exact Nat.mul_le_mul_right _ hnum

/-- A whole number of nanoseconds that is less than a duration is less than the seconds that it was
made of, though these may have been rounded up. -/
theorem lt_of_lt_duration (hx : 0 ≤ x) (h : n < (duration x).nanos) :
    n / Duration.perSecond < x := by
  by_contra hle
  have hround : roundDiv (x.num.toNat * Duration.perSecond) x.den ≤ n :=
    roundDiv_le_of_le x.den_pos ((le_div_perSecond_iff hx).mp (not_lt.mp hle))
  rw [nanos_duration hx] at h
  exact absurd (h.trans_le (min_le_left _ _)) (not_lt.mpr hround)

/-- A whole number of nanoseconds that is more than a duration is no less than the seconds that it
was made of, though these may have been rounded down. -/
theorem le_of_duration_lt (hmax : duration x ≠ Duration.max) (h : (duration x).nanos < n) :
    x ≤ n / Duration.perSecond := by
  have hround : 2 * (x * Duration.perSecond) ≤ 2 * (duration x).nanos + 1 := by
    have hduration : duration x = (Duration.ofRat? x).getD Duration.max := rfl
    cases hd : Duration.ofRat? x with
    | none =>
      rw [hd] at hduration
      exact absurd hduration hmax
    | some d =>
      rw [hd] at hduration
      rw [hduration]
      exact Duration.two_mul_le_of_ofRat? hd
  have hn : ((duration x).nanos : Rat) + 1 ≤ n := by exact_mod_cast h
  have hper : (0 : Rat) < Duration.perSecond := by norm_num [Duration.perSecond]
  rw [le_div_iff₀ hper]
  linarith

end

namespace Limiter

/-- A limiter that counts exactly, without buckets. -/
def exact (capacity : Nat) (refillRate : Rat) (maxTracked : Nat) : Limiter Rat where
  capacity := capacity
  refillRate := refillRate
  maxTracked := maxTracked

variable {l : Limiter Rat} {caller : String} {b : Bucket Rat} {t : LimiterTurn} {now m n : Nat}

/-! ### Gains -/

/-- What a caller gains in a number of nanoseconds, as long as its bucket is not full. -/
def gain (l : Limiter Rat) (nanos : Nat) : Rat := nanos / Duration.perSecond * l.refillRate

@[simp] theorem gain_zero (l : Limiter Rat) : l.gain 0 = 0 := by simp [gain]

theorem gain_add (l : Limiter Rat) (m n : Nat) : l.gain (m + n) = l.gain m + l.gain n := by
  simp only [gain, Nat.cast_add, add_div, add_mul]

@[simp] theorem gain_step (l : Limiter Rat) (t : LimiterTurn) :
    (l.step t).gain n = l.gain n := by
  simp [gain]

theorem gain_nonneg (h : 0 ≤ l.refillRate) (n : Nat) : 0 ≤ l.gain n :=
  mul_nonneg (div_nonneg (Nat.cast_nonneg n) (Nat.cast_nonneg _)) h

theorem gain_mono (h : 0 ≤ l.refillRate) (hmn : m ≤ n) : l.gain m ≤ l.gain n := by
  obtain ⟨k, rfl⟩ := Nat.exists_eq_add_of_le hmn
  rw [gain_add]
  exact le_add_of_nonneg_right (gain_nonneg h k)

/-- Who waits for more than a refill time gains all that a bucket can hold. -/
theorem capacity_le_gain (hrate : 0 < l.refillRate) (hmax : l.refillTime ≠ Duration.max)
    (hn : l.refillTime.nanos < n) : l.capacity ≤ l.gain n := by
  unfold gain
  rw [← div_le_iff₀ hrate]
  exact le_of_duration_lt hmax hn

/-! ### Tokens of a caller -/

theorem tokens_refill (l : Limiter Rat) (b : Bucket Rat) (now : Nat) :
    (l.refill b now).tokens = min (b.tokens + l.gain (now - b.countedAt)) l.capacity := by
  show (if _ < l.capacity then _ else l.capacity) = _
  rw [min_def_lt]
  rfl

theorem available_of_none (h : l.buckets.get? caller = none) (now : Nat) :
    l.available caller now = l.capacity := by
  unfold available
  rw [h]

theorem available_of_some (h : l.buckets.get? caller = some b) (now : Nat) :
    l.available caller now = min (b.tokens + l.gain (now - b.countedAt)) l.capacity := by
  unfold available
  rw [h]
  exact tokens_refill l b now

/-- What an attempt finds is what is there. -/
theorem counted_eq (l : Limiter Rat) (caller : String) (now : Nat) :
    l.counted caller now = { tokens := l.available caller now, countedAt := now } := by
  have htokens : (l.counted caller now).tokens = l.available caller now := by
    unfold counted bucketOf
    cases hb : l.buckets.get? caller with
    | none => simp [tokens_refill, available_of_none hb]
    | some b => exact (tokens_refill l b now).trans (available_of_some hb now).symm
  rw [← htokens]
  rfl

theorem available_le_capacity (l : Limiter Rat) (caller : String) (now : Nat) :
    l.available caller now ≤ l.capacity := by
  cases hb : l.buckets.get? caller with
  | none => exact (available_of_none hb now).le
  | some b => exact (available_of_some hb now).trans_le (min_le_right _ _)

/-- Tokens only become more. -/
theorem available_mono (h : 0 ≤ l.refillRate) (hmn : m ≤ n) :
    l.available caller m ≤ l.available caller n := by
  cases hb : l.buckets.get? caller with
  | none => rw [available_of_none hb, available_of_none hb]
  | some b =>
    rw [available_of_some hb, available_of_some hb]
    have hgain := gain_mono h (Nat.sub_le_sub_right hmn b.countedAt)
    exact min_le_min_right _ (by linarith)

/-- Tokens become more by what is gained, at most. -/
theorem available_le_add_gain (h : 0 ≤ l.refillRate) (m n : Nat) :
    l.available caller n ≤ l.available caller m + l.gain (n - m) := by
  have hgain := gain_nonneg h (n - m)
  cases hb : l.buckets.get? caller with
  | none =>
    rw [available_of_none hb, available_of_none hb]
    linarith
  | some b =>
    rw [available_of_some hb, available_of_some hb, ← min_add_add_right]
    have hsplit : l.gain (n - b.countedAt) ≤ l.gain (m - b.countedAt) + l.gain (n - m) := by
      rw [← gain_add]
      exact gain_mono h (by omega)
    exact min_le_min (by linarith) (by linarith)

/-- Tokens are a matter of the bucket, the rate and the capacity. -/
theorem available_congr {l l' : Limiter Rat} (hcapacity : l'.capacity = l.capacity)
    (hrate : l'.refillRate = l.refillRate)
    (hbucket : l'.buckets.get? caller = l.buckets.get? caller) (now : Nat) :
    l'.available caller now = l.available caller now := by
  unfold available refill
  rw [hbucket, hcapacity, hrate]

/-- A turn that leaves the bucket of a caller leaves its tokens. -/
theorem available_step_of_get?_eq (h : (l.step t).buckets.get? caller = l.buckets.get? caller)
    (now : Nat) : (l.step t).available caller now = l.available caller now :=
  available_congr (capacity_step l t) (refillRate_step l t) h now

/-! ### Attempts -/

theorem hasToken_eq (x : Rat) : TokenCount.hasToken x = decide (1 ≤ x) := rfl

/-- An attempt is granted if there is a whole token. -/
theorem isOk_acquire (l : Limiter Rat) (caller : String) (now : Nat) :
    (l.acquire caller now).2.isOk = decide (1 ≤ l.available caller now) := by
  rw [acquire_eq, counted_eq]
  show (l.answer ⟨l.available caller now, now⟩).isOk = _
  unfold answer
  rw [hasToken_eq]
  cases decide (1 ≤ l.available caller now) <;> rfl

/-- What a caller has left of its tokens after it has tried for one. -/
def left (tokens : Rat) : Rat := if 1 ≤ tokens then tokens - 1 else tokens

theorem left_nonneg {x : Rat} (h : 0 ≤ x) : 0 ≤ left x := by
  unfold left
  split <;> linarith

theorem left_le (x : Rat) : left x ≤ x := by
  unfold left
  split <;> linarith

theorem spent_eq (x : Rat) (now : Nat) :
    spent { tokens := x, countedAt := now } = { tokens := left x, countedAt := now } := by
  unfold spent left
  simp only [hasToken_eq, decide_eq_true_eq]
  split <;> rfl

/-- The bucket of a caller that has just tried. -/
theorem get?_step_of_isBy (h : t.isBy caller = true) (l : Limiter Rat) :
    (l.step t).buckets.get? caller
      = some { tokens := left (l.available caller t.now), countedAt := t.now } := by
  have hturned := l.turned caller t
  generalize (l.step t).buckets.get? caller = x at hturned ⊢
  cases hturned with
  | tried _ => rw [counted_eq, spent_eq]
  | untouched hby => exact absurd (hby.symm.trans h) nofun
  | forgotten hby => exact absurd (hby.symm.trans h) nofun

/-- The tokens of a caller after an attempt: what it has left, and what it gains from then on. -/
theorem available_after_attempt (h : t.isBy caller = true) (l : Limiter Rat) (n : Nat) :
    (l.step t).available caller n
      = min (left (l.available caller t.now) + l.gain (n - t.now)) l.capacity := by
  rw [available_of_some (get?_step_of_isBy h l), capacity_step, gain_step]

/-- The tokens of a caller that has just tried. -/
theorem available_step_of_isBy (h : t.isBy caller = true) (l : Limiter Rat) :
    (l.step t).available caller t.now = left (l.available caller t.now) := by
  rw [available_after_attempt h, Nat.sub_self, gain_zero, add_zero]
  exact min_eq_left ((left_le _).trans (available_le_capacity l caller t.now))

/-! ### No debts -/

/-- Buckets refill, and nobody is in debt. -/
structure Sound (l : Limiter Rat) : Prop where
  capacity : 0 ≤ l.capacity
  refillRate : 0 < l.refillRate
  tokens : ∀ {caller b}, l.buckets.get? caller = some b → 0 ≤ b.tokens

theorem sound_exact (capacity : Nat) {refillRate : Rat} (h : 0 < refillRate) (maxTracked : Nat) :
    (exact capacity refillRate maxTracked).Sound where
  capacity := Nat.cast_nonneg capacity
  refillRate := h
  tokens := nofun

theorem Sound.available_nonneg (h : l.Sound) (caller : String) (now : Nat) :
    0 ≤ l.available caller now := by
  cases hb : l.buckets.get? caller with
  | none => exact h.capacity.trans_eq (available_of_none hb now).symm
  | some b =>
    rw [available_of_some hb]
    exact le_min (add_nonneg (h.tokens hb) (gain_nonneg h.refillRate.le _)) h.capacity

theorem Sound.step (h : l.Sound) (t : LimiterTurn) : (l.step t).Sound where
  capacity := by
    rw [capacity_step]
    exact h.capacity
  refillRate := by
    rw [refillRate_step]
    exact h.refillRate
  tokens := by
    intro caller b hb
    have hturned := l.turned caller t
    rw [hb] at hturned
    generalize hx : some b = x at hturned
    cases hturned with
    | tried _ =>
      rw [counted_eq, spent_eq] at hx
      obtain rfl := Option.some.inj hx
      exact left_nonneg (h.available_nonneg caller t.now)
    | untouched _ => exact h.tokens hx.symm
    | forgotten _ => cases hx

theorem Sound.run (h : l.Sound) (ts : List LimiterTurn) : (l.run ts).Sound :=
  run_of_invariant h fun _ t h => h.step t

end Limiter

end Dispatch
