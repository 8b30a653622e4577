/-
Dispatch/Proofs/Duration/Doubling.lean

A doubled duration is longer.

A duration is doubled by way of its seconds in 32 bits.  On the way to these three roundings follow
each other, and none of them loses more than the part `2 ^ -24` of what it rounds
(`le_singleSeconds`).  So twice the seconds are still more than one and a half times the duration,
and the last rounding, to whole nanoseconds, loses half a nanosecond of that.  From one nanosecond on
that leaves more than the duration itself (`lt_doubled`), whether it counts in nanoseconds, where the
seconds are a fraction, or in centuries, where the units of 32 bits are thousands of seconds.
-/
import Dispatch.Duration.Seconds
import Dispatch.Proofs.Number.Rounding

namespace Dispatch.Duration

variable {d longest : Duration}

/-- The part of a number that one rounding to 24 bits leaves at least. -/
def leastKept : Rat := 1 - 1 / 2 ^ singleBits

theorem leastKept_nonneg : 0 ≤ leastKept := by norm_num [leastKept, singleBits]

theorem leastKept_le_one : leastKept ≤ 1 := by norm_num [leastKept, singleBits]

/-- A whole number is rounded once. -/
theorem le_whole (n : Nat) : leastKept * n ≤ (roundBits singleBits n 1).value := by
  have hle : leastKept * ((n : Rat) / (1 : Nat)) ≤ (roundBits singleBits n 1).value :=
    le_roundBits singleBits Nat.one_ne_zero
  rwa [Nat.cast_one, div_one] at hle

/-- The nanoseconds beyond the whole seconds are rounded twice. -/
theorem le_fraction (nanos : Nat) :
    leastKept ^ 2 * ((nanos : Rat) / perSecond)
      ≤ (roundBits singleBits (roundBits singleBits nanos 1).num
          ((roundBits singleBits nanos 1).den * perSecond)).value := by
  have hsecond : (0 : Rat) < perSecond := by norm_num [perSecond]
  have hnanos : leastKept * nanos ≤ (roundBits singleBits nanos 1).value := le_whole nanos
  generalize roundBits singleBits nanos 1 = rounded at hnanos ⊢
  have hden : rounded.den * perSecond ≠ 0 := Nat.mul_ne_zero rounded.den_pos.ne' (by decide)
  calc leastKept ^ 2 * ((nanos : Rat) / perSecond)
      = leastKept * (leastKept * nanos / perSecond) := by ring
    _ ≤ leastKept * (rounded.value / perSecond) := by
      have hnonneg := leastKept_nonneg
      gcongr
    _ = leastKept * ((rounded.num : Rat) / ((rounded.den * perSecond : Nat) : Rat)) := by
      rw [← rounded.num_div_den, div_div]
      push_cast
      rfl
    _ ≤ _ := le_roundBits singleBits hden

/-- The seconds in 32 bits are rounded three times. -/
theorem le_singleSeconds (d : Duration) :
    leastKept ^ 3 * ((d.nanos : Rat) / perSecond) ≤ d.singleSeconds.value := by
  have hsecond : (perSecond : Rat) ≠ 0 := by norm_num [perSecond]
  have hnonneg := leastKept_nonneg
  have hparts : (d.nanos : Rat) / perSecond = d.secs + (d.subsec : Rat) / perSecond := by
    rw [← d.secs_mul_add_subsec]
    push_cast
    field_simp
  -- the whole seconds are rounded once less
  have hwhole : leastKept ^ 2 * (d.secs : Rat) ≤ (roundBits singleBits d.secs 1).value := by
    refine le_trans ?_ (le_whole d.secs)
    have hpow : leastKept ^ 2 ≤ leastKept := pow_le_of_le_one hnonneg leastKept_le_one two_ne_zero
    exact mul_le_mul_of_nonneg_right hpow (Nat.cast_nonneg _)
  calc leastKept ^ 3 * ((d.nanos : Rat) / perSecond)
      = leastKept * (leastKept ^ 2 * d.secs + leastKept ^ 2 * ((d.subsec : Rat) / perSecond)) := by
        rw [hparts]
        ring
    _ ≤ leastKept * ((roundBits singleBits d.secs 1).value + _) := by
        gcongr
        exact le_fraction d.subsec
    _ ≤ d.singleSeconds.value := BinaryFraction.le_addRounded singleBits _ _

/-- No time doubles to no time. -/
theorem doubled_zero : zero.doubled = zero := by decide +kernel

/-- **A doubled duration is longer**, unless it is no time at all or the longest one. -/
theorem lt_doubled (hd : d ≠ zero) (hlongest : d < max) : d < d.doubled := by
  have hsecond : (0 : Rat) < perSecond := by norm_num [perSecond]
  have hpos : (1 : Rat) ≤ d.nanos := by
    have hne : d.nanos ≠ 0 := fun h => hd (ext_nanos h)
    exact_mod_cast Nat.one_le_iff_ne_zero.mpr hne
  let twice : BinaryFraction := { d.singleSeconds with exp := d.singleSeconds.exp + 1 }
  have htwice : twice.value = 2 * d.singleSeconds.value := by
    show (_ : Rat) * 2 ^ (d.singleSeconds.exp + 1) = _
    rw [zpow_add_one₀ (by norm_num), BinaryFraction.value]
    ring
  -- one and a half times the duration, less half a nanosecond
  have hrounded : (d.nanos : Rat) < twice.roundScaled perSecond := by
    have hkept : (3 : Rat) / 4 < leastKept ^ 3 := by norm_num [leastKept, singleBits]
    have hseconds := mul_le_mul_of_nonneg_right d.le_singleSeconds hsecond.le
    rw [mul_assoc, div_mul_cancel₀ _ hsecond.ne'] at hseconds
    have hhalf := twice.value_mul_le perSecond
    rw [htwice] at hhalf
    nlinarith
  have hlt : d.nanos < twice.roundScaled perSecond := by exact_mod_cast hrounded
  rw [lt_iff, doubled, nanos_saturating]
  exact lt_min hlt hlongest

end Dispatch.Duration
