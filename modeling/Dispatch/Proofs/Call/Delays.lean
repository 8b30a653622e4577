/-
Dispatch/Proofs/Call/Delays.lean

Whether the delays of a call can be computed, and be waited for.

A delay is scaled in 64 bits, and rounding keeps the order, so no factor makes a delay longer than
the greatest float below one and a half, and none makes it shorter than one half (`scaled?_mono`).
`DelaysFit` follows the delays of a call in the worst case: each of them is met as early as it can
be, when all the delays before it have been as short as they can be, and then has to be within the
range of the clock at its longest, at any reading up to the latest one.
-/
import Dispatch.Clock.Basic
import Dispatch.Proofs.Number.Rounding
import Dispatch.Resilience.Backoff

namespace Dispatch

theorem Clock.onGrid_mono {t u : Nat} (h : t ≤ u) : onGrid t ≤ onGrid u :=
  Nat.mul_le_mul_right grid (Nat.div_le_div_right (Nat.add_le_add_right h _))

namespace Backoff

/-! ### Factors -/

/-- The least factor. -/
def leastFactor : BinaryFraction := ⟨1, -1⟩

/-- The greatest float below one and a half. -/
def greatestFactor : BinaryFraction := ⟨(3 <<< 51) - 1, -52⟩

/-- A factor as it is drawn: a float of 64 bits from one half up to, but not including, one and a
half. -/
def Drawn (f : BinaryFraction) : Prop := isFactor f = true ∧ f.mant < 2 ^ doubleBits

instance (f : BinaryFraction) : Decidable (Drawn f) := inferInstanceAs (Decidable (_ ∧ _))

theorem drawn_leastFactor : Drawn leastFactor := by decide

theorem drawn_greatestFactor : Drawn greatestFactor := by decide

variable {f g : BinaryFraction} {d : Duration}

theorem Drawn.least_le (h : Drawn f) : leastFactor.value ≤ f.value := by
  obtain ⟨hle, -⟩ := Bool.and_eq_true_iff.mp h.1
  have hle' : f.den ≤ 2 * f.num := by simpa using hle
  rw [BinaryFraction.value_le_iff]
  show 1 * f.den ≤ f.num * 2
  omega

/-- Between the greatest factor and one and a half there is no float. -/
theorem Drawn.le_greatest (h : Drawn f) : f.value ≤ greatestFactor.value := by
  obtain ⟨hfactor, hmant⟩ := h
  obtain ⟨-, hlt⟩ := Bool.and_eq_true_iff.mp hfactor
  have hlt' : 2 * f.num < 3 * f.den := by simpa using hlt
  have hmant' : f.mant < 2 ^ 53 := hmant
  rw [BinaryFraction.value_le_iff]
  show f.num * 2 ^ 52 ≤ (3 * 2 ^ 51 - 1) * f.den
  unfold BinaryFraction.num BinaryFraction.den at *
  rw [Nat.shiftLeft_eq, Nat.shiftLeft_eq, Nat.one_mul] at *
  obtain ⟨k, hk | hk⟩ := f.exp.eq_nat_or_neg
  · -- a whole number, so it is one at most
    have hneg : (-f.exp).toNat = 0 := by omega
    rw [hneg, Nat.pow_zero] at hlt' ⊢
    omega
  · have hpos : f.exp.toNat = 0 := by omega
    have hneg : (-f.exp).toNat = k := by omega
    rw [hpos, hneg, Nat.pow_zero, Nat.mul_one] at hlt' ⊢
    rcases Nat.lt_or_ge k 53 with hlow | hhigh
    · -- a multiple of `2 ^ -52`
      have hpow : 2 ^ k ≤ 2 ^ 52 := Nat.pow_le_pow_right (by decide) (Nat.le_of_lt_succ hlow)
      cases k with
      | zero => omega
      | succ k =>
        rw [Nat.pow_succ] at hlt' hpow ⊢
        omega
    · -- less than one
      have hpow : 2 ^ 53 ≤ 2 ^ k := Nat.pow_le_pow_right (by decide) hhigh
      omega

/-- **A greater factor scales to a greater delay.** -/
theorem scaled?_mono (h : f.value ≤ g.value) {y : Duration} (hg : scaled? g d = some y) :
    ∃ x, scaled? f d = some x ∧ x.nanos ≤ y.nanos := by
  have hle : ((doubleSeconds d).mulRounded doubleBits f).roundScaled Duration.perSecond
      ≤ ((doubleSeconds d).mulRounded doubleBits g).roundScaled Duration.perSecond :=
    BinaryFraction.roundScaled_mono (BinaryFraction.mulRounded_mono (by decide) h _) _
  have hy : y.nanos = _ := Duration.ofNanos?_eq_some.mp hg
  rw [← hy] at hle
  exact ⟨⟨_, Nat.lt_of_le_of_lt hle y.bounded⟩, Duration.ofNanos?_eq_some.mpr rfl, hle⟩

/-- A delay of less than `2 ^ 60` seconds is scaled to one of `2 ^ 62` seconds at most. -/
theorem exists_scaled?_greatest (h : d.secs < 2 ^ 60) :
    ∃ x, scaled? greatestFactor d = some x ∧ x.nanos ≤ 2 ^ 62 * Duration.perSecond := by
  -- no rounding on the way passes the next power of two
  have hwhole : (roundBits doubleBits d.secs 1).value ≤ 2 ^ 60 := by
    refine roundBits_le Nat.one_ne_zero (by decide) ?_
    rw [Nat.cast_one, div_one]
    exact_mod_cast h
  have hrest : (roundBits doubleBits d.subsec Duration.perSecond).value ≤ 2 ^ 0 := by
    refine roundBits_le (by decide) (by decide) ?_
    have hlt : d.subsec < Duration.perSecond := Nat.mod_lt _ (by decide)
    have hpos : (0 : Rat) < Duration.perSecond := by norm_num [Duration.perSecond]
    rw [pow_zero, div_lt_one hpos]
    exact_mod_cast hlt
  have hseconds : (doubleSeconds d).value ≤ 2 ^ 61 := by
    refine BinaryFraction.addRounded_le (by decide) ?_
    linarith
  have hfactor : greatestFactor.value < 2 := by
    norm_num [BinaryFraction.value, greatestFactor, Nat.shiftLeft_eq]
  have hscaled : ((doubleSeconds d).mulRounded doubleBits greatestFactor).value ≤ 2 ^ 62 := by
    refine BinaryFraction.mulRounded_le (by decide) ?_
    have hnonneg := greatestFactor.value_nonneg
    nlinarith
  have hle := BinaryFraction.roundScaled_le (m := 2 ^ 62) (by exact_mod_cast hscaled)
    Duration.perSecond
  exact ⟨⟨_, Nat.lt_of_le_of_lt hle (by decide)⟩, Duration.ofNanos?_eq_some.mpr rfl, hle⟩

/-! ### The worst case -/

/-- From a failure at `now` at the earliest, with these delays still to come, every delay that is
met can be scaled by every factor, and its end is a time of the clock, whatever that has read up to
`latest`. -/
def DelaysFit (deadline latest : Nat) : Nat → List Duration → Prop
  | _, [] => True
  | now, d :: ds => now ≤ latest →
    (∃ x ∈ scaled? greatestFactor d, latest + x.nanos < Clock.bound) ∧
      ∀ x ∈ scaled? leastFactor d, Clock.onGrid (now + x.nanos) < deadline →
        DelaysFit deadline latest (Clock.onGrid (now + x.nanos)) ds

instance decidableDelaysFit (deadline latest now : Nat) (ds : List Duration) :
    Decidable (DelaysFit deadline latest now ds) :=
  match ds with
  | [] => isTrue trivial
  | d :: ds =>
    have := fun now => decidableDelaysFit deadline latest now ds
    inferInstanceAs (Decidable (now ≤ latest →
      (∃ x ∈ scaled? greatestFactor d, latest + x.nanos < Clock.bound) ∧
        ∀ x ∈ scaled? leastFactor d, Clock.onGrid (now + x.nanos) < deadline →
          DelaysFit deadline latest (Clock.onGrid (now + x.nanos)) ds))

variable {deadline latest now now' : Nat} {ds : List Duration}

/-- Delays that are met after the latest reading are not met at all. -/
theorem DelaysFit.le_latest (h : ¬ DelaysFit deadline latest now ds) : now ≤ latest := by
  cases ds with
  | nil => exact absurd trivial h
  | cons d ds =>
    by_contra hlate
    exact h fun hle => absurd hle hlate

/-- If delays do not fit, that is for the first one at its longest, or for those that come after it
at its shortest. -/
theorem DelaysFit.not_cons (h : ¬ DelaysFit deadline latest now (d :: ds)) :
    (¬ ∃ x ∈ scaled? greatestFactor d, latest + x.nanos < Clock.bound) ∨
      ∃ x ∈ scaled? leastFactor d, Clock.onGrid (now + x.nanos) < deadline ∧
        ¬ DelaysFit deadline latest (Clock.onGrid (now + x.nanos)) ds := by
  by_contra hnone
  obtain ⟨hlongest, hrest⟩ := not_or.mp hnone
  refine h fun _ => ⟨not_not.mp hlongest, fun x hx hbefore => ?_⟩
  by_contra hunfit
  exact hrest ⟨x, hx, hbefore, hunfit⟩

/-- What fits at a time fits later. -/
theorem DelaysFit.later (h : DelaysFit deadline latest now ds) (hle : now ≤ now') :
    DelaysFit deadline latest now' ds := by
  induction ds generalizing now now' with
  | nil => trivial
  | cons d ds ih =>
    intro hlatest
    obtain ⟨hlongest, hrest⟩ := h (Nat.le_trans hle hlatest)
    refine ⟨hlongest, fun x hx hbefore => ?_⟩
    have hgrid : Clock.onGrid (now + x.nanos) ≤ Clock.onGrid (now' + x.nanos) :=
      Clock.onGrid_mono (Nat.add_le_add_right hle _)
    exact ih (hrest x hx (Nat.lt_of_le_of_lt hgrid hbefore)) hgrid

/-- Where the delays fit, the next one can be scaled by any factor and waited for, and those after
it fit. -/
theorem DelaysFit.next (h : DelaysFit deadline latest now (d :: ds)) (hdrawn : Drawn f)
    (hle : now ≤ now') (hlatest : now' ≤ latest) :
    ∃ x, scaled? f d = some x ∧ now' + x.nanos < Clock.bound ∧
      (Clock.onGrid (now' + x.nanos) < deadline →
        DelaysFit deadline latest (Clock.onGrid (now' + x.nanos)) ds) := by
  obtain ⟨⟨y, hy, hbound⟩, hrest⟩ := h.later hle hlatest
  obtain ⟨x, hx, hxy⟩ := scaled?_mono hdrawn.le_greatest hy
  obtain ⟨z, hz, hzx⟩ := scaled?_mono hdrawn.least_le hx
  refine ⟨x, hx, by omega, fun hbefore => ?_⟩
  have hgrid : Clock.onGrid (now' + z.nanos) ≤ Clock.onGrid (now' + x.nanos) :=
    Clock.onGrid_mono (Nat.add_le_add_left hzx _)
  exact (hrest z hz (Nat.lt_of_le_of_lt hgrid hbefore)).later hgrid

/-- Delays of less than `2 ^ 60` seconds fit, up to a reading of `2 ^ 62` seconds. -/
theorem DelaysFit.of_secs_lt (h : ∀ d ∈ ds, d.secs < 2 ^ 60)
    (hlatest : latest < 2 ^ 62 * Duration.perSecond) : DelaysFit deadline latest now ds := by
  induction ds generalizing now with
  | nil => trivial
  | cons d ds ih =>
    obtain ⟨x, hx, hle⟩ := exists_scaled?_greatest (h d (List.mem_cons_self ..))
    have hbound : latest + x.nanos < Clock.bound := by
      have hsum : Clock.bound = 2 ^ 62 * Duration.perSecond + 2 ^ 62 * Duration.perSecond := by
        decide
      omega
    have hrest : ∀ d' ∈ ds, d'.secs < 2 ^ 60 := fun d' hd' => h d' (List.mem_cons_of_mem _ hd')
    exact fun _ => ⟨⟨x, hx, hbound⟩, fun _ _ _ => ih hrest⟩

theorem next_le (longest d : Duration) : next longest d ≤ longest := by
  rw [Duration.le_iff, next, Duration.nanos_min]
  exact Nat.min_le_right _ _

/-- No delay is longer than the longest, if the first one is not. -/
theorem le_longest_of_mem {longest : Duration} {n : Nat} (h : d ≤ longest) :
    ∀ x ∈ delaysFrom longest n d, x ≤ longest := by
  induction n generalizing d with
  | zero => exact fun x hx => absurd hx List.not_mem_nil
  | succ n ih =>
    intro x hx
    rcases List.mem_cons.mp hx with rfl | hx
    · exact h
    · exact ih (next_le longest d) x hx

end Backoff

end Dispatch
