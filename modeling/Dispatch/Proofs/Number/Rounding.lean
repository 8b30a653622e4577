/-
Dispatch/Proofs/Number/Rounding.lean

Rounding keeps the order, and loses little.

A quotient is rounded to a whole number by comparing it with halves (`roundDiv_le_iff`), and so a
greater quotient is not rounded to a smaller number.  To round to significant bits is to round to a
whole number in units of a power of two, and the unit is the one that leaves just so many bits
(`InBinade`, `roundBits_spec`).  Of two quotients the greater has the greater unit or the same; in
the same unit whole numbers are compared, and of different units there is a power of two between
them (`roundBits_mono`).

Half a unit is all that is lost, and with so many bits that is a small part of the number itself,
however large or small it is (`le_roundBits`).
-/
import Mathlib.Algebra.Order.Field.Power
import Mathlib.Algebra.Order.Field.Rat
import Mathlib.Tactic.FieldSimp
import Mathlib.Tactic.Linarith
import Mathlib.Tactic.Positivity
import Mathlib.Tactic.Ring
import Dispatch.Number.Rounding

namespace Dispatch

/-! ### To a whole number -/

variable {num den num' den' m : Nat}

/-- A quotient is rounded to `m` or less if it is less than `m` and a half, or just that with an
even `m`. -/
theorem roundDiv_le_iff (h : 0 < den) :
    roundDiv num den ≤ m ↔
      2 * num < (2 * m + 1) * den ∨ 2 * num = (2 * m + 1) * den ∧ m % 2 = 0 := by
  have hnum : den * (num / den) + num % den = num := Nat.div_add_mod num den
  have hmod : num % den < den := Nat.mod_lt num h
  have hround : roundDiv num den = if 2 * (num % den) < den then num / den
      else if den < 2 * (num % den) then num / den + 1
      else if num / den % 2 = 0 then num / den else num / den + 1 := rfl
  generalize num / den = q at hnum hround
  generalize num % den = r at hnum hmod hround
  have hhalf : (2 * m + 1) * den = 2 * (den * m) + den := by ring
  rw [hround, hhalf]
  rcases Nat.lt_trichotomy q m with hlt | rfl | hgt
  · -- even rounded up it is `m` at most
    have hle : den * q + den ≤ den * m := Nat.mul_le_mul_left den hlt
    constructor
    · intro _
      exact Or.inl (by omega)
    · intro _
      split_ifs <;> omega
  · split_ifs <;> omega
  · -- rounded down it is still more than `m`
    have hle : den * m + den ≤ den * q := Nat.mul_le_mul_left den hgt
    constructor
    · intro hm
      split_ifs at hm <;> omega
    · intro hm
      omega

/-- A rounded quotient is at most a half too small. -/
theorem two_mul_le_roundDiv (h : 0 < den) :
    2 * num ≤ (2 * roundDiv num den + 1) * den := by
  rcases (roundDiv_le_iff h).mp (Nat.le_refl _) with hlt | ⟨heq, -⟩
  · exact hlt.le
  · exact heq.le

/-- **Rounding to whole numbers keeps the order.** -/
theorem roundDiv_mono (hd : 0 < den) (hd' : 0 < den') (h : num * den' ≤ num' * den) :
    roundDiv num den ≤ roundDiv num' den' := by
  rw [roundDiv_le_iff hd]
  have hle := (roundDiv_le_iff (m := roundDiv num' den') hd').mp (Nat.le_refl _)
  generalize roundDiv num' den' = m at hle ⊢
  -- compare over the common denominator
  have hscaled : 2 * num * den' ≤ 2 * num' * den := by nlinarith
  rcases hle with hlt | ⟨heq, heven⟩
  · have hlt' : 2 * num * den' < (2 * m + 1) * den * den' := by nlinarith
    exact Or.inl (Nat.lt_of_mul_lt_mul_right hlt')
  · have hle' : 2 * num * den' ≤ (2 * m + 1) * den * den' := by
      rw [heq] at hscaled
      nlinarith
    rcases Nat.lt_or_eq_of_le (Nat.le_of_mul_le_mul_right hle' hd') with hlt | heq'
    · exact Or.inl hlt
    · exact Or.inr ⟨heq', heven⟩

@[simp] theorem roundDiv_one (n : Nat) : roundDiv n 1 = n := by
  simp [roundDiv, Nat.mod_one]

theorem roundDiv_le_of_le (hd : 0 < den) (h : num ≤ m * den) : roundDiv num den ≤ m := by
  rw [← roundDiv_one m]
  exact roundDiv_mono hd Nat.one_pos (by rwa [Nat.mul_one])

theorem le_roundDiv_of_le (hd : 0 < den) (h : m * den ≤ num) : m ≤ roundDiv num den := by
  rw [← roundDiv_one m]
  exact roundDiv_mono Nat.one_pos hd (by rwa [Nat.mul_one])

/-! ### Numbers with a power of two -/

namespace BinaryFraction

/-- The number itself. -/
def value (x : BinaryFraction) : Rat := x.mant * 2 ^ x.exp

theorem den_pos (x : BinaryFraction) : 0 < x.den := by
  rw [den, Nat.shiftLeft_eq, Nat.one_mul]
  exact Nat.two_pow_pos _

/-- Shifting to either side is multiplying with a power of two. -/
theorem shifted_eq (a b : Nat) (e : Int) :
    ((a <<< e.toNat : Nat) : Rat) / ((b <<< (-e).toNat : Nat) : Rat) = a / b * 2 ^ e := by
  rw [Nat.shiftLeft_eq, Nat.shiftLeft_eq]
  push_cast
  obtain ⟨n, rfl | rfl⟩ := e.eq_nat_or_neg
  · have hneg : (-(n : Int)).toNat = 0 := by omega
    rw [hneg, Int.toNat_natCast, pow_zero, mul_one, zpow_natCast]
    ring
  · have hneg : (-(n : Int)).toNat = 0 := by omega
    rw [neg_neg, hneg, Int.toNat_natCast, pow_zero, mul_one, zpow_neg, zpow_natCast]
    rw [div_mul_eq_div_div]
    rfl

theorem num_div_den (x : BinaryFraction) : (x.num : Rat) / x.den = x.value := by
  rw [num, den, shifted_eq, Nat.cast_one, div_one, value]

/-- The greater of two numbers is so as a quotient. -/
theorem value_le_iff {x y : BinaryFraction} :
    x.value ≤ y.value ↔ x.num * y.den ≤ y.num * x.den := by
  have hx : (0 : Rat) < x.den := by exact_mod_cast x.den_pos
  have hy : (0 : Rat) < y.den := by exact_mod_cast y.den_pos
  rw [← num_div_den, ← num_div_den, div_le_div_iff₀ hx hy]
  exact_mod_cast Iff.rfl

theorem value_nonneg (x : BinaryFraction) : 0 ≤ x.value := by
  unfold value
  positivity

end BinaryFraction

/-! ### To significant bits -/

/-- A number has so many bits in units of `2 ^ e`. -/
def InBinade (bits : Nat) (x : Rat) (e : Int) : Prop :=
  2 ^ (bits + e - 1) ≤ x ∧ x < 2 ^ (bits + e)

variable {bits : Nat}

/-- The greater number has the greater unit. -/
theorem InBinade.le {x x' : Rat} {e e' : Int} (h : InBinade bits x e) (h' : InBinade bits x' e')
    (hle : x ≤ x') : e ≤ e' := by
  have hlt : (2 : Rat) ^ (bits + e - 1) < 2 ^ (bits + e') := lt_of_le_of_lt (h.1.trans hle) h'.2
  have hexp := (zpow_lt_zpow_iff_right₀ (by norm_num : (1 : Rat) < 2)).mp hlt
  omega

theorem log2_bounds {n : Nat} (h : n ≠ 0) :
    (2 : Rat) ^ (n.log2 : Int) ≤ n ∧ (n : Rat) < 2 ^ ((n.log2 : Int) + 1) := by
  constructor
  · rw [zpow_natCast]
    exact_mod_cast Nat.log2_self_le h
  · have hsucc : ((n.log2 : Int) + 1) = ((n.log2 + 1 : Nat) : Int) := by omega
    rw [hsucc, zpow_natCast]
    exact_mod_cast Nat.lt_log2_self

/-- The logarithms of numerator and denominator tell the power of two below a quotient, but for
one. -/
theorem quotient_bounds (hn : num ≠ 0) (hd : den ≠ 0) :
    (2 : Rat) ^ ((num.log2 : Int) - den.log2 - 1) ≤ num / den ∧
      (num : Rat) / den < 2 ^ ((num.log2 : Int) - den.log2 + 1) := by
  obtain ⟨hnum, hnum'⟩ := log2_bounds hn
  obtain ⟨hden, hden'⟩ := log2_bounds hd
  have hpos : (0 : Rat) < den := by exact_mod_cast Nat.pos_of_ne_zero hd
  constructor
  · rw [le_div_iff₀ hpos]
    calc (2 : Rat) ^ ((num.log2 : Int) - den.log2 - 1) * den
        ≤ 2 ^ ((num.log2 : Int) - den.log2 - 1) * 2 ^ ((den.log2 : Int) + 1) := by gcongr
      _ = 2 ^ (num.log2 : Int) := by
        rw [← zpow_add₀ (by norm_num)]
        congr 1
        ring
      _ ≤ num := hnum
  · rw [div_lt_iff₀ hpos]
    calc (num : Rat) < 2 ^ ((num.log2 : Int) + 1) := hnum'
      _ = 2 ^ ((num.log2 : Int) - den.log2 + 1) * 2 ^ (den.log2 : Int) := by
        rw [← zpow_add₀ (by norm_num)]
        congr 1
        ring
      _ ≤ 2 ^ ((num.log2 : Int) - den.log2 + 1) * den := by gcongr

theorem shiftLeft_pos {n : Nat} (h : n ≠ 0) (k : Nat) : 0 < n <<< k := by
  rw [Nat.shiftLeft_eq]
  exact Nat.mul_pos (Nat.pos_of_ne_zero h) (Nat.two_pow_pos _)

/-- A quotient in units of `2 ^ e`. -/
theorem shifted_div (num den : Nat) (e : Int) :
    ((num <<< (-e).toNat : Nat) : Rat) / ((den <<< e.toNat : Nat) : Rat) = num / den / 2 ^ e := by
  have hshift := BinaryFraction.shifted_eq num den (-e)
  rwa [neg_neg, zpow_neg, ← div_eq_mul_inv] at hshift

/-- Counting a quotient in units of `2 ^ e`. -/
theorem shifted_lt_iff (hd : den ≠ 0) (k : Nat) (e : Int) :
    num <<< (-e).toNat < k * den <<< e.toNat ↔ (num : Rat) / den < k * 2 ^ e := by
  have hpow : (0 : Rat) < 2 ^ e := by positivity
  have hcast : (0 : Rat) < ((den <<< e.toNat : Nat) : Rat) := by
    exact_mod_cast shiftLeft_pos hd e.toNat
  rw [← div_lt_iff₀ hpow, ← shifted_div, div_lt_iff₀ hcast]
  exact_mod_cast Iff.rfl

/-- To round to significant bits is to round to a whole number in the unit that leaves so many. -/
theorem exists_roundBits_eq (bits : Nat) (hn : num ≠ 0) (hd : den ≠ 0) :
    ∃ e, InBinade bits (num / den) e ∧
      roundBits bits num den = ⟨roundDiv (num <<< (-e).toNat) (den <<< e.toNat), e⟩ := by
  obtain ⟨hlower, hupper⟩ := quotient_bounds hn hd
  let low : Int := (num.log2 : Int) - den.log2 - bits
  have hfine : num <<< (-low).toNat < (den <<< low.toNat) <<< bits
      ↔ (num : Rat) / den < 2 ^ (bits + low) := by
    rw [Nat.shiftLeft_eq (den <<< _), Nat.mul_comm, shifted_lt_iff hd, zpow_add₀ (by norm_num),
      zpow_natCast]
    exact_mod_cast Iff.rfl
  unfold roundBits
  rw [if_neg hn]
  simp only
  split
  · next hlt =>
    refine ⟨low, ⟨?_, hfine.mp hlt⟩, rfl⟩
    have hexp : (bits : Int) + low - 1 = (num.log2 : Int) - den.log2 - 1 := by omega
    rw [hexp]
    exact hlower
  · next hnot =>
    refine ⟨low + 1, ⟨?_, ?_⟩, rfl⟩
    · have hexp : (bits : Int) + (low + 1) - 1 = bits + low := by omega
      rw [hexp]
      exact not_lt.mp (mt hfine.mpr hnot)
    · have hexp : (bits : Int) + (low + 1) = (num.log2 : Int) - den.log2 + 1 := by omega
      rw [hexp]
      exact hupper

/-- A number of so many bits is rounded to one between the powers of two around it. -/
theorem InBinade.value_bounds {e : Int} (h : InBinade bits (num / den) e) (hbits : 0 < bits)
    (hd : den ≠ 0) :
    let rounded : BinaryFraction := ⟨roundDiv (num <<< (-e).toNat) (den <<< e.toNat), e⟩
    2 ^ (bits + e - 1) ≤ rounded.value ∧ rounded.value ≤ 2 ^ (bits + e) := by
  intro rounded
  have hpow : (0 : Rat) < 2 ^ e := by positivity
  have htwo : (2 : Rat) ≠ 0 := by norm_num
  have hlower : (2 : Rat) ^ (bits + e - 1) = ((2 ^ (bits - 1) : Nat) : Rat) * 2 ^ e := by
    have hexp : (bits : Int) + e - 1 = ((bits - 1 : Nat) : Int) + e := by omega
    rw [hexp, zpow_add₀ htwo, zpow_natCast]
    push_cast
    rfl
  have hupper : (2 : Rat) ^ (bits + e) = ((2 ^ bits : Nat) : Rat) * 2 ^ e := by
    rw [zpow_add₀ htwo, zpow_natCast]
    push_cast
    rfl
  have hle : 2 ^ (bits - 1) ≤ roundDiv (num <<< (-e).toNat) (den <<< e.toNat) := by
    refine le_roundDiv_of_le (shiftLeft_pos hd _) (Nat.le_of_not_lt ?_)
    rw [shifted_lt_iff hd, ← hlower]
    exact not_lt.mpr h.1
  have hge : roundDiv (num <<< (-e).toNat) (den <<< e.toNat) ≤ 2 ^ bits := by
    refine roundDiv_le_of_le (shiftLeft_pos hd _) (Nat.le_of_lt ?_)
    rw [shifted_lt_iff hd, ← hupper]
    exact h.2
  rw [hlower, hupper]
  constructor
  · exact mul_le_mul_of_nonneg_right (by exact_mod_cast hle) hpow.le
  · exact mul_le_mul_of_nonneg_right (by exact_mod_cast hge) hpow.le

/-- A quotient below a power of two is not rounded beyond it. -/
theorem roundBits_le (hd : den ≠ 0) (hbits : 0 < bits) {k : Nat} (h : (num : Rat) / den < 2 ^ k) :
    (roundBits bits num den).value ≤ 2 ^ k := by
  by_cases hn : num = 0
  · rw [roundBits, if_pos hn]
    norm_num [BinaryFraction.value]
  · -- the power of two above the quotient is not beyond `2 ^ k`, and bounds what it is rounded to
    obtain ⟨e, he, hround⟩ := exists_roundBits_eq bits hn hd
    have hlt : (2 : Rat) ^ (bits + e - 1) < 2 ^ (k : Int) := by
      rw [zpow_natCast]
      exact lt_of_le_of_lt he.1 h
    have hexp := (zpow_lt_zpow_iff_right₀ (by norm_num : (1 : Rat) < 2)).mp hlt
    have hle : (bits : Int) + e ≤ k := by omega
    rw [hround, ← zpow_natCast]
    exact (he.value_bounds hbits hd).2.trans (zpow_le_zpow_right₀ (by norm_num) hle)

/-- **Rounding to significant bits keeps the order.** -/
theorem roundBits_mono (hbits : 0 < bits) (hd : den ≠ 0) (hd' : den' ≠ 0)
    (h : num * den' ≤ num' * den) :
    (roundBits bits num den).value ≤ (roundBits bits num' den').value := by
  by_cases hn : num = 0
  · have hzero : (roundBits bits num den).value = 0 := by
      rw [roundBits, if_pos hn]
      norm_num [BinaryFraction.value]
    rw [hzero]
    exact BinaryFraction.value_nonneg _
  · have hn' : num' ≠ 0 := by
      rintro rfl
      rw [Nat.zero_mul] at h
      exact Nat.mul_ne_zero hn hd' (Nat.le_zero.mp h)
    obtain ⟨e, he, hround⟩ := exists_roundBits_eq bits hn hd
    obtain ⟨e', he', hround'⟩ := exists_roundBits_eq bits hn' hd'
    have hquotient : (num : Rat) / den ≤ num' / den' := by
      have hpos : (0 : Rat) < den := by exact_mod_cast Nat.pos_of_ne_zero hd
      have hpos' : (0 : Rat) < den' := by exact_mod_cast Nat.pos_of_ne_zero hd'
      rw [div_le_div_iff₀ hpos hpos']
      exact_mod_cast h
    rw [hround, hround']
    rcases lt_or_eq_of_le (he.le he' hquotient) with hlt | rfl
    · -- a power of two lies between the two
      have hexp : (bits : Int) + e ≤ bits + e' - 1 := by omega
      calc BinaryFraction.value _
          ≤ 2 ^ (bits + e) := (he.value_bounds hbits hd).2
        _ ≤ 2 ^ (bits + e' - 1) := zpow_le_zpow_right₀ (by norm_num) hexp
        _ ≤ BinaryFraction.value _ := (he'.value_bounds hbits hd').1
    · -- in one unit
      have hmant : roundDiv (num <<< (-e).toNat) (den <<< e.toNat)
          ≤ roundDiv (num' <<< (-e).toNat) (den' <<< e.toNat) := by
        refine roundDiv_mono (shiftLeft_pos hd _) (shiftLeft_pos hd' _) ?_
        simp only [Nat.shiftLeft_eq]
        calc num * 2 ^ (-e).toNat * (den' * 2 ^ e.toNat)
            = num * den' * (2 ^ (-e).toNat * 2 ^ e.toNat) := by ring
          _ ≤ num' * den * (2 ^ (-e).toNat * 2 ^ e.toNat) := Nat.mul_le_mul_right _ h
          _ = num' * 2 ^ (-e).toNat * (den * 2 ^ e.toNat) := by ring
      show (_ : Rat) * 2 ^ e ≤ _ * 2 ^ e
      exact mul_le_mul_of_nonneg_right (by exact_mod_cast hmant) (by positivity)

/-- **What rounding to significant bits loses** is half a unit at most, and with so many bits that is
no more than this part of the number. -/
theorem le_roundBits (bits : Nat) (hd : den ≠ 0) :
    (1 - 1 / 2 ^ bits) * ((num : Rat) / den) ≤ (roundBits bits num den).value := by
  by_cases hn : num = 0
  · rw [hn, Nat.cast_zero, zero_div, mul_zero]
    exact BinaryFraction.value_nonneg _
  · obtain ⟨e, he, hround⟩ := exists_roundBits_eq bits hn hd
    have hpow : (0 : Rat) < 2 ^ e := by positivity
    have hcast : (0 : Rat) < ((den <<< e.toNat : Nat) : Rat) := by
      exact_mod_cast shiftLeft_pos hd e.toNat
    rw [hround]
    show _ ≤ (roundDiv (num <<< (-e).toNat) (den <<< e.toNat) : Rat) * 2 ^ e
    -- counted in units, the number is at most a half above what it is rounded to
    have hhalf : (num : Rat) / den / 2 ^ e
        ≤ roundDiv (num <<< (-e).toNat) (den <<< e.toNat) + 1 / 2 := by
      have hle : 2 * num <<< (-e).toNat
          ≤ (2 * roundDiv (num <<< (-e).toNat) (den <<< e.toNat) + 1) * den <<< e.toNat :=
        two_mul_le_roundDiv (shiftLeft_pos hd _)
      have hle' : (2 : Rat) * ((num <<< (-e).toNat : Nat) : Rat)
          ≤ (2 * (roundDiv (num <<< (-e).toNat) (den <<< e.toNat) : Rat) + 1)
            * ((den <<< e.toNat : Nat) : Rat) := by exact_mod_cast hle
      rw [← shifted_div, div_le_iff₀ hcast]
      linarith
    -- and half a unit is that part of the least number with so many bits
    have hunit : (2 : Rat) ^ e / 2 ≤ 1 / 2 ^ bits * (num / den) := by
      have hleast : (2 : Rat) ^ (bits + e - 1) = 2 ^ bits * (2 ^ e / 2) := by
        rw [zpow_sub₀ (by norm_num), zpow_add₀ (by norm_num), zpow_natCast, zpow_one]
        ring
      have hle := he.1
      rw [hleast] at hle
      rw [one_div, inv_mul_eq_div, le_div_iff₀ (by positivity)]
      linarith
    rw [div_le_iff₀ hpow] at hhalf
    linarith

namespace BinaryFraction

variable {x y : BinaryFraction}

theorem roundScaled_mono (h : x.value ≤ y.value) (scale : Nat) :
    x.roundScaled scale ≤ y.roundScaled scale := by
  refine roundDiv_mono x.den_pos y.den_pos ?_
  have hle := Nat.mul_le_mul_right scale (value_le_iff.mp h)
  calc x.num * scale * y.den = x.num * y.den * scale := by ring
    _ ≤ y.num * x.den * scale := hle
    _ = y.num * scale * x.den := by ring

theorem mulRounded_mono (hbits : 0 < bits) (h : x.value ≤ y.value) (a : BinaryFraction) :
    (a.mulRounded bits x).value ≤ (a.mulRounded bits y).value := by
  have hx := (Nat.mul_pos a.den_pos x.den_pos).ne'
  have hy := (Nat.mul_pos a.den_pos y.den_pos).ne'
  refine roundBits_mono hbits hx hy ?_
  calc a.num * x.num * (a.den * y.den) = a.num * a.den * (x.num * y.den) := by ring
    _ ≤ a.num * a.den * (y.num * x.den) := Nat.mul_le_mul_left _ (value_le_iff.mp h)
    _ = a.num * y.num * (a.den * x.den) := by ring

theorem addFraction_div (x y : BinaryFraction) :
    ((x.addFraction y).1 : Rat) / (x.addFraction y).2 = x.value + y.value := by
  have hx : (x.den : Rat) ≠ 0 := by exact_mod_cast x.den_pos.ne'
  have hy : (y.den : Rat) ≠ 0 := by exact_mod_cast y.den_pos.ne'
  rw [← num_div_den, ← num_div_den, div_add_div _ _ hx hy, addFraction]
  push_cast
  ring

/-- A number below a power of two is not rounded beyond it. -/
theorem addRounded_le (hbits : 0 < bits) {k : Nat} (h : x.value + y.value < 2 ^ k) :
    (x.addRounded bits y).value ≤ 2 ^ k := by
  refine roundBits_le (Nat.mul_pos x.den_pos y.den_pos).ne' hbits ?_
  rw [← addFraction_div] at h
  exact h

/-- What rounding a sum loses. -/
theorem le_addRounded (bits : Nat) (x y : BinaryFraction) :
    (1 - 1 / 2 ^ bits) * (x.value + y.value) ≤ (x.addRounded bits y).value := by
  rw [← addFraction_div]
  exact le_roundBits bits (Nat.mul_pos x.den_pos y.den_pos).ne'

theorem mulRounded_le (hbits : 0 < bits) {k : Nat} (h : x.value * y.value < 2 ^ k) :
    (x.mulRounded bits y).value ≤ 2 ^ k := by
  refine roundBits_le (Nat.mul_pos x.den_pos y.den_pos).ne' hbits ?_
  have hproduct : ((x.num * y.num : Nat) : Rat) / ((x.den * y.den : Nat) : Rat)
      = x.value * y.value := by
    rw [← num_div_den, ← num_div_den, div_mul_div_comm]
    push_cast
    rfl
  exact hproduct ▸ h

/-- Rounded to a whole number, a number is at most a half too small. -/
theorem value_mul_le (x : BinaryFraction) (scale : Nat) :
    x.value * scale ≤ x.roundScaled scale + 1 / 2 := by
  have hden : (0 : Rat) < x.den := by exact_mod_cast x.den_pos
  have hle : 2 * (x.num * scale) ≤ (2 * x.roundScaled scale + 1) * x.den :=
    two_mul_le_roundDiv x.den_pos
  have hle' : (2 : Rat) * (x.num * scale) ≤ (2 * (x.roundScaled scale : Rat) + 1) * x.den := by
    exact_mod_cast hle
  rw [← num_div_den, div_mul_eq_mul_div, div_le_iff₀ hden]
  linarith

theorem roundScaled_le {m : Nat} (h : x.value ≤ m) (scale : Nat) :
    x.roundScaled scale ≤ m * scale := by
  have hden : (0 : Rat) < x.den := by exact_mod_cast x.den_pos
  have hnum : x.num ≤ m * x.den := by
    rw [← num_div_den, div_le_iff₀ hden] at h
    exact_mod_cast h
  refine roundDiv_le_of_le x.den_pos ?_
  calc x.num * scale ≤ m * x.den * scale := Nat.mul_le_mul_right scale hnum
    _ = m * scale * x.den := by ring

end BinaryFraction

end Dispatch
