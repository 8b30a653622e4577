/-
Dispatch/Proofs/Number/Positive.lean

Positive floats.

A comparison of floats unpacks them, and so does `Binary64.decode`, bit by bit; both see a finite
positive number in the same bit patterns (`pos_iff_decode`).  The float nearest to a positive whole
number of 64 bits is such a number: rounding keeps a leading bit, and the exponent stays far below
the largest (`pos_toFloat`).
-/
import Dispatch.Json.Exact
import Dispatch.Json.Record
import Mathlib.Algebra.Group.Nat.Defs

namespace Dispatch.Binary64

open Float.Model Float.Model.UnpackedFloat

/-! ### Bits -/

/-- A significand has 53 bits, the leading one included. -/
theorem mantissaBits_binary64 : Format.binary64.mantissaBits = 53 := rfl

theorem toNat_unpackExponent (b : BitVec 64) :
    (@unpackExponent Format.binary64 b).toNat = (b.toNat >>> 52) % 2048 := by
  simp [unpackExponent]

theorem toNat_unpackMantissa (b : BitVec 64) :
    (@unpackMantissa Format.binary64 b).toNat = b.toNat % (1 <<< 52) := by
  simp [unpackMantissa]

theorem toNat_unpackSign (b : BitVec 64) :
    (@unpackSign Format.binary64 b).toNat = b.toNat >>> 63 := by
  have := b.isLt
  unfold unpackSign
  simp only [BitVec.toNat_cast, BitVec.extractLsb_toNat]
  omega

theorem unpack_zero : (0.0 : Float).toModel.unpack = .zero .positive := by rfl

/-- Being positive, for an unpacked float. -/
def IsPositive (u : UnpackedFloat) : Prop := ∃ m e h, u = .finite .positive m e h

theorem not_isPositive_notANumber : ¬ IsPositive .notANumber := by
  rintro ⟨m, e, h, ⟨⟩⟩

theorem not_isPositive_infinity {sign : Sign} : ¬ IsPositive (.infinity sign) := by
  rintro ⟨m, e, h, ⟨⟩⟩

theorem not_isPositive_zero {sign : Sign} : ¬ IsPositive (.zero sign) := by
  rintro ⟨m, e, h, ⟨⟩⟩

theorem isPositive_finite_iff {sign : Sign} {m : Nat} {e : Int} {h : 0 < m} :
    IsPositive (.finite sign m e h) ↔ sign = .positive := by
  constructor
  · rintro ⟨m', e', h', heq⟩
    exact (UnpackedFloat.finite.inj heq).1
  · rintro rfl
    exact ⟨m, e, h, rfl⟩

/-- A float is finite and positive if it unpacks so. -/
theorem pos_iff_unpack {x : Float} :
    x.isFinite = true ∧ 0.0 < x ↔ IsPositive x.toModel.unpack := by
  have hlt : 0.0 < x ↔ (UnpackedFloat.zero .positive).lt x.toModel.unpack = true := by
    show decide ((0.0 : Float).toModel < x.toModel) = true ↔ _
    rw [decide_eq_true_iff]
    show (0.0 : Float).toModel.unpack.lt x.toModel.unpack = true ↔ _
    rw [unpack_zero]
  have hfinite : x.isFinite = x.toModel.unpack.isFinite := rfl
  rw [hlt, hfinite]
  cases x.toModel.unpack with
  | infinity sign =>
    exact iff_of_false (fun h => absurd h.1 Bool.false_ne_true) not_isPositive_infinity
  | notANumber =>
    exact iff_of_false (fun h => absurd h.1 Bool.false_ne_true) not_isPositive_notANumber
  | zero sign =>
    refine iff_of_false (fun h => ?_) not_isPositive_zero
    cases sign <;> exact absurd h.2 (by decide)
  | finite sign m e h =>
    rw [isPositive_finite_iff]
    cases sign with
    | negative => exact iff_of_false (fun h => absurd h.2 Bool.false_ne_true) Sign.noConfusion
    | positive => exact iff_of_true ⟨rfl, rfl⟩ rfl

/-- Bits unpack to a positive number if the sign is not set, the exponent is not the largest, and
not both exponent and mantissa are zero. -/
theorem isPositive_unpack_iff {b : BitVec 64} :
    IsPositive (UnpackedFloat.unpack Format.binary64 b) ↔
      @unpackSign Format.binary64 b = 0#1 ∧
      @unpackExponent Format.binary64 b ≠ -1#11 ∧
      (@unpackExponent Format.binary64 b = 0#11 →
        @unpackMantissa Format.binary64 b ≠ 0#52) := by
  have hsign : Sign.ofBitVec (@unpackSign Format.binary64 b) = .positive ↔
      @unpackSign Format.binary64 b = 0#1 := by
    unfold Sign.ofBitVec
    split
    · next h => exact iff_of_true rfl h
    · next h => exact iff_of_false Sign.noConfusion h
  unfold UnpackedFloat.unpack
  dsimp only
  by_cases hall : @unpackExponent Format.binary64 b = -.ofNat Format.binary64.exponentBits 1
  · -- the largest exponent is that of infinities and of what is no number
    rw [if_pos hall]
    refine iff_of_false ?_ (fun h => h.2.1 hall)
    split
    · exact not_isPositive_infinity
    · exact not_isPositive_notANumber
  · rw [if_neg hall]
    by_cases hnone : @unpackExponent Format.binary64 b = .ofNat Format.binary64.exponentBits 0
    · -- with the least exponent there is no leading bit
      rw [if_pos hnone]
      by_cases hzero : @unpackMantissa Format.binary64 b
          = .ofNat Format.binary64.mantissaBitsWithoutImplicit 0
      · rw [dif_pos hzero]
        exact iff_of_false not_isPositive_zero fun h => h.2.2 hnone hzero
      · rw [dif_neg hzero, isPositive_finite_iff, hsign]
        exact ⟨fun h => ⟨h, hall, fun _ => hzero⟩, And.left⟩
    · rw [if_neg hnone, isPositive_finite_iff, hsign]
      exact ⟨fun h => ⟨h, hall, fun h => absurd h hnone⟩, And.left⟩

/-- **Comparing and decoding agree on what is finite and positive.** -/
theorem pos_iff_decode {x : Float} :
    x.isFinite = true ∧ 0.0 < x ↔ ∃ m e, decode x = .finite false m e ∧ 0 < m := by
  let b : BitVec 64 := x.toBits.toBitVec
  have hall : @unpackExponent Format.binary64 b ≠ -1#11 ↔
      (x.toBits.toNat >>> 52) % 2048 ≠ 2047 := by
    rw [Ne, ← BitVec.toNat_inj, toNat_unpackExponent]
    rfl
  have hnone : @unpackExponent Format.binary64 b = 0#11 ↔
      (x.toBits.toNat >>> 52) % 2048 = 0 := by
    rw [← BitVec.toNat_inj, toNat_unpackExponent]
    rfl
  have hzero : @unpackMantissa Format.binary64 b ≠ 0#52 ↔
      x.toBits.toNat % (1 <<< 52) ≠ 0 := by
    rw [Ne, ← BitVec.toNat_inj, toNat_unpackMantissa]
    rfl
  have hsign : @unpackSign Format.binary64 b = 0#1 ↔ x.toBits.toNat >>> 63 ≠ 1 := by
    have hlt : x.toBits.toNat < 2 ^ 64 := b.isLt
    rw [← BitVec.toNat_inj, toNat_unpackSign]
    show x.toBits.toNat >>> 63 = 0 ↔ _
    omega
  have hunpack : x.toModel.unpack = UnpackedFloat.unpack Format.binary64 b := rfl
  -- unpacking asks of the bits what decoding asks of them as a number
  rw [pos_iff_unpack, hunpack, isPositive_unpack_iff, hall, hnone, hzero, hsign]
  unfold decode
  simp only
  split
  · next he => refine iff_of_false (fun h => h.2.1 he) ?_; split <;> simp
  · next he =>
    split
    · next hz =>
      constructor
      · rintro ⟨hs, -, hm⟩
        exact ⟨_, _, by rw [decide_eq_false hs], Nat.pos_of_ne_zero (hm hz)⟩
      · rintro ⟨m, e, heq, hm⟩
        obtain ⟨hs, rfl, rfl⟩ := Binary64.finite.inj heq
        exact ⟨of_decide_eq_false hs, he, fun _ => Nat.pos_iff_ne_zero.mp hm⟩
    · next hz =>
      constructor
      · rintro ⟨hs, -, -⟩
        exact ⟨_, _, by rw [decide_eq_false hs], by omega⟩
      · rintro ⟨m, e, heq, -⟩
        exact ⟨of_decide_eq_false (Binary64.finite.inj heq).1, he, fun h => absurd h hz⟩

/-! ### Rounding -/

theorem mantissa_shiftRight (em : ExtendedMantissa) (k : Nat) :
    (em >>> k).mantissa = em.mantissa / 2 ^ k := by
  induction k with
  | zero => simp [HShiftRight.hShiftRight, Nat.repeat]
  | succ k ih =>
    show (em >>> k).mantissa / 2 = _
    rw [ih, Nat.div_div_eq_div_mul, Nat.pow_succ]

theorem roundedMantissa_bounds (em : ExtendedMantissa) :
    em.mantissa ≤ em.roundedMantissa ∧ em.roundedMantissa ≤ em.mantissa + 1 := by
  obtain ⟨m, round, sticky⟩ := em
  have hmod : m % 2 ≤ 1 := by omega
  cases round <;> cases sticky <;>
    simp [ExtendedMantissa.roundedMantissa, ExtendedMantissa.accuracy,
      Accuracy.roundToNearestEven, hmod]

/-- The leading 53 bits of a positive number. -/
theorem leading_bits {n : Nat} (hn : 0 < n) :
    0 < n / 2 ^ (n.log2 - 52) ∧ n / 2 ^ (n.log2 - 52) < 2 ^ 53 := by
  have hlow : 2 ^ n.log2 ≤ n := Nat.log2_self_le (by omega)
  have hhigh : n < 2 ^ (n.log2 + 1) := Nat.lt_log2_self
  constructor
  · refine Nat.div_pos (Nat.le_trans ?_ hlow) (Nat.two_pow_pos _)
    exact Nat.pow_le_pow_right (by omega) (by omega)
  · rw [Nat.div_lt_iff_lt_mul (Nat.two_pow_pos _), ← Nat.pow_add]
    exact Nat.lt_of_lt_of_le hhigh (Nat.pow_le_pow_right (by omega) (by omega))

/-- Above the least exponent, what is shifted out are the bits after the leading 53. -/
theorem shiftToTargetExponent_eq {m : Nat} {e : Int} (he : -1074 ≤ e) :
    (shiftToTargetExponent Format.binary64 m e .exact).1.mantissa = m / 2 ^ (m.log2 - 52) ∧
      (shiftToTargetExponent Format.binary64 m e .exact).2 = e + (m.log2 - 52 : Nat) := by
  have hamount : (Format.binary64.targetExponent (totalExponent m e) - e).toNat
      = m.log2 - 52 := by
    simp only [Format.targetExponent, totalExponent, mantissaBits_binary64, Format.minExponent]
    omega
  unfold shiftToTargetExponent shiftToExponent
  simp only [hamount, and_true]
  exact mantissa_shiftRight _ _

/-- Rounding a positive number gives a positive number with at most 53 bits. -/
theorem roundWithAccuracy_eq {m : Nat} {e : Int} (hm : 0 < m) (he : -1074 ≤ e) :
    ∃ m' e' h, roundWithAccuracy Format.binary64 .positive m e .exact = .finite .positive m' e' h ∧
      m' < 2 ^ 53 ∧ e ≤ e' ∧ e' ≤ e + (m.log2 - 52 : Nat) + 1 := by
  obtain ⟨hfirst, hexp⟩ := shiftToTargetExponent_eq (m := m) he
  generalize hone : shiftToTargetExponent Format.binary64 m e .exact = first at hfirst hexp
  obtain ⟨em, e₁⟩ := first
  simp only at hfirst hexp
  obtain ⟨hlow, hhigh⟩ := roundedMantissa_bounds em
  obtain ⟨hpos, hlt⟩ := leading_bits hm
  have hr : 0 < em.roundedMantissa := by omega
  have hlog : em.roundedMantissa.log2 ≤ 53 := by
    have hle : em.roundedMantissa < 2 ^ 54 := by omega
    have := (Nat.log2_lt (by omega)).mpr hle
    omega
  have he₁ : -1074 ≤ e₁ := by omega
  -- rounding up may need a bit more, which is shifted out again
  obtain ⟨hsecond, hexp'⟩ := shiftToTargetExponent_eq (m := em.roundedMantissa) he₁
  obtain ⟨hpos', hlt'⟩ := leading_bits hr
  rw [← hsecond] at hpos' hlt'
  refine ⟨_, (shiftToTargetExponent Format.binary64 em.roundedMantissa e₁ .exact).2, hpos', ?_,
    hlt', by omega, by omega⟩
  unfold roundWithAccuracy
  rw [hone]
  exact dif_neg (Nat.pos_iff_ne_zero.mp hpos')

theorem unpackSign_packComponents {sign : Sign} {exponent : BitVec 11} {mantissa : BitVec 52} :
    unpackSign (packComponents Format.binary64 sign exponent mantissa) = sign.toBitVec := by
  ext i hi
  have hi0 : i = 0 := by omega
  subst hi0
  have hget : (sign.toBitVec ++ exponent ++ mantissa).getLsbD 63 = sign.toBitVec.getLsbD 0 := by
    rw [BitVec.getLsbD_append, if_neg (by omega), BitVec.getLsbD_append, if_neg (by omega)]
  unfold unpackSign packComponents
  simp only [BitVec.getElem_cast, BitVec.getElem_extract]
  exact hget

/-- A positive number of 53 bits with an exponent in range is packed as one. -/
theorem isPositive_pack {m : Nat} {e : Int} {h : 0 < m} (hm : m < 2 ^ 53) (hlow : -1022 ≤ e)
    (hhigh : e ≤ 900) : IsPositive (Float.Model.pack (.finite .positive m e h)).unpack := by
  show IsPositive (UnpackedFloat.unpack Format.binary64
    (UnpackedFloat.pack Format.binary64 (.finite .positive m e h)))
  have hbias : (e + Format.binary64.exponentBias + Format.binary64.mantissaBitsWithoutImplicit)
      = e + 1075 := by
    simp only [Format.exponentBias]
    omega
  rw [isPositive_unpack_iff]
  unfold UnpackedFloat.pack
  dsimp only
  rw [hbias]
  rw [if_neg (by omega)]
  split
  · -- 53 bits: the exponent is neither the least nor the largest
    have hnone : BitVec.ofNat 11 (e + 1075).toNat ≠ 0#11 := by
      intro heq
      have := congrArg BitVec.toNat heq
      simp at this
      omega
    have hall : BitVec.ofNat 11 (e + 1075).toNat ≠ -1#11 := by
      intro heq
      have := congrArg BitVec.toNat heq
      simp at this
      omega
    rw [unpackSign_packComponents, unpackExponent_packComponents]
    exact ⟨rfl, hall, fun h => absurd h hnone⟩
  · next hbits =>
    -- fewer bits: the exponent is the least, and the mantissa is the number itself
    have hlog : m.log2 < 52 := by
      have := (Nat.log2_lt (by omega)).mpr hm
      rw [mantissaBits_binary64] at hbits
      omega
    have hsmall : m < 2 ^ 52 := (Nat.log2_lt (by omega)).mp hlog
    have hmantissa : BitVec.ofNat 52 m ≠ 0#52 := by
      intro heq
      have := congrArg BitVec.toNat heq
      simp at this
      omega
    rw [unpackSign_packComponents, unpackExponent_packComponents, unpackMantissa_packComponents]
    exact ⟨rfl, by decide, fun _ => hmantissa⟩

/-- **The float of a positive whole number is positive and finite.** -/
theorem pos_toFloat {n : Nat} (hn : 0 < n) (hlt : n < UInt64.size) :
    n.toUInt64.toFloat.isFinite = true ∧ 0.0 < n.toUInt64.toFloat := by
  rw [pos_iff_unpack]
  have hnat : n.toUInt64.toNat = n := Nat.mod_eq_of_lt hlt
  show IsPositive (Float.Model.pack (UnpackedFloat.ofUInt64 Format.binary64 n.toUInt64)).unpack
  have hcompare : compare ((n : Int)) 0 = .gt := by
    rw [Int.compare_eq_gt]
    omega
  have hround : UnpackedFloat.ofUInt64 Format.binary64 n.toUInt64
      = UnpackedFloat.round Format.binary64 .positive n 0 := by
    unfold UnpackedFloat.ofUInt64 UnpackedFloat.ofNat UnpackedFloat.ofInt UnpackedFloat.normalize
    rw [hnat, hcompare]
    rfl
  -- before rounding the number is shifted so far that it has 53 bits, unless it has more
  have htarget : (0 - Format.binary64.targetExponent (totalExponent n 0)).toNat = 52 - n.log2 := by
    simp only [Format.targetExponent, totalExponent, mantissaBits_binary64, Format.minExponent]
    omega
  have hshift : UnpackedFloat.round Format.binary64 .positive n 0
      = roundWithAccuracy Format.binary64 .positive (n <<< (52 - n.log2))
          (0 - (52 - n.log2 : Nat)) .exact := by
    unfold UnpackedFloat.round decreaseExponent
    simp only [htarget]
  have hpos : 0 < n <<< (52 - n.log2) := by
    rw [Nat.shiftLeft_eq]
    exact Nat.mul_pos hn (Nat.two_pow_pos _)
  have hlog : (n <<< (52 - n.log2)).log2 ≤ 63 := by
    have hbound : n <<< (52 - n.log2) < 2 ^ 64 := by
      rw [Nat.shiftLeft_eq]
      by_cases hbits : n.log2 ≤ 52
      · have hn' : n < 2 ^ (n.log2 + 1) := Nat.lt_log2_self
        calc n * 2 ^ (52 - n.log2)
            < 2 ^ (n.log2 + 1) * 2 ^ (52 - n.log2) :=
              Nat.mul_lt_mul_of_pos_right hn' (Nat.two_pow_pos _)
          _ = 2 ^ 53 := by rw [← Nat.pow_add]; congr 1; omega
          _ < 2 ^ 64 := by decide
      · rw [show 52 - n.log2 = 0 by omega, Nat.pow_zero, Nat.mul_one]
        exact hlt
    have := (Nat.log2_lt (Nat.pos_iff_ne_zero.mp hpos)).mpr hbound
    omega
  obtain ⟨m, e, h, heq, hm, hlow, hhigh⟩ :=
    roundWithAccuracy_eq (e := 0 - (52 - n.log2 : Nat)) hpos (by omega)
  rw [hround, hshift, heq]
  exact isPositive_pack hm (by omega) (by omega)

end Dispatch.Binary64
