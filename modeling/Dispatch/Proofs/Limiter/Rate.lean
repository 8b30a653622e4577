/-
Dispatch/Proofs/Limiter/Rate.lean

How many attempts are granted in a while.

A caller can spend what it has at the beginning of a while and what it gains meanwhile.  So with
every turn, what was granted and what is left are together no more than that
(`granted_le_available`): an attempt that is granted takes one token from what is left, one that is
refused takes nothing though it counts the bucket anew, and time brings no more than the gain.  What
a caller has is never more than a full bucket, which gives the bound (`granted_le_of_kept`).

A bucket that is forgotten meanwhile is full again at once, so the bound is for whiles in which
that does not happen.
-/
import Dispatch.Proofs.Limiter.Tokens

namespace Dispatch

namespace Limiter

/-- How many attempts were granted from one time to another. -/
def grantedWithin (since till : Nat) (attempts : List (Nat × Except Duration Unit)) : Nat :=
  attempts.countP fun a => since ≤ a.1 && a.1 ≤ till && a.2.isOk

variable {l : Limiter Rat} {caller : String} {ts : List LimiterTurn} {since till : Nat}

/-- What is granted and what is left come from what was there and what was gained. -/
theorem granted_le_available (hl : l.Sound) (htimes : Timely ts)
    (hsince : ∀ t ∈ ts, since ≤ t.now)
    (hkept : l.Throughout (fun l t => t.now ≤ till → ¬ l.Forgets caller t) ts) :
    ((l.attempts caller ts).countP fun a => a.1 ≤ till && a.2.isOk : Rat)
      ≤ l.available caller since + l.gain (till - since) := by
  induction ts generalizing l since with
  | nil =>
    have hgain := gain_nonneg hl.refillRate.le (till - since)
    have havailable := hl.available_nonneg caller since
    simp only [attempts, List.countP_nil, Nat.cast_zero]
    linarith
  | cons t ts ih =>
    by_cases hlate : till < t.now
    · -- nothing is granted any more
      have hnone : (l.attempts caller (t :: ts)).countP (fun a => a.1 ≤ till && a.2.isOk) = 0 := by
        refine List.countP_eq_zero.mpr fun a ha => ?_
        obtain ⟨u, hu, hnow⟩ := exists_of_mem_attempts ha
        have hle : t.now ≤ u.now := by
          rcases List.mem_cons.mp hu with rfl | hu
          · exact Nat.le_refl _
          · exact htimes.le hu
        simp only [Bool.and_eq_true, decide_eq_true_eq]
        omega
      have hgain := gain_nonneg hl.refillRate.le (till - since)
      have havailable := hl.available_nonneg caller since
      rw [hnone, Nat.cast_zero]
      linarith
    · have hnow : since ≤ t.now := hsince t List.mem_cons_self
      have htill : t.now ≤ till := Nat.le_of_not_lt hlate
      have hrest := ih (hl.step t) htimes.tail (fun u hu => htimes.le hu) hkept.2
      rw [gain_step] at hrest
      have hgained : l.available caller t.now + l.gain (till - t.now)
          ≤ l.available caller since + l.gain (till - since) := by
        have hsplit : till - since = (t.now - since) + (till - t.now) := by omega
        have hle : l.available caller t.now
            ≤ l.available caller since + l.gain (t.now - since) :=
          available_le_add_gain hl.refillRate.le since t.now
        rw [hsplit, gain_add]
        linarith
      cases hby : t.isBy caller with
      | true =>
        rw [available_step_of_isBy hby] at hrest
        rw [attempts_cons_of_isBy hby, List.countP_cons, isOk_acquire]
        by_cases hone : 1 ≤ l.available caller t.now
        · simp only [left, if_pos hone] at hrest
          simp only [htill, hone, decide_true, Bool.and_self, if_true, Nat.cast_add, Nat.cast_one]
          linarith
        · simp only [left, if_neg hone] at hrest
          simp only [hone, decide_false, Bool.and_false, Bool.false_eq_true, if_false, add_zero]
          linarith
      | false =>
        rw [available_step_of_get?_eq (get?_step_of_not_forgets hby (hkept.1 htill))] at hrest
        rw [attempts_cons_of_not_isBy hby]
        linarith

/-- What is granted is no more than a full bucket and what was gained. -/
theorem granted_le_capacity (hl : l.Sound) (htimes : Timely ts)
    (hkept : l.Throughout (fun l t => since ≤ t.now → t.now ≤ till → ¬ l.Forgets caller t) ts) :
    (grantedWithin since till (l.attempts caller ts) : Rat)
      ≤ l.capacity + l.gain (till - since) := by
  induction ts generalizing l with
  | nil => exact add_nonneg hl.capacity (gain_nonneg hl.refillRate.le _)
  | cons t ts ih =>
    by_cases hearly : t.now < since
    · -- the while has not begun
      have hrest := ih (hl.step t) htimes.tail hkept.2
      rw [capacity_step, gain_step] at hrest
      have hskip : grantedWithin since till (l.attempts caller (t :: ts))
          = grantedWithin since till ((l.step t).attempts caller ts) := by
        cases hby : t.isBy caller with
        | true =>
          rw [attempts_cons_of_isBy hby]
          exact List.countP_cons_of_neg (by simp [hearly])
        | false => rw [attempts_cons_of_not_isBy hby]
      rw [hskip]
      exact hrest
    · have hsince : ∀ u ∈ t :: ts, since ≤ u.now := by
        intro u hu
        rcases List.mem_cons.mp hu with rfl | hu
        · exact Nat.le_of_not_lt hearly
        · exact (Nat.le_of_not_lt hearly).trans (htimes.le hu)
      have hle := granted_le_available hl htimes hsince
        (hkept.imp fun _ u hu h => h (hsince u hu))
      have hcount : grantedWithin since till (l.attempts caller (t :: ts))
          ≤ (l.attempts caller (t :: ts)).countP fun a => a.1 ≤ till && a.2.isOk := by
        refine List.countP_mono_left fun a _ ha => ?_
        simp only [Bool.and_eq_true] at ha ⊢
        exact ⟨ha.1.2, ha.2⟩
      calc (grantedWithin since till (l.attempts caller (t :: ts)) : Rat)
          ≤ ((l.attempts caller (t :: ts)).countP fun a => a.1 ≤ till && a.2.isOk : Rat) := by
            exact_mod_cast hcount
        _ ≤ l.available caller since + l.gain (till - since) := hle
        _ ≤ l.capacity + l.gain (till - since) := by
            linarith [available_le_capacity l caller since]

/-- **A caller is granted no more than a full bucket, and what is gained meanwhile.**  Whoever uses
a limiter, in whatever way, as long as its clock does not go backwards: of the attempts of a caller
from one time to another, if its bucket is not forgotten from the one to the other, no more are
granted than the capacity and what the rate gives for the seconds in between. -/
theorem granted_le_of_kept (capacity : Nat) {refillRate : Rat} (hrate : 0 < refillRate)
    (maxTracked : Nat) (turns : List LimiterTurn) (htimes : Timely turns) (caller : String)
    (since till : Nat)
    (hkept : (exact capacity refillRate maxTracked).Throughout
      (fun l t => since ≤ t.now → t.now ≤ till → ¬ l.Forgets caller t) turns) :
    (grantedWithin since till
        ((exact capacity refillRate maxTracked).attempts caller turns) : Rat)
      ≤ capacity + refillRate * ((till - since : Nat) / Duration.perSecond) := by
  have hle := granted_le_capacity (sound_exact capacity hrate maxTracked) htimes hkept
  rw [mul_comm]
  exact hle

/-- In two seconds, a caller may take two tokens that it has and one that it gains. -/
theorem granted_three_of_two :
    let turns : List LimiterTurn := [
      .acquire "alice" 0, .acquire "alice" 0, .acquire "alice" 1000000000,
      .acquire "bob" 1000000000, .available "alice" 1500000000, .acquire "alice" 2000000000]
    let l := exact 2 (1 / 2) 1
    ((0 : Rat) < 1 / 2 ∧ Timely turns ∧
      l.Throughout (fun l t => 0 ≤ t.now → t.now ≤ 2000000000 → ¬ l.Forgets "alice" t) turns) ∧
    grantedWithin 0 2000000000 (l.attempts "alice" turns) = 3 ∧
    ((3 : Nat) : Rat) ≤ (2 : Nat) + 1 / 2 * ((2000000000 - 0 : Nat) / Duration.perSecond) := by
  intro turns l
  have hrate : (0 : Rat) < 1 / 2 := by norm_num
  have htimes : Timely turns := by decide
  have hkept : l.Throughout (fun l t => 0 ≤ t.now → t.now ≤ 2000000000 → ¬ l.Forgets "alice" t)
      turns := by
    decide +kernel
  have hgranted : grantedWithin 0 2000000000 (l.attempts "alice" turns) = 3 := by decide +kernel
  refine ⟨⟨hrate, htimes, hkept⟩, hgranted, ?_⟩
  rw [← hgranted]
  exact granted_le_of_kept 2 hrate 1 turns htimes "alice" 0 2000000000 hkept

end Limiter

end Dispatch
