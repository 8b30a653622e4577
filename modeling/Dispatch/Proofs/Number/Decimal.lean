/-
Dispatch/Proofs/Number/Decimal.lean

Decimal texts of numbers.

Digits, taken together from the left, are the number again.  The text of a number begins with one
of them, or with a sign in front of one.
-/
import Dispatch.Number.Binary64

namespace Dispatch

/-- The digits of a number, taken together from the left. -/
theorem foldl_toDigits (n : Nat) :
    (Nat.toDigits 10 n).foldl (fun v d => v * 10 + (d.toNat - '0'.toNat)) 0 = n := by
  have h : (Nat.toDigits 10 n).foldl (fun v d => v * 10 + (d.toNat - '0'.toNat)) 0
      = Nat.ofDigitChars 10 (Nat.toDigits 10 n) 0 := by
    simp only [Nat.ofDigitChars, Nat.mul_comm]
  rw [h, Nat.ofDigitChars_ten_toDigits]

/-- Digits of a number begin with a zero only if the number is zero. -/
theorem exists_toDigits_eq_cons (n : Nat) :
    ∃ c cs, Nat.toDigits 10 n = c :: cs ∧ c.isDigit = true ∧ (c = '0' → n = 0) := by
  have hdigit : ∀ {c}, c ∈ Nat.toDigits 10 n → c.isDigit = true :=
    Nat.isDigit_of_mem_toDigits (by decide) (by decide)
  induction n using Nat.strongRecOn with
  | ind n ih =>
    by_cases hlt : n < 10
    · rw [Nat.toDigits_of_lt_base hlt] at hdigit ⊢
      exact ⟨_, [], rfl, hdigit List.mem_cons_self, Nat.digitChar_eq_zero.mp⟩
    · obtain ⟨c, cs, hdigits, hc, hzero⟩ := ih (n / 10) (by omega)
        (Nat.isDigit_of_mem_toDigits (by decide) (by decide))
      rw [Nat.toDigits_of_base_le (by decide) (by omega), hdigits]
      refine ⟨c, _, rfl, hc, fun h => ?_⟩
      have := hzero h
      omega

namespace Binary64

/-- A text that begins with a digit. -/
def BeginsWithDigit (s : String) : Prop := ∃ c cs, s.toList = c :: cs ∧ c.isDigit = true

theorem BeginsWithDigit.append {s : String} (h : BeginsWithDigit s) (t : String) :
    BeginsWithDigit (s ++ t) := by
  obtain ⟨c, cs, hs, hc⟩ := h
  exact ⟨c, cs ++ t.toList, by rw [String.toList_append, hs, List.cons_append], hc⟩

theorem beginsWithDigit_positional (d : Decimal) : BeginsWithDigit d.positional := by
  obtain ⟨c, cs, hdigits, hc, -⟩ := exists_toDigits_eq_cons d.digits
  unfold Decimal.positional
  simp only [hdigits]
  split
  · exact ⟨c, _, by rw [String.toList_ofList, List.cons_append], hc⟩
  · split
    · next hlt =>
      -- some digits stand in front of the point
      obtain ⟨k, hk⟩ : ∃ k, (c :: cs).length - (-d.exponent).toNat = k + 1 :=
        Nat.exists_eq_add_one.mpr (Nat.sub_pos_of_lt hlt)
      exact ⟨c, _, by rw [String.toList_ofList, hk, List.take_succ_cons, List.cons_append], hc⟩
    · exact ⟨'0', _, String.toList_ofList, by decide⟩

theorem beginsWithDigit_scientific (d : Decimal) : BeginsWithDigit d.scientific := by
  obtain ⟨c, cs, hdigits, hc, -⟩ := exists_toDigits_eq_cons d.digits
  unfold Decimal.scientific
  simp only [hdigits]
  refine BeginsWithDigit.append (BeginsWithDigit.append (BeginsWithDigit.append ?_ _) _) _
  cases cs with
  | nil => exact ⟨c, [], String.toList_singleton c, hc⟩
  | cons d ds => exact ⟨c, _, String.toList_ofList, hc⟩

theorem exists_signed_eq_cons {s : String} (h : BeginsWithDigit s) (negative : Bool) :
    ∃ c cs, (signed negative s).toList = c :: cs ∧ (c = '-' ∨ c.isDigit = true) := by
  obtain ⟨c, cs, hs, hc⟩ := h
  cases negative with
  | true => exact ⟨'-', s.toList, String.toList_append, Or.inl rfl⟩
  | false => exact ⟨c, cs, hs, Or.inr hc⟩

/-- The text of a finite float begins with a sign or a digit. -/
theorem exists_scientificBeyond_eq_cons {x : Float} {s : String}
    (h : scientificBeyond x = some s) :
    ∃ c cs, s.toList = c :: cs ∧ (c = '-' ∨ c.isDigit = true) := by
  unfold scientificBeyond at h
  split at h
  · cases h
  · cases h
  · obtain rfl := Option.some.inj h
    exact exists_signed_eq_cons ⟨'0', ['.', '0'], rfl, by decide⟩ _
  · simp only at h
    split at h
    · obtain rfl := Option.some.inj h
      exact exists_signed_eq_cons ((beginsWithDigit_positional _).append _) _
    · obtain rfl := Option.some.inj h
      exact exists_signed_eq_cons (beginsWithDigit_scientific _) _

end Binary64

end Dispatch
