/-
Dispatch/Proofs/Conversation/Window.lean

A window fits its budget.

The pinned messages and then the others are counted from the newest on, and both counts share one
budget.  So what is kept of the two classes is within it (`tokensOf_windowMessages_le`); and where
all messages are within it, none is dropped (`windowMessages_of_le`).
-/
import Mathlib.Algebra.BigOperators.Group.List.Basic
import Mathlib.Algebra.Ring.Nat
import Dispatch.Conversation.Window

namespace Dispatch

/-! ### Tokens of messages -/

@[simp] theorem tokensOf_nil : tokensOf [] = 0 := rfl

@[simp] theorem tokensOf_cons (m : Message) (messages : List Message) :
    tokensOf (m :: messages) = m.tokens + tokensOf messages := rfl

theorem tokensOf_eq_sum (messages : List Message) :
    tokensOf messages = (messages.map Message.tokens).sum := by
  induction messages with
  | nil => rfl
  | cons m messages ih => rw [tokensOf_cons, List.map_cons, List.sum_cons, ih]

/-- A message costs something, whatever it says. -/
theorem Message.overheadTokens_le (m : Message) : Message.overheadTokens ≤ m.tokens :=
  Nat.le_add_left _ _

/-- Messages that cost less than one message are none. -/
theorem eq_nil_of_tokensOf_lt {messages : List Message}
    (h : tokensOf messages < Message.overheadTokens) : messages = [] := by
  cases messages with
  | nil => rfl
  | cons m messages =>
    have hm := m.overheadTokens_le
    rw [tokensOf_cons] at h
    omega

/-! ### What fits -/

variable {budget used : Nat} {costs : List Nat} {messages : List Message}

/-- What the counted costs come to. -/
theorem fitting_total (budget used : Nat) (costs : List Nat) :
    (fitting budget used costs).2
      = used + (costs.take (fitting budget used costs).1).sum := by
  induction costs generalizing used with
  | nil => rfl
  | cons cost costs ih =>
    unfold fitting
    split
    · rfl
    · simp only [List.take_succ_cons, List.sum_cons]
      rw [ih, Nat.add_assoc]

theorem fitting_le (h : used ≤ budget) (costs : List Nat) :
    (fitting budget used costs).2 ≤ budget := by
  induction costs generalizing used with
  | nil => exact h
  | cons cost costs ih =>
    unfold fitting
    split
    · exact h
    · next hle => exact ih (Nat.le_of_not_lt hle)

/-- Costs that are within the budget together are all counted. -/
theorem fitting_of_le (h : used + costs.sum ≤ budget) :
    fitting budget used costs = (costs.length, used + costs.sum) := by
  induction costs generalizing used with
  | nil => rfl
  | cons cost costs ih =>
    rw [List.sum_cons, ← Nat.add_assoc] at h
    have hnot : ¬ budget < used + cost := by omega
    unfold fitting
    rw [if_neg hnot, ih h, List.sum_cons, List.length_cons, Nat.add_assoc]

/-! ### What is kept -/

/-- Keeping the first of each class costs what they cost. -/
theorem tokensOf_keepFirst (pinned recent : Nat) (messages : List Message) :
    tokensOf (keepFirst pinned recent messages)
      = tokensOf ((messages.filter fun m => m.pinned = true).take pinned)
        + tokensOf ((messages.filter fun m => m.pinned = false).take recent) := by
  induction messages generalizing pinned recent with
  | nil => simp [keepFirst, tokensOf]
  | cons m messages ih =>
    cases hm : m.pinned with
    | true =>
      cases pinned with
      | zero => simp [keepFirst, hm, ih]
      | succ p => simp [keepFirst, hm, ih, Nat.add_assoc]
    | false =>
      cases recent with
      | zero => simp [keepFirst, hm, ih]
      | succ n => simp [keepFirst, hm, ih, Nat.add_left_comm]

/-- Keeping as many of each class as there are keeps all. -/
theorem keepFirst_of_length_le {pinned recent : Nat}
    (hp : (messages.filter fun m => m.pinned = true).length ≤ pinned)
    (hr : (messages.filter fun m => m.pinned = false).length ≤ recent) :
    keepFirst pinned recent messages = messages := by
  induction messages generalizing pinned recent with
  | nil => rfl
  | cons m messages ih =>
    cases hm : m.pinned with
    | true =>
      rw [List.filter_cons_of_pos (by simpa using hm), List.length_cons] at hp
      rw [List.filter_cons_of_neg (by simp [hm])] at hr
      cases pinned with
      | zero => exact absurd hp (Nat.not_succ_le_zero _)
      | succ p =>
        simp only [keepFirst, hm]
        rw [ih (Nat.le_of_succ_le_succ hp) hr]
    | false =>
      rw [List.filter_cons_of_neg (by simp [hm])] at hp
      rw [List.filter_cons_of_pos (by simpa using hm), List.length_cons] at hr
      cases recent with
      | zero => exact absurd hr (Nat.not_succ_le_zero _)
      | succ n =>
        simp only [keepFirst, hm]
        rw [ih hp (Nat.le_of_succ_le_succ hr)]

/-- The tokens of both classes together are those of all messages. -/
theorem tokensOf_classes (messages : List Message) :
    tokensOf (messages.filter fun m => m.pinned = true)
      + tokensOf (messages.filter fun m => m.pinned = false) = tokensOf messages := by
  induction messages with
  | nil => rfl
  | cons m messages ih =>
    cases hm : m.pinned with
    | true =>
      rw [List.filter_cons_of_pos (by simpa using hm), List.filter_cons_of_neg (by simp [hm])]
      simp only [tokensOf_cons]
      omega
    | false =>
      rw [List.filter_cons_of_neg (by simp [hm]), List.filter_cons_of_pos (by simpa using hm)]
      simp only [tokensOf_cons]
      omega

/-! ### Windows -/

theorem tokensOf_reverse (messages : List Message) :
    tokensOf messages.reverse = tokensOf messages := by
  rw [tokensOf_eq_sum, tokensOf_eq_sum, List.map_reverse, List.sum_reverse]

/-- **A window fits its budget.** -/
theorem tokensOf_windowMessages_le (budget : Nat) (messages : List Message) :
    tokensOf (windowMessages budget messages) ≤ budget := by
  let pinned := fitting budget 0 ((newestFirst true messages).map Message.tokens)
  let recent := fitting budget pinned.2 ((newestFirst false messages).map Message.tokens)
  have hpinned : pinned.2 = tokensOf ((newestFirst true messages).take pinned.1) := by
    rw [tokensOf_eq_sum, List.map_take]
    exact (fitting_total ..).trans (Nat.zero_add _)
  have hrecent : recent.2
      = pinned.2 + tokensOf ((newestFirst false messages).take recent.1) := by
    rw [tokensOf_eq_sum, List.map_take]
    exact fitting_total ..
  -- the second count goes on from the first, so its end is the total of what is kept
  have htotal : tokensOf (windowMessages budget messages) = recent.2 := by
    show tokensOf (keepFirst pinned.1 recent.1 messages.reverse).reverse = recent.2
    rw [tokensOf_reverse, hrecent, hpinned]
    exact tokensOf_keepFirst ..
  rw [htotal]
  exact fitting_le (fitting_le (Nat.zero_le budget) _) _

/-- **A history that fits is not cut.** -/
theorem windowMessages_of_le (h : tokensOf messages ≤ budget) :
    windowMessages budget messages = messages := by
  have hsum : tokensOf (newestFirst true messages) + tokensOf (newestFirst false messages)
      = tokensOf messages := (tokensOf_classes messages.reverse).trans (tokensOf_reverse messages)
  have hpinned : fitting budget 0 ((newestFirst true messages).map Message.tokens)
      = ((newestFirst true messages).length, tokensOf (newestFirst true messages)) := by
    rw [fitting_of_le, List.length_map, ← tokensOf_eq_sum, Nat.zero_add]
    rw [← tokensOf_eq_sum]
    omega
  have hrecent : fitting budget (tokensOf (newestFirst true messages))
        ((newestFirst false messages).map Message.tokens)
      = ((newestFirst false messages).length, tokensOf messages) := by
    rw [fitting_of_le, List.length_map, ← tokensOf_eq_sum, hsum]
    rw [← tokensOf_eq_sum]
    omega
  have hall : keepFirst (newestFirst true messages).length (newestFirst false messages).length
      messages.reverse = messages.reverse :=
    keepFirst_of_length_le (Nat.le_refl _) (Nat.le_refl _)
  unfold windowMessages
  simp only [hpinned, hrecent]
  rw [hall, List.reverse_reverse]

end Dispatch
