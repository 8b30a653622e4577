/-
Dispatch/Proofs/Conversation/Words.lean

Counting in words of 32 bits.

Tokens are counted in natural numbers here, and where counts are stored they have 32 bits.  The
definitions of this module count in words and give up at the first sum that is none
(`addWords?`).  They do the same additions in the same order as their counterparts: a message its
content and its overhead, a conversation its messages from the first on, and a window the running
count and the next message, also where that one does not fit any more.

As long as all messages together cost less than `2 ^ 32` tokens, none of them gives up, and they
come to the same numbers and the same messages (`windowWords?_eq_some`): whatever is counted is part
of the whole.
-/
import Dispatch.Proofs.Conversation.Kept

namespace Dispatch

/-! ### Counting -/

/-- The sum of two words, if it is one. -/
def addWords? (a b : UInt32) : Option UInt32 :=
  if a.toNat + b.toNat < UInt32.size then some (a + b) else none

/-- The tokens of a message in words.  The estimate is cut to a word before anything is added. -/
def Message.words? (m : Message) : Option UInt32 :=
  addWords? (.ofNat (estimateTokens m.content)) (.ofNat overheadTokens)

/-- Adds the tokens of messages to a count, one after another. -/
def addMessages? (count : UInt32) : List Message → Option UInt32
  | [] => some count
  | m :: rest => do addMessages? (← addWords? count (← m.words?)) rest

/-- `fitting` in words. -/
def fittingWords? (budget used : UInt32) : List Message → Option (Nat × UInt32)
  | [] => some (0, used)
  | m :: rest => do
    let sum ← addWords? used (← m.words?)
    if budget < sum then pure (0, used)
    else
      let r ← fittingWords? budget sum rest
      pure (r.1 + 1, r.2)

namespace Conversation

/-- `Conversation.tokens` in words. -/
def words? (c : Conversation) : Option UInt32 := addMessages? 0 c.messages

/-- `Conversation.window` in words. -/
def windowWords? (c : Conversation) (budget : UInt32) : Option Conversation := do
  let pinned ← fittingWords? budget 0 (newestFirst true c.messages)
  let recent ← fittingWords? budget pinned.2 (newestFirst false c.messages)
  pure { c with messages := (keepFirst pinned.1 recent.1 c.messages.reverse).reverse }

end Conversation

/-! ### No sum is too large -/

variable {a b : UInt32} {m : Message}

theorem exists_addWords? (h : a.toNat + b.toNat < UInt32.size) :
    ∃ n, addWords? a b = some n ∧ n.toNat = a.toNat + b.toNat := by
  refine ⟨a + b, if_pos h, ?_⟩
  rw [UInt32.toNat_add, Nat.mod_eq_of_lt h]

/-- The tokens of a message that costs less than `2 ^ 32`. -/
theorem Message.exists_words? (h : m.tokens < UInt32.size) :
    ∃ n, m.words? = some n ∧ n.toNat = m.tokens := by
  have hover : (UInt32.ofNat overheadTokens).toNat = overheadTokens := by decide
  have hestimate : (UInt32.ofNat (estimateTokens m.content)).toNat = estimateTokens m.content :=
    UInt32.toNat_ofNat_of_lt (Nat.lt_of_le_of_lt (Nat.le_add_right _ _) h)
  have hsum := exists_addWords? (a := .ofNat (estimateTokens m.content))
    (b := .ofNat overheadTokens) (by rw [hestimate, hover]; exact h)
  rw [hestimate, hover] at hsum
  exact hsum

/-- A count to which the tokens of messages are added. -/
theorem exists_addMessages? (count : UInt32) (messages : List Message)
    (h : count.toNat + tokensOf messages < UInt32.size) :
    ∃ n, addMessages? count messages = some n ∧ n.toNat = count.toNat + tokensOf messages := by
  induction messages generalizing count with
  | nil => exact ⟨count, rfl, rfl⟩
  | cons m rest ih =>
    rw [tokensOf_cons] at h ⊢
    obtain ⟨cost, hcost, hm⟩ := m.exists_words? (by omega)
    obtain ⟨sum, hsum, htotal⟩ := exists_addWords? (a := count) (b := cost) (by omega)
    obtain ⟨n, hn, hall⟩ := ih sum (by omega)
    refine ⟨n, ?_, by omega⟩
    rw [addMessages?, hcost, Option.bind_eq_bind, Option.bind_some, hsum]
    exact hn

/-- What fits is counted in words as in numbers. -/
theorem exists_fittingWords? (budget used : UInt32) (messages : List Message)
    (h : used.toNat + tokensOf messages < UInt32.size) :
    ∃ total, fittingWords? budget used messages
        = some ((fitting budget.toNat used.toNat (messages.map Message.tokens)).1, total) ∧
      total.toNat = (fitting budget.toNat used.toNat (messages.map Message.tokens)).2 := by
  induction messages generalizing used with
  | nil => exact ⟨used, rfl, rfl⟩
  | cons m rest ih =>
    rw [tokensOf_cons] at h
    obtain ⟨cost, hcost, hm⟩ := m.exists_words? (by omega)
    -- the sum is made before it is compared, so it has to be a word also where `m` does not fit
    obtain ⟨sum, hsum, htotal⟩ := exists_addWords? (a := used) (b := cost) (by omega)
    have hover : budget < sum ↔ budget.toNat < used.toNat + m.tokens := by
      rw [UInt32.lt_iff_toNat_lt, htotal, hm]
    rw [List.map_cons, fitting, fittingWords?, hcost, Option.bind_eq_bind, Option.bind_some, hsum,
      Option.bind_eq_bind, Option.bind_some]
    by_cases hlt : budget < sum
    · rw [if_pos hlt, if_pos (hover.mp hlt)]
      exact ⟨used, rfl, rfl⟩
    · obtain ⟨total, hrest, hend⟩ := ih sum (by omega)
      rw [htotal, hm] at hrest hend
      rw [if_neg hlt, if_neg fun hle => hlt (hover.mpr hle), hrest]
      exact ⟨total, rfl, hend⟩

namespace Conversation

variable {c : Conversation}

theorem exists_words? (h : c.tokens < UInt32.size) :
    ∃ n, c.words? = some n ∧ n.toNat = c.tokens := by
  have hzero : (0 : UInt32).toNat + tokensOf c.messages = c.tokens := Nat.zero_add _
  have hwords := exists_addMessages? 0 c.messages (by rw [hzero]; exact h)
  rwa [hzero] at hwords

/-- **A window is counted in words as in numbers.** -/
theorem windowWords?_eq_some (h : c.tokens < UInt32.size) (budget : UInt32) :
    c.windowWords? budget = some (c.window budget.toNat) := by
  have hclasses : tokensOf (newestFirst true c.messages) + tokensOf (newestFirst false c.messages)
      = c.tokens := (tokensOf_classes c.messages.reverse).trans (tokensOf_reverse c.messages)
  have hzero : (0 : UInt32).toNat = 0 := rfl
  obtain ⟨used, hpinned, hused⟩ := exists_fittingWords? budget 0
    (newestFirst true c.messages) (by omega)
  -- the second count begins where the first one ends, which is below all pinned messages
  have hle : used.toNat ≤ tokensOf (newestFirst true c.messages) := by
    rw [hused, hzero, fitting_pinned_total, newestFirst_eq, tokensOf_reverse]
    exact tokensOf_le_of_sublist (isNewestWithin_windowMessages _ c.messages true).suffix.sublist
  obtain ⟨total, hrecent, -⟩ := exists_fittingWords? budget used
    (newestFirst false c.messages) (by omega)
  rw [hused, hzero] at hrecent
  rw [hzero] at hpinned
  rw [windowWords?, hpinned, Option.bind_eq_bind, Option.bind_some, hrecent]
  rfl

/-- **What a window is.**  In a conversation of fewer than `2 ^ 32` tokens no sum is too large for a
word, whatever the budget.  A window changes nothing but the messages, and keeps some of these in
their order: of the pinned ones the longest end that fits the budget, and of the others the longest
end that fits what is left then.  So it fits the budget, and all pinned messages are kept unless
they alone do not fit. -/
theorem window_exact (c : Conversation) (h : c.tokens < UInt32.size) (budget : UInt32) :
    let w := c.window budget.toNat
    let pinned := tokensOf (ofClass true w.messages)
    (c.windowWords? budget = some w ∧
      (∀ m ∈ c.messages, m.words?.map UInt32.toNat = some m.tokens) ∧
      c.words?.map UInt32.toNat = some c.tokens ∧ w.words?.map UInt32.toNat = some w.tokens) ∧
    (w = { c with messages := w.messages } ∧ w.messages.Sublist c.messages ∧
      w.messages = pick (keeps (roomOf budget.toNat c.messages) c.messages) c.messages) ∧
    IsNewestWithin budget.toNat (ofClass true c.messages) (ofClass true w.messages) ∧
    IsNewestWithin (budget.toNat - pinned) (ofClass false c.messages) (ofClass false w.messages) ∧
    w.tokens ≤ budget.toNat ∧
    (ofClass true w.messages ≠ ofClass true c.messages →
      budget.toNat < tokensOf (ofClass true c.messages)) := by
  intro w pinned
  have hsublist : w.messages.Sublist c.messages := by
    show (windowMessages budget.toNat c.messages).Sublist c.messages
    rw [windowMessages_eq_keepWithin]
    exact keepWithin_sublist ..
  have hclass := isNewestWithin_windowMessages budget.toNat c.messages
  have hwhole : w.tokens < UInt32.size := Nat.lt_of_le_of_lt (tokensOf_le_of_sublist hsublist) h
  refine ⟨⟨windowWords?_eq_some h budget, fun m hm => ?_, ?_, ?_⟩,
    ⟨rfl, hsublist, windowMessages_eq_pick ..⟩, hclass true, hclass false,
    tokensOf_windowMessages_le .., fun hne => (hclass true).lt_of_ne hne⟩
  · exact Option.map_eq_some_iff.mpr (m.exists_words? (Nat.lt_of_le_of_lt (tokens_le_of_mem hm) h))
  · exact Option.map_eq_some_iff.mpr (exists_words? h)
  · exact Option.map_eq_some_iff.mpr (exists_words? hwhole)

open Example in
/-- Of five messages in fourteen tokens: the second of the two pinned ones is kept, the first one
would make it sixteen, and beside it there is room for one of the others. -/
theorem window_of_five :
    let c := conversation [(6, true), (1, false), (2, true), (3, false), (0, false)]
    let w := conversation [(2, true), (0, false)]
    c.tokens < UInt32.size ∧ c.window 14 = w ∧ c.windowWords? 14 = some w ∧
    IsNewestWithin 14 (ofClass true c.messages) (ofClass true w.messages) ∧
    IsNewestWithin (14 - 6) (ofClass false c.messages) (ofClass false w.messages) ∧
    w.tokens ≤ 14 ∧ 14 < tokensOf (ofClass true c.messages) := by
  intro c w
  have htokens : c.tokens < UInt32.size := by decide +kernel
  have hw : c.window (14 : UInt32).toNat = w := by decide +kernel
  have hexact := window_exact c htokens 14
  rw [hw] at hexact
  obtain ⟨⟨hwords, -⟩, -, hpinned, hothers, hfits, hdropped⟩ := hexact
  exact ⟨htokens, hw, hwords, hpinned, hothers, hfits, hdropped (by decide +kernel)⟩

end Conversation

end Dispatch
