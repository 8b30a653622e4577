/-
Dispatch/Proofs/Conversation/Composition.lean

Cutting a conversation twice.

A window fits its budget, so cutting it again to the same budget does nothing.  Cutting to a greater
budget first makes no difference either, as long as the smaller one has room for all pinned
messages: then the greater budget is more room for both classes, and keeping less of what was kept
with more room comes to keeping less at once (`keepWithin_keepWithin`).

Where the smaller budget drops a pinned message, it may have more room for the others.  A pinned
message that fits no more leaves them its place, so a window may keep what a wider one drops.
-/
import Dispatch.Proofs.Conversation.Kept

namespace Dispatch

variable {budget b b' : Nat} {messages : List Message}

/-! ### Room -/

/-- The pinned messages are all kept where they fit. -/
theorem pinned_windowMessages_of_le (h : tokensOf (ofClass true messages) ≤ budget) :
    ofClass true (windowMessages budget messages) = ofClass true messages := by
  rw [windowMessages_eq_keepWithin]
  exact ofClass_keepWithin_of_le h

/-- Where no pinned message is dropped, more budget is more room for all. -/
theorem roomOf_mono (hle : b ≤ b') (h : tokensOf (ofClass true messages) ≤ b) (k : Bool) :
    roomOf b messages k ≤ roomOf b' messages k := by
  cases k with
  | true => exact hle
  | false =>
    rw [roomOf, roomOf, pinned_windowMessages_of_le h,
      pinned_windowMessages_of_le (Nat.le_trans h hle)]
    exact Nat.sub_le_sub_right hle _

/-- What matters for the room is the pinned messages that are kept. -/
theorem roomOf_congr {messages' : List Message}
    (h : ofClass true (windowMessages b messages) = ofClass true (windowMessages b messages')) :
    roomOf b messages = roomOf b messages' := by
  funext k
  cases k with
  | true => rfl
  | false => rw [roomOf, roomOf, h]

/-! ### Windows of windows -/

/-- **Windows compose.**  Cutting twice to the same budget is cutting once.  Where the pinned
messages cost no more than a budget, a greater budget keeps every message that this one keeps, and
cutting to the greater budget first makes no difference. -/
theorem windows_compose (c : Conversation) {b b' : Nat} (h : b ≤ b') :
    (c.window b).window b = c.window b ∧
    (tokensOf (ofClass true c.messages) ≤ b →
      (∀ i, keeps (roomOf b c.messages) c.messages i = true →
        keeps (roomOf b' c.messages) c.messages i = true) ∧
      (c.window b').window b = c.window b) ∧
    ∀ budget, (c.window budget).messages
      = pick (keeps (roomOf budget c.messages) c.messages) c.messages := by
  refine ⟨?_, fun hpinned => ⟨fun i hi => ?_, ?_⟩, fun budget => windowMessages_eq_pick ..⟩
  · exact congrArg (fun messages => { c with messages })
      (windowMessages_of_le (tokensOf_windowMessages_le b c.messages))
  · exact keeps_mono (roomOf_mono h hpinned) hi
  · refine congrArg (fun messages => { c with messages }) ?_
    show windowMessages b (windowMessages b' c.messages) = windowMessages b c.messages
    -- the first cut drops no pinned message, so the second has the same room for the others
    have hkept : ofClass true (windowMessages b' c.messages) = ofClass true c.messages :=
      pinned_windowMessages_of_le (Nat.le_trans hpinned h)
    have hroom : roomOf b (windowMessages b' c.messages) = roomOf b c.messages := by
      apply roomOf_congr
      rw [pinned_windowMessages_of_le (hkept ▸ hpinned), pinned_windowMessages_of_le hpinned, hkept]
    rw [windowMessages_eq_keepWithin b, windowMessages_eq_keepWithin b c.messages, hroom,
      windowMessages_eq_keepWithin b']
    exact keepWithin_keepWithin (roomOf_mono h hpinned) c.messages

open Conversation.Example in
/-- Of four messages, one of them pinned, fourteen tokens keep two, and twenty-one keep three. -/
theorem windows_compose_of_four :
    let c := conversation [(1, false), (2, true), (3, false), (4, false)]
    (14 ≤ 21 ∧ tokensOf (ofClass true c.messages) ≤ 14) ∧
    (c.window 14).messages = (conversation [(2, true), (4, false)]).messages ∧
    (c.window 21).messages = (conversation [(2, true), (3, false), (4, false)]).messages ∧
    (∀ i, keeps (roomOf 14 c.messages) c.messages i = true →
      keeps (roomOf 21 c.messages) c.messages i = true) ∧
    (c.window 21).window 14 = c.window 14 := by
  intro c
  have hle : 14 ≤ 21 := by decide
  have hpinned : tokensOf (ofClass true c.messages) ≤ 14 := by decide +kernel
  refine ⟨⟨hle, hpinned⟩, by decide +kernel, by decide +kernel, ?_⟩
  exact (windows_compose c hle).2.1 hpinned

open Conversation.Example in
/-- Where the pinned message does not fit, the other one has its place. -/
example :
    let c := conversation [(4, true), (0, false)]
    (c.window 4).messages = (conversation [(0, false)]).messages ∧
    (c.window 8).messages = (conversation [(4, true)]).messages ∧
    ((c.window 8).window 4).messages = [] := by
  decide +kernel

end Dispatch
