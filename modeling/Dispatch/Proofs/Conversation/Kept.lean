/-
Dispatch/Proofs/Conversation/Kept.lean

Which messages a window keeps.

A window counts the messages of a class from the newest on, and stops where one does not fit.  So a
message is kept exactly if it fits the room of its class together with all later messages of the
class (`keeps`).  The pinned ones have the whole budget for room, and the others what is left of it
(`roomOf`); what is kept of a class is its longest end that fits (`IsNewestWithin`).

All proofs go through `keepWithin`, which asks this question of one message after another from the
oldest on, and needs no count.  `windowMessages_eq_keepWithin` says that a window is just that.
-/
import Dispatch.Proofs.Conversation.Window

namespace Dispatch

/-! ### Classes -/

/-- The messages of a class, in their order. -/
def ofClass (pinned : Bool) (messages : List Message) : List Message :=
  messages.filter fun m => m.pinned = pinned

section

variable {k : Bool} {m : Message} {messages rest : List Message}

theorem ofClass_cons_self (m : Message) (rest : List Message) :
    ofClass m.pinned (m :: rest) = m :: ofClass m.pinned rest :=
  List.filter_cons_of_pos (decide_eq_true rfl)

theorem ofClass_cons_of_ne (h : m.pinned ≠ k) : ofClass k (m :: rest) = ofClass k rest :=
  List.filter_cons_of_neg (by simpa using h)

theorem ofClass_append (k : Bool) (l l' : List Message) :
    ofClass k (l ++ l') = ofClass k l ++ ofClass k l' := List.filter_append ..

theorem ofClass_reverse (k : Bool) (messages : List Message) :
    ofClass k messages.reverse = (ofClass k messages).reverse := List.filter_reverse ..

theorem newestFirst_eq (k : Bool) (messages : List Message) :
    newestFirst k messages = (ofClass k messages).reverse := ofClass_reverse k messages

theorem tokensOf_append (l l' : List Message) :
    tokensOf (l ++ l') = tokensOf l + tokensOf l' := by
  rw [tokensOf_eq_sum, List.map_append, List.sum_append, ← tokensOf_eq_sum, ← tokensOf_eq_sum]

/-- Some of the messages cost no more than all. -/
theorem tokensOf_le_of_sublist {part : List Message} (h : part.Sublist messages) :
    tokensOf part ≤ tokensOf messages := by
  induction h with
  | slnil => exact Nat.le_refl _
  | cons m _ ih => exact Nat.le_trans ih (Nat.le_add_left _ _)
  | cons_cons m _ ih => exact Nat.add_le_add_left ih m.tokens

theorem tokens_le_of_mem (h : m ∈ messages) : m.tokens ≤ tokensOf messages :=
  tokensOf_le_of_sublist (List.singleton_sublist.mpr h)

end

/-! ### The longest end that fits -/

/-- What is kept of a class: the longest part at its end that fits a budget. -/
structure IsNewestWithin (budget : Nat) (history kept : List Message) : Prop where
  suffix : kept <:+ history
  fits : tokensOf kept ≤ budget
  longest : ∀ part, part <:+ history → tokensOf part ≤ budget → part <:+ kept

/-- Leaves out messages from the oldest on until the rest fits a budget. -/
def newestWithin (budget : Nat) : List Message → List Message
  | [] => []
  | m :: rest =>
    if m.tokens + tokensOf rest ≤ budget then m :: rest else newestWithin budget rest

section

variable {budget : Nat} {messages : List Message}

theorem newestWithin_of_le (h : tokensOf messages ≤ budget) :
    newestWithin budget messages = messages := by
  cases messages with
  | nil => rfl
  | cons m rest => exact if_pos h

theorem isNewestWithin_newestWithin (budget : Nat) (messages : List Message) :
    IsNewestWithin budget messages (newestWithin budget messages) := by
  induction messages with
  | nil => exact ⟨List.suffix_rfl, Nat.zero_le _, fun _ h _ => h⟩
  | cons m rest ih =>
    unfold newestWithin
    split
    · next hle => exact ⟨List.suffix_rfl, hle, fun _ h _ => h⟩
    · next hnot =>
      refine ⟨ih.suffix.trans (List.suffix_cons m rest), ih.fits, fun part hpart hle => ?_⟩
      rcases List.suffix_cons_iff.mp hpart with rfl | hpart
      · exact absurd hle hnot
      · exact ih.longest part hpart hle

/-- Where something is left out, all together does not fit. -/
theorem IsNewestWithin.lt_of_ne {kept : List Message} (h : IsNewestWithin budget messages kept)
    (hne : kept ≠ messages) : budget < tokensOf messages := by
  by_contra hle
  have hall := h.longest messages List.suffix_rfl (Nat.le_of_not_lt hle)
  exact hne (h.suffix.eq_of_length_le hall.length_le)

end

/-! ### Keeping what fits the room of its class -/

/-- Keeps a message if it fits the room of its class together with all later ones of the class. -/
def keepWithin (room : Bool → Nat) : List Message → List Message
  | [] => []
  | m :: rest =>
    if m.tokens + tokensOf (ofClass m.pinned rest) ≤ room m.pinned then
      m :: keepWithin room rest
    else keepWithin room rest

section

variable {room room' : Bool → Nat} {k : Bool} {messages : List Message}

theorem keepWithin_sublist (room : Bool → Nat) (messages : List Message) :
    (keepWithin room messages).Sublist messages := by
  induction messages with
  | nil => exact List.Sublist.slnil
  | cons m rest ih =>
    unfold keepWithin
    split
    · exact ih.cons_cons m
    · exact ih.cons m

/-- **Of each class the longest end is kept that fits its room.** -/
theorem ofClass_keepWithin (room : Bool → Nat) (k : Bool) (messages : List Message) :
    ofClass k (keepWithin room messages) = newestWithin (room k) (ofClass k messages) := by
  induction messages with
  | nil => rfl
  | cons m rest ih =>
    unfold keepWithin
    by_cases hk : m.pinned = k
    · subst hk
      rw [ofClass_cons_self, newestWithin]
      split
      · next hle =>
        rw [ofClass_cons_self, ih, newestWithin_of_le]
        exact Nat.le_trans (Nat.le_add_left _ _) hle
      · exact ih
    · rw [ofClass_cons_of_ne hk]
      split
      · rw [ofClass_cons_of_ne hk, ih]
      · exact ih

/-- A class that fits its room is kept. -/
theorem ofClass_keepWithin_of_le (h : tokensOf (ofClass k messages) ≤ room k) :
    ofClass k (keepWithin room messages) = ofClass k messages :=
  (ofClass_keepWithin room k messages).trans (newestWithin_of_le h)

/-- **Keeping less of what was kept with more room comes to keeping less at once.**  A message that
goes with the first step would go with the second, and one that stays has all the later ones of its
class still behind it. -/
theorem keepWithin_keepWithin (h : ∀ k, room k ≤ room' k) (messages : List Message) :
    keepWithin room (keepWithin room' messages) = keepWithin room messages := by
  induction messages with
  | nil => rfl
  | cons m rest ih =>
    by_cases hfits : m.tokens + tokensOf (ofClass m.pinned rest) ≤ room' m.pinned
    · -- all later messages of the class stay, so `m` costs the same in the second step
      have hlater : ofClass m.pinned (keepWithin room' rest) = ofClass m.pinned rest :=
        ofClass_keepWithin_of_le (Nat.le_trans (Nat.le_add_left _ _) hfits)
      rw [keepWithin, if_pos hfits, keepWithin, hlater, ih, keepWithin]
    · have hnot : ¬ m.tokens + tokensOf (ofClass m.pinned rest) ≤ room m.pinned :=
        fun hle => hfits (Nat.le_trans hle (h m.pinned))
      rw [keepWithin, if_neg hfits, ih, keepWithin, if_neg hnot]

end

/-! ### Windows keep what fits -/

section

variable {k : Bool} {budget used n : Nat} {costs : List Nat} {m : Message}
  {messages rest : List Message}

/-- One more than `n` of the costs are counted exactly if so many fit. -/
theorem lt_fitting_iff :
    n < (fitting budget used costs).1 ↔
      n < costs.length ∧ used + (costs.take (n + 1)).sum ≤ budget := by
  induction costs generalizing used n with
  | nil => simp [fitting]
  | cons cost costs ih =>
    unfold fitting
    split
    · next hover =>
      have hnot : ¬ used + ((cost :: costs).take (n + 1)).sum ≤ budget := by
        rw [List.take_succ_cons, List.sum_cons]
        omega
      exact iff_of_false (Nat.not_lt_zero n) fun h => hnot h.2
    · next hfits =>
      cases n with
      | zero =>
        simp only [Nat.zero_add, List.length_cons, List.take_succ_cons, List.take_zero,
          List.sum_cons, List.sum_nil]
        omega
      | succ n =>
        simp only [Nat.add_lt_add_iff_right, ih, List.length_cons, List.take_succ_cons,
          List.sum_cons, Nat.add_assoc]

/-- The first message is kept if its class has a place left, and takes it. -/
theorem keepFirst_cons (pinned recent : Nat) (m : Message) (rest : List Message) :
    keepFirst pinned recent (m :: rest)
      = if 0 < (if m.pinned then pinned else recent) then
          m :: keepFirst (pinned - m.pinned.toNat) (recent - (!m.pinned).toNat) rest
        else keepFirst pinned recent rest := by
  cases hm : m.pinned <;> cases pinned <;> cases recent <;> simp [keepFirst, hm]

/-- Of a history that goes on, newest first, the next message is kept if fewer of its class have
been kept than may be. -/
theorem keepFirst_append_singleton (pinned recent : Nat) (messages : List Message) (m : Message) :
    keepFirst pinned recent (messages ++ [m])
      = keepFirst pinned recent messages
        ++ if (ofClass m.pinned messages).length < (if m.pinned then pinned else recent)
            then [m] else [] := by
  -- induction from the newest on, as places are taken
  induction messages generalizing pinned recent with
  | nil =>
    rw [List.nil_append, keepFirst_cons]
    split <;> simp_all [keepFirst, ofClass]
  | cons x messages ih =>
    rw [List.cons_append, keepFirst_cons, keepFirst_cons]
    by_cases hplace : 0 < (if x.pinned then pinned else recent)
    · -- the place that `x` takes is gone for the later messages of its class
      have hless : (ofClass m.pinned messages).length
            < (if m.pinned then pinned - x.pinned.toNat else recent - (!x.pinned).toNat) ↔
          (ofClass m.pinned (x :: messages)).length < (if m.pinned then pinned else recent) := by
        cases hx : x.pinned <;> cases hm : m.pinned <;> simp_all [ofClass] <;> omega
      rw [if_pos hplace, if_pos hplace, ih, if_congr hless rfl rfl, List.cons_append]
    · -- the class of `x` has no place, before it or after
      have hsame : (ofClass m.pinned messages).length < (if m.pinned then pinned else recent) ↔
          (ofClass m.pinned (x :: messages)).length < (if m.pinned then pinned else recent) := by
        cases hx : x.pinned <;> cases hm : m.pinned <;> simp_all [ofClass]
      rw [if_neg hplace, if_neg hplace, ih, if_congr hsame rfl rfl]

/-- A message is among the first that are counted of its class exactly if it fits together with all
later ones. -/
theorem length_lt_fitting_iff (budget used : Nat) {front : List Message}
    (h : messages = front ++ m :: rest) :
    (ofClass m.pinned rest).length
        < (fitting budget used ((newestFirst m.pinned messages).map Message.tokens)).1 ↔
      used + (m.tokens + tokensOf (ofClass m.pinned rest)) ≤ budget := by
  -- newest first, the later messages of the class come before `m`, and the earlier ones after it
  have hnewest : newestFirst m.pinned messages
      = ((ofClass m.pinned rest).reverse ++ [m]) ++ (ofClass m.pinned front).reverse := by
    rw [newestFirst_eq, h, ofClass_append, ofClass_cons_self, List.reverse_append,
      List.reverse_cons]
  have hlength : ((ofClass m.pinned rest).reverse ++ [m]).length
      = (ofClass m.pinned rest).length + 1 := by
    rw [List.length_append, List.length_reverse, List.length_singleton]
  have htake : ((newestFirst m.pinned messages).map Message.tokens).take
      ((ofClass m.pinned rest).length + 1)
      = ((ofClass m.pinned rest).reverse ++ [m]).map Message.tokens := by
    rw [← List.map_take, hnewest, ← hlength, List.take_left]
  have hsome : (ofClass m.pinned rest).length
      < ((newestFirst m.pinned messages).map Message.tokens).length := by
    rw [List.length_map, hnewest, List.length_append, hlength]
    omega
  rw [lt_fitting_iff, and_iff_right hsome, htake, ← tokensOf_eq_sum, tokensOf_append,
    tokensOf_reverse, Nat.add_comm (tokensOf _), tokensOf_cons, tokensOf_nil, Nat.add_zero]

/-- Keeping the newest of each class is keeping what fits, if the counts say what fits. -/
theorem reverse_keepFirst_eq_keepWithin {pinned recent : Nat} {room : Bool → Nat}
    (h : ∀ front m rest, messages = front ++ m :: rest →
      ((ofClass m.pinned rest).length < (if m.pinned then pinned else recent) ↔
        m.tokens + tokensOf (ofClass m.pinned rest) ≤ room m.pinned)) :
    (keepFirst pinned recent messages.reverse).reverse = keepWithin room messages := by
  induction messages with
  | nil => rfl
  | cons m rest ih =>
    have hrest := ih fun front m' rest' heq => h (m :: front) m' rest' (by rw [heq]; rfl)
    have hm := h [] m rest rfl
    rw [List.reverse_cons, keepFirst_append_singleton, List.reverse_append, hrest, keepWithin]
    have hclass : (ofClass m.pinned rest.reverse).length = (ofClass m.pinned rest).length := by
      rw [ofClass_reverse, List.length_reverse]
    rw [hclass]
    by_cases hfits : m.tokens + tokensOf (ofClass m.pinned rest) ≤ room m.pinned
    · rw [if_pos (hm.mpr hfits), if_pos hfits]
      rfl
    · rw [if_neg fun hlt => hfits (hm.mp hlt), if_neg hfits]
      rfl

/-- The room of a class in a window: the pinned messages have the whole budget, and the others what
the pinned ones that are kept leave of it. -/
def roomOf (budget : Nat) (messages : List Message) : Bool → Nat
  | true => budget
  | false => budget - tokensOf (ofClass true (windowMessages budget messages))

theorem ofClass_true_keepFirst (pinned recent : Nat) (messages : List Message) :
    ofClass true (keepFirst pinned recent messages) = (ofClass true messages).take pinned := by
  induction messages generalizing pinned recent with
  | nil => simp [keepFirst, ofClass]
  | cons m messages ih =>
    rw [keepFirst_cons]
    cases hm : m.pinned <;> cases pinned <;> cases recent <;> simp_all [ofClass]

/-- The count of the others begins with what the pinned messages that are kept cost. -/
theorem fitting_pinned_total (budget : Nat) (messages : List Message) :
    (fitting budget 0 ((newestFirst true messages).map Message.tokens)).2
      = tokensOf (ofClass true (windowMessages budget messages)) := by
  have hkept : ofClass true (windowMessages budget messages)
      = ((newestFirst true messages).take
          (fitting budget 0 ((newestFirst true messages).map Message.tokens)).1).reverse := by
    rw [windowMessages, ofClass_reverse, ofClass_true_keepFirst]
    rfl
  rw [hkept, tokensOf_reverse, tokensOf_eq_sum, List.map_take]
  exact (fitting_total ..).trans (Nat.zero_add _)

/-- **A window keeps what fits the room of its class.** -/
theorem windowMessages_eq_keepWithin (budget : Nat) (messages : List Message) :
    windowMessages budget messages = keepWithin (roomOf budget messages) messages := by
  refine reverse_keepFirst_eq_keepWithin fun front m rest heq => ?_
  cases hm : m.pinned with
  | true =>
    have hcount := length_lt_fitting_iff budget 0 heq
    rw [hm, Nat.zero_add] at hcount
    exact hcount
  | false =>
    have hcount := length_lt_fitting_iff budget
      (fitting budget 0 ((newestFirst true messages).map Message.tokens)).2 heq
    have hle : (fitting budget 0 ((newestFirst true messages).map Message.tokens)).2 ≤ budget :=
      fitting_le (Nat.zero_le budget) _
    rw [hm] at hcount
    refine hcount.trans ?_
    rw [roomOf, ← fitting_pinned_total]
    omega

/-- **Of each class a window keeps the longest end that fits its room.** -/
theorem isNewestWithin_windowMessages (budget : Nat) (messages : List Message) (k : Bool) :
    IsNewestWithin (roomOf budget messages k) (ofClass k messages)
      (ofClass k (windowMessages budget messages)) := by
  rw [windowMessages_eq_keepWithin, ofClass_keepWithin]
  exact isNewestWithin_newestWithin ..

end

/-! ### Positions -/

/-- The messages at the positions that are wanted, in their order. -/
def pick (wanted : Nat → Bool) (messages : List Message) : List Message :=
  (messages.zipIdx.filter fun e => wanted e.2).map Prod.fst

/-- Whether there is a message at a position that fits the room of its class together with all later
messages of the class. -/
def keeps (room : Bool → Nat) (messages : List Message) (i : Nat) : Bool :=
  match messages[i]? with
  | none => false
  | some m => tokensOf (ofClass m.pinned (messages.drop i)) ≤ room m.pinned

section

variable {i : Nat} {m : Message}

theorem pick_cons (wanted : Nat → Bool) (m : Message) (rest : List Message) :
    pick wanted (m :: rest)
      = if wanted 0 then m :: pick (fun i => wanted (i + 1)) rest
        else pick (fun i => wanted (i + 1)) rest := by
  have hrest : ((rest.zipIdx 1).filter fun e => wanted e.2).map Prod.fst
      = pick (fun i => wanted (i + 1)) rest := by
    rw [List.zipIdx_succ, List.filter_map, List.map_map]
    rfl
  rw [pick, List.zipIdx_cons, List.filter_cons]
  split
  · rw [List.map_cons, Nat.zero_add, hrest]
  · rw [Nat.zero_add, hrest]

theorem keeps_eq_true_iff {room : Bool → Nat} (hm : messages[i]? = some m) :
    keeps room messages i = true ↔
      tokensOf (ofClass m.pinned (messages.drop i)) ≤ room m.pinned := by
  rw [keeps, hm]
  exact decide_eq_true_iff

/-- The positions that are kept with less room are kept with more. -/
theorem keeps_mono {room room' : Bool → Nat} (h : ∀ k, room k ≤ room' k)
    (hi : keeps room messages i = true) : keeps room' messages i = true := by
  cases hm : messages[i]? with
  | none =>
    rw [keeps, hm] at hi
    cases hi
  | some m =>
    rw [keeps_eq_true_iff hm] at hi ⊢
    exact Nat.le_trans hi (h m.pinned)

theorem keepWithin_eq_pick (room : Bool → Nat) (messages : List Message) :
    keepWithin room messages = pick (keeps room messages) messages := by
  induction messages with
  | nil => rfl
  | cons m rest ih =>
    have hfirst : keeps room (m :: rest) 0 = true ↔
        m.tokens + tokensOf (ofClass m.pinned rest) ≤ room m.pinned := by
      rw [keeps_eq_true_iff (m := m) rfl, List.drop_zero, ofClass_cons_self, tokensOf_cons]
    have hlater : (fun i => keeps room (m :: rest) (i + 1)) = keeps room rest := rfl
    rw [keepWithin, pick_cons, hlater, ← ih, if_congr hfirst rfl rfl]

/-- **A window keeps what fits the room of its class together with all that comes later.** -/
theorem windowMessages_eq_pick (budget : Nat) (messages : List Message) :
    windowMessages budget messages = pick (keeps (roomOf budget messages) messages) messages :=
  (windowMessages_eq_keepWithin budget messages).trans (keepWithin_eq_pick _ messages)

end

/-! ### Conversations of given sizes -/

namespace Conversation.Example

/-- A message that costs four tokens more than a number. -/
def message (tokens : Nat) (pinned : Bool) : Message where
  role := .user
  content := String.ofList (List.replicate (4 * tokens) 'x')
  timestamp := .epoch
  pinned := pinned

/-- A conversation of messages of these sizes, some of them pinned. -/
def conversation (sizes : List (Nat × Bool)) : Conversation where
  id := "c"
  messages := sizes.map fun s => message s.1 s.2
  createdAt := .epoch
  updatedAt := .epoch

end Conversation.Example

end Dispatch
