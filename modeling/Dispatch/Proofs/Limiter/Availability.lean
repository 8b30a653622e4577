/-
Dispatch/Proofs/Limiter/Availability.lean

What a caller is told of its tokens, and what an attempt makes of them.

Who asks for the tokens of a caller is told what its bucket would hold if it were counted now, and a
caller without a bucket is said to have a full one.  An attempt may drop other buckets, make one, and
count it anew.  Both come to the same number, whatever the time and whether there is a bucket or not,
so the number that is told decides the attempt (`available_truthful`).  It lies between nothing and
the capacity, for so does every bucket (`Sound`, `Capped`): a turn leaves a bucket, drops it, or puts
there what an attempt has left of such a number.

An attempt takes a token or nothing, but it also moves the time from which the bucket gains, and it
may move it back: a caller reads the clock before it is its turn, so attempts may come out of order.
A bucket that is counted back to an earlier time gains once more what it had gained from there
(`countedTwice`).  The attempt earns nothing exactly if that is no more than what it took, or the
bucket is full anyway (`attempt_earns_nothing_iff`).
-/
import Dispatch.Proofs.Limiter.Tokens

namespace Dispatch

/-! ### Answers -/

/-- What somebody is answered in a turn. -/
inductive LimiterReply (α : Type) where
  | admission (answer : Except Duration Unit)
  /-- So many buckets were dropped. -/
  | pruned (count : Nat)
  | tokens (count : α)

/-- Whether a turn only asks. -/
def LimiterTurn.asks : LimiterTurn → Bool
  | acquire .. | prune .. => false
  | available .. => true

namespace Limiter

section

variable {α : Type} [TokenCount α]

/-- What is answered in a turn. -/
def reply (l : Limiter α) : LimiterTurn → LimiterReply α
  | .acquire caller now => .admission (l.acquire caller now).2
  | .prune idle now => .pruned (l.prune idle now).2
  | .available caller now => .tokens (l.available caller now)

/-- What is answered in the turns of a run. -/
def replies (l : Limiter α) : List LimiterTurn → List (LimiterReply α)
  | [] => []
  | t :: ts => l.reply t :: (l.step t).replies ts

theorem step_of_asks {t : LimiterTurn} (h : t.asks = true) (l : Limiter α) : l.step t = l := by
  cases t with
  | acquire caller now => cases h
  | prune idle now => cases h
  | available caller now => rfl

/-- A run comes to where it would have come if nobody had asked for tokens. -/
theorem run_unasked (l : Limiter α) (ts : List LimiterTurn) :
    l.run (ts.filter fun t => !t.asks) = l.run ts := by
  induction ts generalizing l with
  | nil => rfl
  | cons t ts ih =>
    cases hasks : t.asks with
    | true =>
      rw [List.filter_cons_of_neg (by simp [hasks]), ih, run_cons, step_of_asks hasks]
    | false => rw [List.filter_cons_of_pos (by simp [hasks]), run_cons, run_cons, ih]

end

variable {l : Limiter Rat} {caller : String} {t : LimiterTurn} {m n : Nat}

/-! ### The range of buckets -/

/-- No bucket holds more than the capacity. -/
def Capped (l : Limiter Rat) : Prop :=
  ∀ caller b, l.buckets.get? caller = some b → b.tokens ≤ l.capacity

theorem capped_exact (capacity : Nat) (refillRate : Rat) (maxTracked : Nat) :
    (exact capacity refillRate maxTracked).Capped := nofun

theorem Capped.step (h : l.Capped) (t : LimiterTurn) : (l.step t).Capped := by
  intro caller b hb
  have hturned := l.turned caller t
  rw [hb] at hturned
  generalize hx : some b = x at hturned
  rw [capacity_step]
  cases hturned with
  | tried _ =>
    rw [counted_eq, spent_eq] at hx
    obtain rfl := Option.some.inj hx
    exact (left_le _).trans (available_le_capacity l caller t.now)
  | untouched _ => exact h caller b hx.symm
  | forgotten _ => cases hx

theorem Capped.run (h : l.Capped) (ts : List LimiterTurn) : (l.run ts).Capped :=
  run_of_invariant h fun _ t h => h.step t

/-! ### After an attempt -/

/-- An attempt earns nothing if the bucket was not counted later than that. -/
theorem available_after_attempt_le_of_counted (h : t.isBy caller = true)
    (hcounted : ∀ b, l.buckets.get? caller = some b → b.countedAt ≤ t.now) (hn : t.now ≤ n) :
    (l.step t).available caller n ≤ l.available caller n := by
  rw [available_after_attempt h]
  cases hb : l.buckets.get? caller with
  | none =>
    rw [available_of_none hb n]
    exact min_le_right _ _
  | some b =>
    have hc : b.countedAt ≤ t.now := hcounted b hb
    have hsplit : n - b.countedAt = (t.now - b.countedAt) + (n - t.now) := by omega
    have hthen : l.available caller t.now ≤ b.tokens + l.gain (t.now - b.countedAt) :=
      (available_of_some hb t.now).trans_le (min_le_left _ _)
    have hleft := left_le (l.available caller t.now)
    rw [available_of_some hb n, hsplit, gain_add]
    exact min_le_min_right _ (by linarith)

/-- The nanoseconds before `n` that a bucket gains from twice if an attempt at `m` counts it back:
those from `m` to when it was counted last. -/
def countedTwice (l : Limiter Rat) (caller : String) (m n : Nat) : Nat :=
  match l.buckets.get? caller with
  | none => 0
  | some b => min n b.countedAt - m

theorem countedTwice_eq_zero
    (hcounted : ∀ b, l.buckets.get? caller = some b → b.countedAt ≤ m) (n : Nat) :
    l.countedTwice caller m n = 0 := by
  unfold countedTwice
  cases hb : l.buckets.get? caller with
  | none => rfl
  | some b =>
    have hc : b.countedAt ≤ m := hcounted b hb
    show min n b.countedAt - m = 0
    omega

theorem min_le_min_right_iff {a b c : Rat} : min a c ≤ min b c ↔ min b c = c ∨ a ≤ b := by
  rw [min_eq_right_iff, le_min_iff, min_le_iff, and_iff_left (min_le_right a c), or_comm]

/-- An attempt earns nothing exactly if what is gained twice is no more than what it took, or the
bucket is full anyway. -/
theorem available_after_attempt_le_iff (hl : l.Capped) (h : t.isBy caller = true) (hn : t.now ≤ n) :
    (l.step t).available caller n ≤ l.available caller n ↔
      l.available caller n = l.capacity ∨
        l.gain (l.countedTwice caller t.now n)
          ≤ l.available caller t.now - left (l.available caller t.now) := by
  by_cases hcounted : ∀ b, l.buckets.get? caller = some b → b.countedAt ≤ t.now
  · -- time goes forward, and nothing is gained twice
    refine iff_of_true (available_after_attempt_le_of_counted h hcounted hn) (Or.inr ?_)
    rw [countedTwice_eq_zero hcounted, gain_zero]
    exact sub_nonneg.mpr (left_le _)
  · -- time goes back: the attempt gains nothing by itself, but what comes after it gains more
    push Not at hcounted
    obtain ⟨b, hb, hlate⟩ := hcounted
    have htwice : l.countedTwice caller t.now n = min n b.countedAt - t.now := by
      unfold countedTwice
      rw [hb]
    have hnow : l.available caller t.now = b.tokens := by
      rw [available_of_some hb, Nat.sub_eq_zero_of_le hlate.le, gain_zero, add_zero]
      exact min_eq_left (hl caller b hb)
    have hsplit : n - t.now = (n - b.countedAt) + (min n b.countedAt - t.now) := by omega
    rw [available_after_attempt h, available_of_some hb n, htwice, hnow, hsplit, gain_add,
      min_le_min_right_iff]
    refine or_congr_right ?_
    constructor <;> intro hle <;> linarith

theorem sub_left (x : Rat) : x - left x = if 1 ≤ x then 1 else 0 := by
  unfold left
  split <;> ring

/-- **When an attempt earns nothing.**  In every state that a limiter can come to, at whatever times
it is used: after an attempt a caller has, then or later, no more tokens than it would have without
it, exactly if its bucket would be full, or what the bucket gains twice until then is no more than
the token that the attempt took.  An attempt whose time is not before the last count makes nothing
count twice; an earlier one does, and if it is refused it has taken nothing. -/
theorem attempt_earns_nothing_iff (capacity : Nat) (refillRate : Rat) (maxTracked : Nat)
    (turns : List LimiterTurn) (caller : String) {m n : Nat} (h : m ≤ n) :
    let l := (exact capacity refillRate maxTracked).run turns
    (l.acquire caller m).1.available caller n ≤ l.available caller n ↔
      l.available caller n = capacity ∨
        l.gain (l.countedTwice caller m n)
          ≤ if (l.acquire caller m).2.isOk = true then 1 else 0 := by
  intro l
  have hcapped : l.Capped := (capped_exact capacity refillRate maxTracked).run turns
  have hcapacity : l.capacity = capacity := capacity_run _ turns
  have hby := LimiterTurn.isBy_acquire caller m
  have hiff := available_after_attempt_le_iff hcapped hby h
  rw [hcapacity, sub_left] at hiff
  simp only [isOk_acquire, decide_eq_true_eq]
  exact hiff

/-- An attempt that comes half a second after its time takes a token, and half a token is counted
twice. -/
theorem nothing_for_belated_attempt :
    let l := (exact 3 1 10000).run [.acquire "alice" 1000000000]
    500000000 ≤ 1000000000 ∧
    l.gain (l.countedTwice "alice" 500000000 1000000000) = 1 / 2 ∧
    (l.acquire "alice" 500000000).2.isOk = true ∧
    (l.acquire "alice" 500000000).1.available "alice" 1000000000
      ≤ l.available "alice" 1000000000 := by
  intro l
  have htimes : 500000000 ≤ 1000000000 := by decide
  have htwice : l.gain (l.countedTwice "alice" 500000000 1000000000) = 1 / 2 := by decide +kernel
  have hgranted : (l.acquire "alice" 500000000).2.isOk = true := by decide +kernel
  refine ⟨htimes, htwice, hgranted, ?_⟩
  refine (attempt_earns_nothing_iff 3 1 10000 [.acquire "alice" 1000000000] "alice"
    htimes).mpr (Or.inr ?_)
  show l.gain _ ≤ if (l.acquire "alice" 500000000).2.isOk = true then (1 : Rat) else 0
  rw [htwice, if_pos hgranted]
  norm_num

/-- An attempt that comes a second after its time is refused, and brings its caller a token that it
did not have: the second before the bucket was counted is counted again. -/
theorem token_for_belated_attempt :
    let l := (exact 1 1 10000).run [.acquire "alice" 1000000000]
    l.available "alice" 1000000000 = 0 ∧
    (l.acquire "alice" 0).2.isOk = false ∧
    (l.acquire "alice" 0).1.available "alice" 1000000000 = 1 ∧
    ¬ (l.acquire "alice" 0).1.available "alice" 1000000000
      ≤ l.available "alice" 1000000000 := by
  decide +kernel

/-! ### The truth about tokens -/

/-- **What a caller is told of its tokens is true.**  In every state that a limiter can come to, at
whatever times it is used: every bucket holds between nothing and the capacity.  An attempt is
granted exactly if a whole token is told, and right after it one token less is told if it was
granted, and as much as before if not.  Whatever happens later is answered as if nobody had ever
asked for tokens. -/
theorem available_truthful (capacity : Nat) {refillRate : Rat} (hrate : 0 < refillRate)
    (maxTracked : Nat) (turns : List LimiterTurn) (caller : String) (now : Nat) :
    let l := (exact capacity refillRate maxTracked).run turns
    (∀ c b, l.buckets.get? c = some b → 0 ≤ b.tokens ∧ b.tokens ≤ capacity) ∧
    ((l.acquire caller now).2.isOk = true ↔ 1 ≤ l.available caller now) ∧
    (l.acquire caller now).1.available caller now
      = (if (l.acquire caller now).2.isOk = true then l.available caller now - 1
          else l.available caller now) ∧
    ∀ later, l.replies later
      = ((exact capacity refillRate maxTracked).run
          (turns.filter fun t => !t.asks)).replies later := by
  intro l
  have hsound : l.Sound := (sound_exact capacity hrate maxTracked).run turns
  have hcapped : l.Capped := (capped_exact capacity refillRate maxTracked).run turns
  have hcapacity : l.capacity = capacity := capacity_run _ turns
  refine ⟨fun c b hb => ⟨hsound.tokens hb, hcapacity ▸ hcapped c b hb⟩, ?_, ?_, fun later => ?_⟩
  · rw [isOk_acquire, decide_eq_true_eq]
  · simp only [isOk_acquire, decide_eq_true_eq]
    exact available_step_of_isBy (LimiterTurn.isBy_acquire caller now) l
  · rw [run_unasked]

/-- After two attempts, the second of them with an earlier time, a caller is told that it has half a
token, and is refused. -/
theorem half_a_token_after_two_attempts :
    let turns : List LimiterTurn := [
      .acquire "alice" 2000000000, .available "bob" 0, .acquire "alice" 1000000000,
      .prune .zero 1500000000, .available "alice" 2000000000]
    let l := (exact 2 (1 / 2) 1).run turns
    ((0 : Rat) < 1 / 2) ∧ l.available "alice" 2000000000 = 1 / 2 ∧
    (l.acquire "alice" 2000000000).2.isOk = false ∧
    (l.acquire "alice" 2000000000).1.available "alice" 2000000000 = 1 / 2 := by
  intro turns l
  have hrate : (0 : Rat) < 1 / 2 := by norm_num
  have htold : l.available "alice" 2000000000 = 1 / 2 := by decide +kernel
  obtain ⟨-, hgranted, hafter, -⟩ :=
    available_truthful 2 hrate 1 turns "alice" 2000000000
  have hrefused : ¬ (l.acquire "alice" 2000000000).2.isOk = true := by
    rw [hgranted]
    show ¬ 1 ≤ l.available "alice" 2000000000
    rw [htold]
    norm_num
  refine ⟨hrate, htold, by simpa using hrefused, ?_⟩
  rw [if_neg hrefused] at hafter
  exact hafter.trans htold

end Limiter

end Dispatch
