/-
Dispatch/Proofs/Breaker/Circuit.lean

What one step can do to one circuit.

`Circuit.Granted` lists the answers that a circuit has for a request, and `Circuit.Settled` the
circuits that an outcome can leave behind, each with the phase that it needs; `Granted.of_eq` and
`Settled.of_eq` say that these lists are complete.  What is said about circuits further on is
read off them, and `grant`, `settle` and `release` are not opened again.

A circuit *heeds* an outcome that changes it (`Circuit.Heeds`): a failure while it is closed, or
the outcome of a trial while it is half-open.
-/
import Dispatch.Resilience.Breaker

namespace Dispatch

namespace Circuit

variable {s : BreakerSettings} {now : Nat} {c : Circuit} {trial success : Bool}

/-! ### Asking for a permit -/

/-- The answers of a circuit to a request, with the circuit after each of them. -/
inductive Granted (s : BreakerSettings) (now : Nat) (c : Circuit) :
    Option (Circuit × Bool) → Prop
  | normal {failures : List Nat} (hp : c.phase = .closed failures) :
      Granted s now c (some (c, false))
  | freeSlot (hp : c.phase = .halfOpen false) :
      Granted s now c (some ({ c with phase := .halfOpen true }, true))
  | cooledDown {since : Nat} (hp : c.phase = .open since) (hc : cooled s since now = true) :
      Granted s now c (some (c.enter (.halfOpen true), true))
  | trialRunning (hp : c.phase = .halfOpen true) : Granted s now c none
  | coolingDown {since : Nat} (hp : c.phase = .open since) (hc : cooled s since now = false) :
      Granted s now c none

theorem Granted.of_eq {r : Option (Circuit × Bool)} (h : c.grant s now = r) :
    Granted s now c r := by
  subst h
  unfold grant
  rcases hp : c.phase with failures | since | running
  · exact .normal hp
  · show Granted s now c (if cooled s since now then _ else _)
    cases hc : cooled s since now with
    | true => exact .cooledDown hp hc
    | false => exact .coolingDown hp hc
  · cases running with
    | true => exact .trialRunning hp
    | false => exact .freeSlot hp

/-- While the trial runs, nobody else is let through. -/
theorem grant_of_trialRunning (hp : c.phase = .halfOpen true) : c.grant s now = none := by
  unfold grant
  rw [hp]

/-! ### Outcomes -/

/-- An outcome that the circuit takes notice of. -/
inductive Heeds (c : Circuit) : (trial success : Bool) → Prop
  | failure {failures : List Nat} (hp : c.phase = .closed failures) : Heeds c false false
  | trial {running : Bool} (hp : c.phase = .halfOpen running) (success : Bool) :
      Heeds c true success

/-- The circuits that an outcome leaves behind. -/
inductive Settled (s : BreakerSettings) (now : Nat) (c : Circuit) :
    (trial success : Bool) → Circuit → Prop
  | ignored {trial success : Bool} (h : ¬ c.Heeds trial success) : Settled s now c trial success c
  | counted {failures : List Nat} (hp : c.phase = .closed failures)
      (hlt : (recordFailure s now failures).length < s.failureThreshold) :
      Settled s now c false false { c with phase := .closed (recordFailure s now failures) }
  | tripped {failures : List Nat} (hp : c.phase = .closed failures)
      (hle : s.failureThreshold ≤ (recordFailure s now failures).length) :
      Settled s now c false false (c.enter (.open now))
  | recovered {running : Bool} (hp : c.phase = .halfOpen running) :
      Settled s now c true true (c.enter (.closed []))
  | relapsed {running : Bool} (hp : c.phase = .halfOpen running) :
      Settled s now c true false (c.enter (.open now))

theorem Settled.of_eq {c' : Circuit} (h : c.settle s trial success now = c') :
    Settled s now c trial success c' := by
  subst h
  unfold settle
  rcases hp : c.phase with failures | since | running
  · -- closed: only a failure that is no trial counts
    rcases trial with - | -
    · rcases success with - | -
      · simp only
        split
        · next hle => exact .tripped hp hle
        · next hlt => exact .counted hp (Nat.lt_of_not_le hlt)
      · exact .ignored fun h => by cases h
    · exact .ignored fun h => by cases h with | trial h' => rw [hp] at h'; cases h'
  · -- open: nothing counts
    exact .ignored fun h => by
      cases h with
      | failure h' => rw [hp] at h'; cases h'
      | trial h' => rw [hp] at h'; cases h'
  · -- half-open: only the trial counts
    rcases trial with - | -
    · exact .ignored fun h => by cases h with | failure h' => rw [hp] at h'; cases h'
    · rcases success with - | -
      · exact .relapsed hp
      · exact .recovered hp

/-- An outcome that is not heeded leaves the circuit as it is. -/
theorem settle_of_not_heeds (h : ¬ c.Heeds trial success) : c.settle s trial success now = c := by
  generalize hs : c.settle s trial success now = c'
  cases Settled.of_eq hs with
  | ignored _ => rfl
  | counted hp _ => exact absurd (.failure hp) h
  | tripped hp _ => exact absurd (.failure hp) h
  | recovered hp => exact absurd (.trial hp true) h
  | relapsed hp => exact absurd (.trial hp false) h

/-- A closed circuit stays closed or opens, whatever the outcome of a call. -/
theorem settle_of_closed {failures : List Nat} (hp : c.phase = .closed failures)
    (success : Bool) (now : Nat) :
    (∃ failures', c.settle s false success now = { c with phase := .closed failures' }) ∨
      c.settle s false success now = c.enter (.open now) := by
  generalize hs : c.settle s false success now = c'
  cases Settled.of_eq hs with
  | ignored _ => exact Or.inl ⟨failures, by rw [← hp]⟩
  | counted _ _ => exact Or.inl ⟨_, rfl⟩
  | tripped _ _ => exact Or.inr rfl

/-- The outcome of the trial ends the phase. -/
theorem settle_of_halfOpen {running : Bool} (hp : c.phase = .halfOpen running)
    (success : Bool) (now : Nat) :
    ∃ phase, (∀ r, phase ≠ .halfOpen r) ∧ c.settle s true success now = c.enter phase := by
  generalize hs : c.settle s true success now = c'
  cases Settled.of_eq hs with
  | ignored h => exact absurd (.trial hp success) h
  | recovered _ => exact ⟨.closed [], fun _ => nofun, rfl⟩
  | relapsed _ => exact ⟨.open now, fun _ => nofun, rfl⟩

/-! ### Trials without an outcome -/

@[simp] theorem release_generation (c : Circuit) : c.release.generation = c.generation := by
  unfold release
  split <;> rfl

theorem release_of_halfOpen {running : Bool} (hp : c.phase = .halfOpen running) :
    c.release.phase = .halfOpen false := by
  unfold release
  rw [hp]

/-- Only a running trial can be taken back. -/
theorem release_of_not_trialRunning (hp : c.phase ≠ .halfOpen true) : c.release = c := by
  obtain ⟨phase, generation⟩ := c
  unfold release
  rcases phase with failures | since | running
  · rfl
  · rfl
  · cases running with
    | true => exact absurd rfl hp
    | false => rfl

end Circuit

end Dispatch
