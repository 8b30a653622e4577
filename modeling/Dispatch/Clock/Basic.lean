/-
Dispatch/Clock/Basic.lean

Times and timers.

A time is a number of nanoseconds after a common start.  Timers fire on whole milliseconds: a
timer that is set for a while fires on the first millisecond that is not before its end, so it
never fires early, and a timer for no time at all fires at once when it is set on a millisecond.
-/
import Dispatch.Duration.Basic

namespace Dispatch.Clock

/-- Nanoseconds between the points where timers fire. -/
def grid : Nat := 1000000

/-- Times that can be represented come before this one. -/
def bound : Nat := (1 <<< 63) * 1000000000

/-- The time a while after another, if it can be represented. -/
def after? (now : Nat) (d : Duration) : Option Nat :=
  if now + d.nanos < bound then some (now + d.nanos) else none

/-- The first point of the grid that is not before a time. -/
def onGrid (t : Nat) : Nat := (t + (grid - 1)) / grid * grid

/-- When a timer fires that is set at `now`. -/
def fires (now : Nat) (d : Duration) : Nat := onGrid (now + d.nanos)

theorem le_onGrid (t : Nat) : t ≤ onGrid t := by
  simp only [onGrid, grid]
  omega

theorem onGrid_le_of_dvd {t u : Nat} (h : t ≤ u) (hu : grid ∣ u) : onGrid t ≤ u := by
  obtain ⟨k, rfl⟩ := hu
  simp only [onGrid, grid] at *
  omega

end Dispatch.Clock
