/-
Dispatch/Resilience/Backoff.lean

Delays between the attempts of a call.

The first delay is the base delay as it is.  Every further one is twice the one before, as long
as that was below the longest delay, and never more than the longest delay.  A delay is then
scaled by a factor from one half up to, but not including, one and a half.
-/
import Dispatch.Config.Settings
import Dispatch.Duration.Seconds

namespace Dispatch

namespace Backoff

/-- The delay after a delay. -/
def next (longest d : Duration) : Duration :=
  min (if d < longest then d.doubled else d) longest

/-- So many delays from a first one on. -/
def delaysFrom (longest : Duration) : Nat → Duration → List Duration
  | 0, _ => []
  | n + 1, d => d :: delaysFrom longest n (next longest d)

/-- The first delays of a call, `limit` at most. -/
def firstDelays (s : RetrySettings) (limit : Nat) : List Duration :=
  delaysFrom s.maxDelay (min limit (s.maxAttempts - 1)) s.baseDelay

/-- The delays of a call: one for each attempt but the last. -/
def delays (s : RetrySettings) : List Duration :=
  delaysFrom s.maxDelay (s.maxAttempts - 1) s.baseDelay

/-- Delays that are still to come: how many, and the next one. -/
structure Schedule where
  remaining : Nat
  delay : Duration
  deriving DecidableEq, Repr

/-- The delays of a call. -/
def Schedule.ofSettings (s : RetrySettings) : Schedule :=
  { remaining := s.maxAttempts - 1, delay := s.baseDelay }

/-- Takes the next delay; there is no delay once none is to come. -/
def Schedule.take (longest : Duration) (s : Schedule) : Duration × Schedule :=
  match s.remaining with
  | 0 => (Duration.zero, s)
  | n + 1 => (s.delay, { remaining := n, delay := next longest s.delay })

/-- Significant bits of a float of 64 bits. -/
def doubleBits : Nat := 53

/-- The seconds of a duration in 64 bits: the whole ones, plus the rest as a fraction. -/
def doubleSeconds (d : Duration) : BinaryFraction :=
  let whole := roundBits doubleBits d.secs 1
  let fraction := roundBits doubleBits d.subsec Duration.perSecond
  whole.addRounded doubleBits fraction

/-- A delay scaled by a factor, computed in 64 bits; none if it comes out too long. -/
def scaled? (factor : BinaryFraction) (d : Duration) : Option Duration :=
  Duration.ofNanos? (((doubleSeconds d).mulRounded doubleBits factor).roundScaled
    Duration.perSecond)

/-- Whether a factor is from one half up to, but not including, one and a half. -/
def isFactor (f : BinaryFraction) : Bool := f.den ≤ 2 * f.num && 2 * f.num < 3 * f.den

/-- The least factor and the greatest one of 53 bits. -/
def extremeFactors : List BinaryFraction := [⟨1, -1⟩, ⟨(3 <<< 52) - 1, -53⟩]

/-- Whether a delay stays between its half and one and a half of it, to the nanosecond, when it
is scaled by the extreme factors. -/
def scalesWithin (d : Duration) : Bool :=
  extremeFactors.all fun f =>
    match scaled? f d with
    | none => false
    | some s => d.nanos ≤ 2 * s.nanos + 2 && 2 * s.nanos ≤ 3 * d.nanos + 2

end Backoff

end Dispatch
