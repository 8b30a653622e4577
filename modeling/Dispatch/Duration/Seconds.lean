/-
Dispatch/Duration/Seconds.lean

Durations as seconds with a fraction: in floats of 64 bits, in exact quotients, and in floats of
32 bits.

A number of seconds becomes a duration by rounding to the nearest nanosecond, a tie to the even
one (`ofFloat?`, `ofQuotient?`).  Doubling in 32 bits (`doubled`) keeps 24 significant bits of the
seconds and of the nanoseconds, so a doubled duration may be a little more or less than twice
as long.
-/
import Dispatch.Duration.Basic
import Dispatch.Number.Binary64
import Dispatch.Number.Rounding

namespace Dispatch.Duration

/-! ### Floats of 64 bits -/

/-- The seconds of a number of nanoseconds: the whole ones, plus the rest as a fraction. -/
def floatSeconds (nanos : Nat) : Float :=
  (nanos / perSecond).toUInt64.toFloat + (nanos % perSecond).toUInt64.toFloat / 1000000000.0

/-- The duration of a number of seconds; none if it is negative, too large, or no number. -/
def ofFloat? (seconds : Float) : Option Duration :=
  match Binary64.decode seconds with
  | .finite negative m e =>
    if negative && m ≠ 0 then none else ofNanos? (BinaryFraction.roundScaled ⟨m, e⟩ perSecond)
  | _ => none

/-! ### Exact quotients -/

/-- The duration of an exact number of seconds; none if it is negative or too large. -/
def ofRat? (seconds : Rat) : Option Duration :=
  if seconds < 0 then none
  else ofNanos? (roundDiv (seconds.num.toNat * perSecond) seconds.den)

/-! ### Floats of 32 bits -/

/-- Significant bits of a float of 32 bits. -/
def singleBits : Nat := 24

/-- The seconds of a duration in 32 bits: the whole ones, plus the rest as a fraction. -/
def singleSeconds (d : Duration) : BinaryFraction :=
  let whole := roundBits singleBits d.secs 1
  let nanos := roundBits singleBits d.subsec 1
  let fraction := roundBits singleBits nanos.num (nanos.den * perSecond)
  whole.addRounded singleBits fraction

/-- Twice as long, computed in 32 bits, or the longest duration. -/
def doubled (d : Duration) : Duration :=
  let seconds := d.singleSeconds
  saturating (BinaryFraction.roundScaled { seconds with exp := seconds.exp + 1 } perSecond)

end Dispatch.Duration
