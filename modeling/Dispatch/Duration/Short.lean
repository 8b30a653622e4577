/-
Dispatch/Duration/Short.lean

Durations in messages: one number in the largest unit whose whole part is not zero, with up to
nine decimal places and no trailing zeros, as in `1.5s` or `333.333333ms`.
-/
import Dispatch.Duration.Basic

namespace Dispatch.Duration

/-- Decimal places of `part / unit`, where `unit` is a power of ten, without trailing
zeros. -/
def places (part : Nat) (width : Nat) : String :=
  let digits := Nat.toDigits 10 part
  let padded := List.replicate (width - digits.length) '0' ++ digits
  let kept := (padded.reverse.dropWhile (· = '0')).reverse
  if kept.isEmpty then "" else String.ofList ('.' :: kept)

/-- A whole number, the places after it, and a unit. -/
def inUnit (nanos width : Nat) (unit : String) : String :=
  toString (nanos / Nat.pow 10 width) ++ places (nanos % Nat.pow 10 width) width ++ unit

/-- A duration as messages show it. -/
def short (d : Duration) : String :=
  if 1000000000 ≤ d.nanos then inUnit d.nanos 9 "s"
  else if 1000000 ≤ d.nanos then inUnit d.nanos 6 "ms"
  else if 1000 ≤ d.nanos then inUnit d.nanos 3 "µs"
  else toString d.nanos ++ "ns"

end Dispatch.Duration
