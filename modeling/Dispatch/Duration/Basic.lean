/-
Dispatch/Duration/Basic.lean

Lengths of time, to the nanosecond, shorter than 2^64 seconds.

A duration is its number of nanoseconds with the bound in the type, so equality and order are
those of natural numbers.  Operations that could pass the bound either say so (`ofSecs?`,
`add?`) or stop at the longest duration (`saturating`).
-/

namespace Dispatch

/-- A length of time, to the nanosecond. -/
structure Duration where
  nanos : Nat
  bounded : nanos < UInt64.size * 1000000000 := by decide
  deriving DecidableEq

namespace Duration

/-- Nanoseconds in a second. -/
def perSecond : Nat := 1000000000

/-- Durations have fewer nanoseconds than this. -/
def bound : Nat := UInt64.size * 1000000000

/-- No time at all. -/
def zero : Duration := ⟨0, by decide⟩

/-- The longest duration. -/
def max : Duration := ⟨UInt64.size * 1000000000 - 1, by decide⟩

instance : Inhabited Duration := ⟨zero⟩
instance : Repr Duration := ⟨fun d n => reprPrec d.nanos n⟩

instance : LE Duration := ⟨fun a b => a.nanos ≤ b.nanos⟩
instance : LT Duration := ⟨fun a b => a.nanos < b.nanos⟩
instance (a b : Duration) : Decidable (a ≤ b) := inferInstanceAs (Decidable (a.nanos ≤ b.nanos))
instance (a b : Duration) : Decidable (a < b) := inferInstanceAs (Decidable (a.nanos < b.nanos))
instance : Min Duration := ⟨fun a b => if a.nanos ≤ b.nanos then a else b⟩
instance : Max Duration := ⟨fun a b => if a.nanos ≤ b.nanos then b else a⟩

/-- Whole seconds. -/
def secs (d : Duration) : Nat := d.nanos / perSecond

/-- Nanoseconds beyond the whole seconds. -/
def subsec (d : Duration) : Nat := d.nanos % perSecond

/-- Whether no time passes. -/
def isZero (d : Duration) : Bool := d.nanos = 0

/-- So many nanoseconds, if that is within the bound. -/
def ofNanos? (n : Nat) : Option Duration :=
  if h : n < UInt64.size * 1000000000 then some ⟨n, h⟩ else none

/-- So many nanoseconds, or the longest duration. -/
def saturating (n : Nat) : Duration := (ofNanos? n).getD max

/-- Seconds and nanoseconds. -/
def ofParts? (secs nanos : Nat) : Option Duration := ofNanos? (secs * perSecond + nanos)

/-- Whole seconds, or the longest duration. -/
def ofSecs (n : Nat) : Duration := saturating (n * perSecond)

/-- Whole milliseconds, or the longest duration. -/
def ofMillis (n : Nat) : Duration := saturating (n * 1000000)

theorem ext_nanos {a b : Duration} (h : a.nanos = b.nanos) : a = b := by
  cases a; cases b; cases h; rfl

theorem le_iff {a b : Duration} : a ≤ b ↔ a.nanos ≤ b.nanos := Iff.rfl

theorem lt_iff {a b : Duration} : a < b ↔ a.nanos < b.nanos := Iff.rfl

theorem nanos_min (a b : Duration) : (min a b).nanos = min a.nanos b.nanos :=
  apply_ite nanos _ _ _

theorem ofNanos?_eq_some {n : Nat} {d : Duration} : ofNanos? n = some d ↔ d.nanos = n := by
  unfold ofNanos?
  split
  · next h =>
    constructor
    · rintro ⟨⟩; rfl
    · rintro rfl; rfl
  · next h =>
    constructor
    · rintro ⟨⟩
    · rintro rfl; exact absurd d.bounded h

theorem nanos_saturating (n : Nat) : (saturating n).nanos = min n (UInt64.size * 1000000000 - 1) := by
  unfold saturating ofNanos?
  split
  · next h => simp only [Option.getD_some]; omega
  · next h => simp only [Option.getD_none, max]; omega

theorem secs_mul_add_subsec (d : Duration) : d.secs * perSecond + d.subsec = d.nanos :=
  Nat.div_add_mod' d.nanos perSecond

end Duration

end Dispatch
