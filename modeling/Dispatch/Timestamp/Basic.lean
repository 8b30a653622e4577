/-
Dispatch/Timestamp/Basic.lean

Points in time, to the nanosecond, and the calendar.

A timestamp counts seconds from the start of 1970 in universal time.  The nanoseconds may pass
a whole second once: that is how a leap second is held, behind the last second of its minute.
Timestamps are ordered by their seconds, then by their nanoseconds.
-/

namespace Dispatch

/-- A point in time. -/
structure Timestamp where
  /-- Seconds from the start of 1970. -/
  seconds : Int
  /-- Nanoseconds beyond the second; from 10^9 on they lie in a leap second. -/
  nanos : Nat
  deriving DecidableEq, Repr, Inhabited

namespace Timestamp

/-- The start of 1970. -/
def epoch : Timestamp := ⟨0, 0⟩

/-- Whether one point is not after another. -/
def le (a b : Timestamp) : Bool :=
  a.seconds < b.seconds || (a.seconds = b.seconds && a.nanos ≤ b.nanos)

instance : LE Timestamp := ⟨fun a b => a.le b = true⟩
instance (a b : Timestamp) : Decidable (a ≤ b) := inferInstanceAs (Decidable (a.le b = true))

end Timestamp

/-! ### The calendar -/

/-- A day of the calendar; the year before year 1 is year 0. -/
structure Date where
  year : Int
  month : Nat
  day : Nat
  deriving DecidableEq, Repr

namespace Date

/-- Whether a year has a leap day. -/
def isLeapYear (year : Int) : Bool :=
  year % 4 = 0 && (year % 100 ≠ 0 || year % 400 = 0)

/-- Days of a month. -/
def daysInMonth (year : Int) (month : Nat) : Nat :=
  if month = 2 then if isLeapYear year then 29 else 28
  else if month ∈ [4, 6, 9, 11] then 30
  else 31

/-- The years that timestamps can lie in. -/
def minYear : Int := -262143

/-- The last year that timestamps can lie in. -/
def maxYear : Int := 262142

/-- Whether there is such a day. -/
def isValid (d : Date) : Bool :=
  minYear ≤ d.year && d.year ≤ maxYear && 1 ≤ d.month && d.month ≤ 12
    && 1 ≤ d.day && d.day ≤ daysInMonth d.year d.month

/-- Days from the start of 1970.  Years are counted from March, so that a leap day comes
last. -/
def toDays (d : Date) : Int :=
  let year := if d.month ≤ 2 then d.year - 1 else d.year
  let era := year / 400
  let yearOfEra := year % 400
  let month := if d.month ≤ 2 then d.month + 9 else d.month - 3
  let dayOfYear : Int := (153 * month + 2) / 5 + d.day - 1
  let dayOfEra := yearOfEra * 365 + yearOfEra / 4 - yearOfEra / 100 + dayOfYear
  era * 146097 + dayOfEra - 719468

/-- The day that lies so many days after the start of 1970. -/
def ofDays (days : Int) : Date :=
  let shifted := days + 719468
  let era := shifted / 146097
  let dayOfEra := shifted % 146097
  let yearOfEra := (dayOfEra - dayOfEra / 1460 + dayOfEra / 36524 - dayOfEra / 146096) / 365
  let dayOfYear := (dayOfEra - (365 * yearOfEra + yearOfEra / 4 - yearOfEra / 100)).toNat
  let month := (5 * dayOfYear + 2) / 153
  let day := dayOfYear - (153 * month + 2) / 5 + 1
  let year := yearOfEra + era * 400
  if month < 10 then ⟨year, month + 3, day⟩ else ⟨year + 1, month - 9, day⟩

end Date

namespace Timestamp

/-- The first second that timestamps can hold. -/
def minSeconds : Int := Date.toDays ⟨Date.minYear, 1, 1⟩ * 86400

/-- The last second that timestamps can hold. -/
def maxSeconds : Int := (Date.toDays ⟨Date.maxYear, 12, 31⟩ + 1) * 86400 - 1

/-- The timestamp of a second and its nanoseconds, if timestamps can hold it. -/
def ofSeconds? (seconds : Int) (nanos : Nat) : Option Timestamp :=
  if minSeconds ≤ seconds ∧ seconds ≤ maxSeconds then some ⟨seconds, nanos⟩ else none

end Timestamp

end Dispatch
