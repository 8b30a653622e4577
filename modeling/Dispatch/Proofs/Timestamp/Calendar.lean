/-
Dispatch/Proofs/Timestamp/Calendar.lean

Days counted from the start of 1970, and the days of the calendar.

Years are counted from March here, so that a leap day is the last day of its year.  Four hundred
years make an era of 146097 days.  A day of an era lies in one of its four centuries, in one of the
25 cycles of that, each of four years, in a year of the cycle, and is a day of that year
(`EraDay`).  Only the last year of a cycle may have a leap day, and the last cycle of a century has
one only in the last century.

`Date.ofDays` finds the year by a division that is corrected for the leap days in front
(`yearOfEra_eq`).  So every number of days is the number of some day of the calendar
(`toDays_ofDays`, `isValid_ofDays`).
-/
import Mathlib.Tactic.IntervalCases
import Dispatch.Timestamp.Basic

namespace Dispatch.Date

/-! ### Eras -/

/-- A day of an era: century, cycle of four years, year of the cycle, and day of the year. -/
structure EraDay (century cycle year day : Int) : Prop where
  century_nonneg : 0 ≤ century
  century_le : century ≤ 3
  cycle_nonneg : 0 ≤ cycle
  cycle_le : cycle ≤ 24
  year_nonneg : 0 ≤ year
  year_le : year ≤ 3
  day_nonneg : 0 ≤ day
  /-- The last day of a leap year is its leap day. -/
  day_le : day ≤ 364 ∨ day = 365 ∧ year = 3 ∧ (cycle < 24 ∨ century = 3)

theorem exists_eraDay {n : Int} (h : 0 ≤ n) (hlt : n < 146097) :
    ∃ century cycle year day, EraDay century cycle year day ∧
      n = 36524 * century + 1461 * cycle + 365 * year + day := by
  -- the last day of an era, and of a cycle, is one more than the parts before it have
  let century := min 3 (n / 36524)
  let inCentury := n - 36524 * century
  let cycle := inCentury / 1461
  let inCycle := inCentury - 1461 * cycle
  let year := min 3 (inCycle / 365)
  refine ⟨century, cycle, year, inCycle - 365 * year, ?_, by omega⟩
  constructor <;> omega

/-- The division that finds the year of a day of an era. -/
theorem yearOfEra_eq {century cycle year day n : Int} (h : EraDay century cycle year day)
    (hn : n = 36524 * century + 1461 * cycle + 365 * year + day) :
    (n - n / 1460 + n / 36524 - n / 146096) / 365 = 100 * century + 4 * cycle + year := by
  obtain ⟨_, hcentury, _, hcycle, _, hyear, _, hday⟩ := h
  by_cases hlast : n = 146096
  · subst hlast
    omega
  · have hcenturies : n / 36524 = century := by omega
    have heras : n / 146096 = 0 := by omega
    -- one day is taken off for every 1460 days, so the last of them may come early in its cycle
    obtain ⟨early, hearly⟩ : ∃ early, n / 1460 = 25 * century + cycle + early :=
      ⟨n / 1460 - (25 * century + cycle), by omega⟩
    have hle : 0 ≤ early ∧ early ≤ 1 := by omega
    have hday' : 0 ≤ day - early ∧ day - early ≤ 364 := by omega
    rw [hcenturies, heras, hearly, hn]
    clear hn hlast hcenturies heras hearly
    omega

/-- The days of an era before a year. -/
theorem daysBefore_eq {century cycle year day : Int} (h : EraDay century cycle year day) :
    let yearOfEra := 100 * century + 4 * cycle + year
    365 * yearOfEra + yearOfEra / 4 - yearOfEra / 100
      = 36524 * century + 1461 * cycle + 365 * year := by
  obtain ⟨_, hcentury, _, hcycle, _, hyear, _, _⟩ := h
  intro yearOfEra
  have hfour : yearOfEra / 4 = 25 * century + cycle := by omega
  have hhundred : yearOfEra / 100 = century := by omega
  rw [hfour, hhundred]
  omega

/-! ### Days of the calendar -/

/-- A day, given by its place in a year that begins in March. -/
def ofYearDay (year : Int) (day : Nat) : Date :=
  let month := (5 * day + 2) / 153
  let dayOfMonth := day - (153 * month + 2) / 5 + 1
  if month < 10 then ⟨year, month + 3, dayOfMonth⟩ else ⟨year + 1, month - 9, dayOfMonth⟩

theorem toDays_ofYearDay {era yearOfEra : Int} (h : 0 ≤ yearOfEra) (hlt : yearOfEra < 400)
    {day : Nat} (hle : day ≤ 365) :
    (ofYearDay (yearOfEra + era * 400) day).toDays
      = era * 146097 + (365 * yearOfEra + yearOfEra / 4 - yearOfEra / 100 + day) - 719468 := by
  have hera : (yearOfEra + era * 400) / 400 = era := by omega
  have hmod : (yearOfEra + era * 400) % 400 = yearOfEra := by omega
  have hday : ∀ month : Nat, month = (5 * day + 2) / 153 →
      (153 * (month : Int) + 2) / 5 + ((day - (153 * month + 2) / 5 + 1 : Nat) : Int) - 1
        = day := by
    omega
  unfold ofYearDay
  dsimp only
  split
  · next hmonth =>
    simp only [toDays]
    rw [if_neg (by omega), if_neg (by omega), hera, hmod, Nat.add_sub_cancel, hday _ rfl,
      Int.mul_comm 365]
  · next hmonth =>
    simp only [toDays]
    rw [if_pos (by omega), if_pos (by omega), Int.add_sub_cancel, hera, hmod,
      Nat.sub_add_cancel (by omega), hday _ rfl, Int.mul_comm 365]

theorem ofDays_eq (days : Int) : ∃ era century cycle year day,
    EraDay century cycle year day ∧
    days = era * 146097 + (36524 * century + 1461 * cycle + 365 * year + day) - 719468 ∧
    ofDays days = ofYearDay (100 * century + 4 * cycle + year + era * 400) day.toNat := by
  obtain ⟨century, cycle, year, day, h, hn⟩ :=
    exists_eraDay (Int.emod_nonneg (days + 719468) (by decide))
      (Int.emod_lt_of_pos (days + 719468) (by decide))
  refine ⟨(days + 719468) / 146097, century, cycle, year, day, h, by omega, ?_⟩
  have hyear := yearOfEra_eq h hn
  have hbefore := daysBefore_eq h
  unfold ofDays
  dsimp only at hbefore ⊢
  rw [hyear, hn, hbefore, Int.add_comm _ day, Int.add_sub_cancel]
  rfl

/-- **Every number of days is the number of a day of the calendar.** -/
theorem toDays_ofDays (days : Int) : (ofDays days).toDays = days := by
  obtain ⟨era, century, cycle, year, day, h, hdays, heq⟩ := ofDays_eq days
  have hbefore := daysBefore_eq h
  obtain ⟨_, hcentury, _, hcycle, _, hyear, _, hday⟩ := h
  rw [heq, toDays_ofYearDay (by omega) (by omega) (by omega), hbefore,
    Int.toNat_of_nonneg (by assumption), hdays]

theorem daysInMonth_le (year : Int) (month : Nat) : daysInMonth year month ≤ 31 := by
  unfold daysInMonth
  split
  · split <;> decide
  · split <;> decide

/-- A day of the year is in its month, where only a leap year has a leap day. -/
theorem ofYearDay_mem_month {year : Int} {day : Nat} (hle : day ≤ 365)
    (hleap : day = 365 → isLeapYear (year + 1) = true) :
    let date := ofYearDay year day
    1 ≤ date.month ∧ date.month ≤ 12 ∧ 1 ≤ date.day ∧
      date.day ≤ daysInMonth date.year date.month := by
  have hmonth : (5 * day + 2) / 153 < 12 := by omega
  unfold ofYearDay
  dsimp only
  generalize hm : (5 * day + 2) / 153 = month at hmonth
  obtain ⟨hfrom, hto⟩ : 153 * month ≤ 5 * day + 2 ∧ 5 * day + 2 < 153 * month + 153 := by omega
  clear hm
  -- February is the last month of a year that begins in March
  by_cases hfebruary : month = 11
  · subst hfebruary
    rw [if_neg (by decide)]
    dsimp only
    refine ⟨by decide, by decide, Nat.le_add_left .., ?_⟩
    by_cases hday : day = 365
    · subst hday
      simp [daysInMonth, hleap rfl]
    · have hshort : ∀ b : Bool, 28 ≤ if b then 29 else 28 := by decide
      exact Nat.le_trans (by omega) (hshort _)
  · have hlt : month < 11 := by omega
    interval_cases month <;> simp [daysInMonth] <;> omega

/-- **A day that is found is a day of the calendar**, if its year is one of four digits. -/
theorem isValid_ofDays {days : Int} (h : -719528 ≤ days) (hlt : days < 2932897) :
    (ofDays days).isValid = true ∧ 0 ≤ (ofDays days).year ∧ (ofDays days).year ≤ 9999 := by
  obtain ⟨era, century, cycle, year, day, heraDay, hdays, heq⟩ := ofDays_eq days
  obtain ⟨_, hcentury, _, hcycle, _, hyear, _, hday⟩ := heraDay
  -- the year after a year that ends with a leap day is a leap year of the calendar
  have hleap : day.toNat = 365 →
      isLeapYear (100 * century + 4 * cycle + year + era * 400 + 1) = true := by
    intro hlast
    simp only [isLeapYear, Bool.and_eq_true, Bool.or_eq_true, decide_eq_true_eq]
    omega
  have hmonth := ofYearDay_mem_month (by omega) hleap
  have hyears : 0 ≤ (ofDays days).year ∧ (ofDays days).year ≤ 9999 := by
    have hera : -1 ≤ era ∧ era ≤ 24 := by omega
    -- at both ends a calendar year is a part of a year that begins in March
    have hfirst : era = -1 → century = 3 ∧ cycle = 24 ∧ year = 3 ∧ 306 ≤ day := by omega
    have hlast : era = 24 → century = 3 → cycle = 24 → year = 3 → day ≤ 305 := by omega
    rw [heq]
    unfold ofYearDay
    dsimp only
    split <;> dsimp only <;> omega
  refine ⟨?_, hyears⟩
  rw [← heq] at hmonth
  dsimp only at hmonth
  simp only [isValid, Bool.and_eq_true, decide_eq_true_eq]
  unfold minYear maxYear
  omega

end Dispatch.Date
