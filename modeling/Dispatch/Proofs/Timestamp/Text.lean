/-
Dispatch/Proofs/Timestamp/Text.lean

Points in time read back from their texts.

A part of a text is a number of fixed width, which `takeDigits` reads to its end whatever follows,
or to the end of the digits where it could read more of them (`takeDigits_padded`).  The calendar
gives the day back (`Date.toDays_ofDays`), and the nanoseconds tell a leap second from the last
second of its minute.

So a point in time in a year of four digits is read from what is written of it, with either
spelling of the offset (`parse_clockText`).
-/
import Dispatch.Proofs.Timestamp.Calendar
import Dispatch.Timestamp.Text

namespace Dispatch.Timestamp

/-! ### Numbers of fixed width -/

theorem digitsValue_eq (ds : List Char) : digitsValue ds = Nat.ofDigitChars 10 ds 0 := by
  simp only [digitsValue, Nat.ofDigitChars, Nat.mul_comm]

/-- Nothing is passed over where the first character is not to be. -/
theorem dropWhile_of_head {p : Char → Bool} {l : List Char} (h : l.head?.any p = false) :
    l.dropWhile p = l := by
  cases l with
  | nil => rfl
  | cons c l =>
    have hc : p c = false := h
    simp [hc]

section

variable {width most n : Nat} {rest : List Char}

theorem length_padded (hwidth : 0 < width) (h : n < 10 ^ width) :
    (padded width n).toList.length = width := by
  have hle := (Nat.length_toDigits_le_iff (by decide) hwidth).mpr h
  simp only [padded, String.toList_ofList, List.length_append, List.length_replicate]
  omega

theorem isDigit_of_mem_padded {c : Char} (h : c ∈ (padded width n).toList) : c.isDigit = true := by
  simp only [padded, String.toList_ofList, List.mem_append, List.mem_replicate] at h
  rcases h with ⟨-, rfl⟩ | h
  · decide
  · exact Nat.isDigit_of_mem_toDigits (by decide) (by decide) h

theorem digitsValue_padded (width n : Nat) : digitsValue (padded width n).toList = n := by
  simp only [digitsValue_eq, padded, String.toList_ofList]
  rw [Nat.ofDigitChars_append, Nat.ofDigitChars_replicate_zero, Nat.mul_zero,
    Nat.ofDigitChars_toDigits (by decide) (by decide)]

/-- A number of fixed width is read to its end. -/
theorem takeDigits_padded (hwidth : 0 < width) (hle : width ≤ most) (h : n < 10 ^ width)
    (hrest : width < most → rest.head?.any Char.isDigit = false) :
    takeDigits most ((padded width n).toList ++ rest) = some (n, rest) := by
  have hlength := length_padded hwidth h
  have htake : (((padded width n).toList ++ rest).take most).takeWhile Char.isDigit
      = (padded width n).toList := by
    rw [List.take_append, List.take_of_length_le (by omega),
      List.takeWhile_append_of_pos fun _ => isDigit_of_mem_padded, hlength]
    -- where more digits may follow, what comes next is none
    cases hmore : most - width with
    | zero => simp
    | succ more =>
      cases rest with
      | nil => simp
      | cons c rest =>
        have hc : c.isDigit = false := hrest (by omega)
        simp [hc]
  have hne : (padded width n).toList.isEmpty = false := by
    rw [List.isEmpty_eq_false_iff, ← List.length_pos_iff, hlength]
    exact hwidth
  simp only [takeDigits, htake, hne, Bool.false_eq_true, if_false, digitsValue_padded,
    List.drop_left]

/-- A number begins with a digit. -/
theorem exists_padded_eq_cons (hwidth : 0 < width) (h : n < 10 ^ width) :
    ∃ c cs, (padded width n).toList = c :: cs ∧ c.isDigit = true := by
  have hlength := length_padded hwidth h
  cases hl : (padded width n).toList with
  | nil =>
    rw [hl] at hlength
    exact absurd hlength (Nat.ne_of_lt hwidth)
  | cons c cs => exact ⟨c, cs, rfl, isDigit_of_mem_padded (hl ▸ List.mem_cons_self)⟩

theorem skipBlanks_padded (hwidth : 0 < width) (h : n < 10 ^ width) (rest : List Char) :
    skipBlanks ((padded width n).toList ++ rest) = (padded width n).toList ++ rest := by
  obtain ⟨c, cs, hl, hc⟩ := exists_padded_eq_cons hwidth h
  rw [hl]
  exact dropWhile_of_head (isBlank_of_isDigit hc)

/-- Two digits behind a mark. -/
theorem takePart_padded {mark : Char} (hmark : isBlank mark = false) (h : n < 100)
    (rest : List Char) :
    takePart mark (mark :: ((padded 2 n).toList ++ rest)) = some (n, rest) := by
  have hskip : skipBlanks (mark :: ((padded 2 n).toList ++ rest))
      = mark :: ((padded 2 n).toList ++ rest) := dropWhile_of_head hmark
  simp only [takePart, hskip, if_true]
  rw [skipBlanks_padded (by decide) h, takeDigits_padded (by decide) (by decide) h (by simp)]

/-- A year of four digits. -/
theorem takeYear_padded (h : n < 10000) (rest : List Char) :
    takeYear ((padded 4 n).toList ++ rest) = some ((n : Int), rest) := by
  obtain ⟨c, cs, hl, hc⟩ := @exists_padded_eq_cons 4 n (by decide) h
  have hread : takeDigits 4 ((padded 4 n).toList ++ rest) = some (n, rest) :=
    takeDigits_padded (by decide) (Nat.le_refl 4) h (by simp)
  rw [takeYear, skipBlanks_padded (by decide) h]
  rw [hl, List.cons_append] at hread ⊢
  split
  · next heq =>
    obtain rfl := (List.cons.inj heq).1
    cases hc
  · next heq =>
    obtain rfl := (List.cons.inj heq).1
    cases hc
  · rw [hread]
    rfl

end

/-! ### Nanoseconds -/

/-- Decimal places are read to the end of the digits. -/
theorem takeFraction_padded {width n : Nat} {rest : List Char} (hwidth : 0 < width)
    (hle : width ≤ 9) (h : n < 10 ^ width) (hrest : rest.head?.any Char.isDigit = false) :
    takeFraction ('.' :: ((padded width n).toList ++ rest))
      = some (n * 10 ^ (9 - width), rest) := by
  have hwidths : ((padded width n).toList ++ rest).length - rest.length = width := by
    rw [List.length_append, length_padded hwidth h, Nat.add_sub_cancel]
  rw [takeFraction, takeDigits_padded hwidth hle h fun _ => hrest]
  show some (n * 10 ^ (9 - (((padded width n).toList ++ rest).length - rest.length)),
    rest.dropWhile Char.isDigit) = _
  rw [hwidths, dropWhile_of_head hrest]

/-- The nanoseconds of a second, whatever group of places they are written with. -/
theorem takeFraction_fractionText {n : Nat} {rest : List Char} (h : n < 1000000000)
    (hrest : rest.head?.any Char.isDigit = false) (hdot : rest.head? ≠ some '.') :
    takeFraction ((fractionText n).toList ++ rest) = some (n, rest) := by
  have hgroup : ∀ width m, 0 < width → width ≤ 9 → m < 10 ^ width → m * 10 ^ (9 - width) = n →
      takeFraction (("." ++ padded width m).toList ++ rest) = some (n, rest) := by
    intro width m hwidth hle hm hn
    have hpoint : ".".toList = ['.'] := by decide
    rw [String.toList_append, hpoint, List.cons_append, List.nil_append, List.cons_append, ← hn]
    exact takeFraction_padded hwidth hle hm hrest
  unfold fractionText
  split
  · next hzero =>
    subst hzero
    cases rest with
    | nil => rfl
    | cons c rest =>
      have hc : c ≠ '.' := fun hc => hdot (congrArg some hc)
      show takeFraction (c :: rest) = _
      unfold takeFraction
      split
      · next heq => exact absurd (List.cons.inj heq).1 hc
      · rfl
  · split
    · exact hgroup 3 _ (by decide) (by decide) (by omega) (by omega)
    · split
      · exact hgroup 6 _ (by decide) (by decide) (by omega) (by omega)
      · exact hgroup 9 _ (by decide) (by decide) (by omega) (by omega)

/-! ### Points in time -/

/-- Whether a point in time lies in a year of four digits, within its second, or in a leap second
behind the last second of its minute. -/
def InFourDigitYears (t : Timestamp) : Prop :=
  Date.toDays ⟨0, 1, 1⟩ * 86400 ≤ t.seconds ∧ t.seconds < Date.toDays ⟨10000, 1, 1⟩ * 86400 ∧
    (t.nanos < 1000000000 ∨ t.seconds % 60 = 59 ∧ t.nanos < 2000000000)

instance (t : Timestamp) : Decidable t.InFourDigitYears := inferInstanceAs (Decidable (_ ∧ _ ∧ _))

/-- What a reader has to find behind a point in time: an offset, and nothing that could belong to
the decimal places before it. -/
structure IsOffset (offset : List Char) (seconds : Int) : Prop where
  takeOffset_eq : takeOffset offset = some (seconds, [])
  not_isDigit : offset.head?.any Char.isDigit = false
  not_isBlank : offset.head?.any isBlank = false
  ne_dot : offset.head? ≠ some '.'

theorem isOffset_letter : IsOffset "Z".toList 0 := ⟨by decide, by decide, by decide, by decide⟩

theorem isOffset_figures : IsOffset "+00:00".toList 0 :=
  ⟨by decide, by decide, by decide, by decide⟩

/-- The text of a date with a time of day is read part by part. -/
theorem parse_parts {date : Date} (hvalid : date.isValid = true) (hyear : 0 ≤ date.year)
    (hyear' : date.year ≤ 9999) {hour minute second nanos : Nat} (hhour : hour < 24)
    (hminute : minute < 60) (hsecond : second ≤ 60) (hnanos : nanos < 1000000000)
    {offset : String} {shift : Int} (hoffset : IsOffset offset.toList shift) :
    parse (yearText date.year ++ "-" ++ padded 2 date.month ++ "-" ++ padded 2 date.day ++ "T"
        ++ padded 2 hour ++ ":" ++ padded 2 minute ++ ":" ++ padded 2 second ++ fractionText nanos
        ++ offset)
      = let held := if second = 60 then (59, nanos + 1000000000) else (second, nanos)
        ofSeconds? (date.toDays * 86400 + hour * 3600 + minute * 60 + held.1 - shift) held.2 := by
  have hyearText : yearText date.year = padded 4 date.year.toNat := if_pos ⟨hyear, hyear'⟩
  have hdate : (⟨date.year.toNat, date.month, date.day⟩ : Date) = date := by
    rw [Int.toNat_of_nonneg hyear]
  obtain ⟨hmonth, hday⟩ : date.month < 100 ∧ date.day < 100 := by
    have hdays := Date.daysInMonth_le date.year date.month
    simp only [Date.isValid, Bool.and_eq_true, decide_eq_true_eq] at hvalid
    omega
  have hmarks : "-".toList = ['-'] ∧ "T".toList = ['T'] ∧ ":".toList = [':'] := by decide
  have hskip : skipBlanks offset.toList = offset.toList := dropWhile_of_head hoffset.not_isBlank
  have hdash : isBlank '-' = false := by decide
  have hcolon : isBlank ':' = false := by decide
  have hseparator : ∀ rest, takeSeparator ('T' :: rest) = some ((), rest) := fun _ => rfl
  have hhours : ∀ rest, takeDigits 2 (skipBlanks ((padded 2 hour).toList ++ rest))
      = some (hour, rest) := by
    intro rest
    rw [skipBlanks_padded (by decide) (by omega),
      takeDigits_padded (by decide) (Nat.le_refl 2) (by omega) (by simp)]
  have hinRange : (!([] : List Char).isEmpty || !date.isValid || decide (23 < hour)
      || decide (59 < minute) || decide (60 < second)) = false := by
    simp only [hvalid, Bool.or_eq_false_iff, decide_eq_false_iff_not]
    exact ⟨⟨⟨⟨rfl, rfl⟩, by omega⟩, by omega⟩, by omega⟩
  -- each part is read to its end and leaves the parts behind it
  simp only [parse, String.toList_append, List.append_assoc, hyearText, hmarks, List.cons_append,
    List.nil_append, Option.bind_eq_bind]
  rw [takeYear_padded (by omega)]
  simp only [Option.bind_some, takePart_padded hdash hmonth, takePart_padded hdash hday, hseparator,
    hhours, takePart_padded hcolon (Nat.lt_trans hminute (by decide)),
    takePart_padded hcolon (Nat.lt_of_le_of_lt hsecond (by decide)),
    takeFraction_fractionText hnanos hoffset.not_isDigit hoffset.ne_dot, hskip,
    hoffset.takeOffset_eq, hdate]
  show (if (!([] : List Char).isEmpty || !date.isValid || decide (23 < hour)
      || decide (59 < minute) || decide (60 < second)) = true then none else _) = _
  rw [hinRange]
  rfl

/-- **A point in time is read back from its text**, with any spelling of the offset. -/
theorem parse_clockText {t : Timestamp} (h : t.InFourDigitYears) {offset : String}
    (hoffset : IsOffset offset.toList 0) : parse (t.clockText ++ offset) = some t := by
  obtain ⟨hfrom, hto, hnanos⟩ := h
  have hfirst : Date.toDays ⟨0, 1, 1⟩ = -719528 := by decide
  have hlast : Date.toDays ⟨10000, 1, 1⟩ = 2932897 := by decide
  rw [hfirst] at hfrom
  rw [hlast] at hto
  obtain ⟨hvalid, hyear, hyear'⟩ := @Date.isValid_ofDays (t.seconds / 86400) (by omega) (by omega)
  have hinRange : ∀ seconds nanos, seconds = t.seconds → nanos = t.nanos →
      ofSeconds? seconds nanos = some t := by
    rintro _ _ rfl rfl
    refine if_pos ?_
    have hmin : minSeconds = -8334601228800 := by decide
    have hmax : maxSeconds = 8210266876799 := by decide
    omega
  rw [clockText, parse_parts hvalid hyear hyear' (by omega) (by omega) ?_ (by omega) hoffset,
    Date.toDays_ofDays]
  · by_cases hleap : 1000000000 ≤ t.nanos
    · -- a leap second is written as the sixtieth of its minute
      rw [if_pos hleap, if_pos (by omega)]
      exact hinRange _ _ (by omega) (by omega)
    · rw [if_neg hleap, if_neg (by omega)]
      exact hinRange _ _ (by omega) (by omega)
  · split <;> omega

/-- What is written of a point in time is read as that point. -/
theorem parse_format {t : Timestamp} (h : t.InFourDigitYears) : parse t.format = some t :=
  parse_clockText h isOffset_letter

end Dispatch.Timestamp
