/-
Dispatch/Timestamp/Text.lean

Timestamps as texts: `2024-02-29T23:59:59.500Z`.

Reading is lenient: blanks may stand between the parts, a blank or a small letter may stand for
the `T`, the offset may be written with or without a colon, and digits beyond the ninth place
are passed over.  Writing is in universal time, with as many groups of three places as the
nanoseconds need.
-/
import Dispatch.Text.Blank
import Dispatch.Timestamp.Basic

namespace Dispatch.Timestamp

/-! ### Reading -/

/-- A reading step: a value and what is left. -/
abbrev Step (α : Type) := Option (α × List Char)

/-- Passes over blanks. -/
def skipBlanks (l : List Char) : List Char := l.dropWhile isBlank

/-- The value of a run of digits. -/
def digitsValue (ds : List Char) : Nat :=
  ds.foldl (fun n d => n * 10 + (d.toNat - '0'.toNat)) 0

/-- A number of one digit up to `most` digits. -/
def takeDigits (most : Nat) (l : List Char) : Step Nat :=
  let ds := (l.take most).takeWhile Char.isDigit
  if ds.isEmpty then none else some (digitsValue ds, l.drop ds.length)

/-- A number of any length. -/
def takeAllDigits (l : List Char) : Step Nat :=
  let ds := l.takeWhile Char.isDigit
  if ds.isEmpty then none else some (digitsValue ds, l.drop ds.length)

/-- A year: four digits at most, or a sign and any number of digits. -/
def takeYear (l : List Char) : Step Int :=
  match skipBlanks l with
  | '-' :: rest => (takeAllDigits rest).map fun r => (-(r.1 : Int), r.2)
  | '+' :: rest => (takeAllDigits rest).map fun r => ((r.1 : Int), r.2)
  | rest => (takeDigits 4 rest).map fun r => ((r.1 : Int), r.2)

/-- A mark between two numbers, and the two digits after it. -/
def takePart (mark : Char) (l : List Char) : Step Nat :=
  match skipBlanks l with
  | c :: rest => if c = mark then takeDigits 2 (skipBlanks rest) else none
  | [] => none

/-- The letter between the day and the hour. -/
def takeSeparator : List Char → Step Unit
  | c :: rest => if c ∈ ['t', 'T', ' '] then some ((), rest) else none
  | [] => none

/-- Decimal places of a second, as nanoseconds. -/
def takeFraction : List Char → Option (Nat × List Char)
  | '.' :: rest => do
    let (n, after) ← takeDigits 9 rest
    let width := rest.length - after.length
    pure (n * Nat.pow 10 (9 - width), after.dropWhile Char.isDigit)
  | rest => some (0, rest)

/-- The seconds of an offset from universal time. -/
def takeOffset (l : List Char) : Step Int :=
  match l with
  | [] => none
  | c :: rest =>
    if c = 'Z' || c = 'z' then some (0, rest)
    else if (l.take 3).map Char.toUpper = ['U', 'T', 'C'] then some (0, l.drop 3)
    else if c = '+' || c = '-' || c = '\u2212' then
      match rest with
      | h1 :: h2 :: rest =>
        match rest.dropWhile fun x => x = ':' || isBlank x with
        | m1 :: m2 :: rest =>
          if [h1, h2, m1, m2].all Char.isDigit && m1 < '6' then
            let seconds : Int := digitsValue [h1, h2] * 3600 + digitsValue [m1, m2] * 60
            if seconds < 86400 then some (if c = '+' then seconds else -seconds, rest) else none
          else none
        | _ => none
      | _ => none
    else none

/-- The point in time that a text says. -/
def parse (text : String) : Option Timestamp := do
  let (year, l) ← takeYear text.toList
  let (month, l) ← takePart '-' l
  let (day, l) ← takePart '-' l
  let ((), l) ← takeSeparator l
  let (hour, l) ← takeDigits 2 (skipBlanks l)
  let (minute, l) ← takePart ':' l
  let (second, l) ← takePart ':' l
  let (nanos, l) ← takeFraction l
  let (offset, l) ← takeOffset (skipBlanks l)
  let date : Date := ⟨year, month, day⟩
  if !(skipBlanks l).isEmpty || !date.isValid || 23 < hour || 59 < minute || 60 < second then
    none
  else
    -- a leap second is held in the nanoseconds of the second before it
    let (second, nanos) := if second = 60 then (59, nanos + 1000000000) else (second, nanos)
    ofSeconds? (date.toDays * 86400 + hour * 3600 + minute * 60 + second - offset) nanos

/-! ### Writing -/

/-- A number with at least `width` digits. -/
def padded (width n : Nat) : String :=
  let ds := Nat.toDigits 10 n
  String.ofList (List.replicate (width - ds.length) '0' ++ ds)

/-- A year: four digits, and a sign where it is outside of these. -/
def yearText (year : Int) : String :=
  if 0 ≤ year ∧ year ≤ 9999 then padded 4 year.toNat
  else (if year < 0 then "-" else "+") ++ padded 4 year.natAbs

/-- Decimal places of a second, in groups of three. -/
def fractionText (nanos : Nat) : String :=
  if nanos = 0 then ""
  else if nanos % 1000000 = 0 then "." ++ padded 3 (nanos / 1000000)
  else if nanos % 1000 = 0 then "." ++ padded 6 (nanos / 1000)
  else "." ++ padded 9 nanos

/-- A point in time as a text, up to the offset from universal time. -/
def clockText (t : Timestamp) : String :=
  let date := Date.ofDays (t.seconds / 86400)
  let inDay := (t.seconds % 86400).toNat
  let leap := if 1000000000 ≤ t.nanos then 1 else 0
  yearText date.year ++ "-" ++ padded 2 date.month ++ "-" ++ padded 2 date.day ++ "T"
    ++ padded 2 (inDay / 3600) ++ ":" ++ padded 2 (inDay / 60 % 60) ++ ":"
    ++ padded 2 (inDay % 60 + leap) ++ fractionText (t.nanos % 1000000000)

/-- A point in time as a text. -/
def format (t : Timestamp) : String := t.clockText ++ "Z"

end Dispatch.Timestamp
