/-
Dispatch/Duration/Text.lean

Durations as people write them: `30s`, `250ms`, `1m 30s`.

A text is a sequence of numbers with units.  Blanks may stand anywhere, also between the digits
of one number; a number may have decimal places where the result is still exact.  Errors name
the first offence from the left, by its byte offset (`TextError.message`).  Writing splits the
duration into years of 365.25 days, months of 30.44 days, and the smaller units, and leaves out
the zero ones.
-/
import Dispatch.Duration.Basic
import Dispatch.Text.Blank

namespace Dispatch.Duration

/-! ### Units -/

/-- Units of time. -/
inductive TimeUnit where
  | nanosecond | microsecond | millisecond | second | minute | hour | day | week | month | year
  deriving DecidableEq, Repr

namespace TimeUnit

/-- The unit of a name; letter case counts. -/
def ofName? (name : String) : Option TimeUnit :=
  if name ∈ ["nanos", "nsec", "ns"] then some .nanosecond
  else if name ∈ ["usec", "us", "µs"] then some .microsecond
  else if name ∈ ["millis", "msec", "ms"] then some .millisecond
  else if name ∈ ["seconds", "second", "secs", "sec", "s"] then some .second
  else if name ∈ ["minutes", "minute", "min", "mins", "m"] then some .minute
  else if name ∈ ["hours", "hour", "hr", "hrs", "h"] then some .hour
  else if name ∈ ["days", "day", "d"] then some .day
  else if name ∈ ["weeks", "week", "wk", "wks", "w"] then some .week
  else if name ∈ ["months", "month", "M"] then some .month
  else if name ∈ ["years", "year", "yr", "yrs", "y"] then some .year
  else none

/-- Seconds of the units that have whole seconds. -/
def seconds : TimeUnit → Nat
  | nanosecond | microsecond | millisecond => 0
  | second => 1
  | minute => 60
  | hour => 3600
  | day => 86400
  | week => 604800
  | month => 2630016
  | year => 31557600

/-- Nanoseconds of the units below a second. -/
def subsecond : TimeUnit → Nat
  | nanosecond => 1
  | microsecond => 1000
  | millisecond => 1000000
  | _ => 0

/-- The grain of decimal places: what one unit is counted in, and whether the grain is a
nanosecond or a second.  Places of a nanosecond have no grain. -/
def grain? : TimeUnit → Option (Nat × Bool)
  | nanosecond => none
  | microsecond => some (1000, true)
  | millisecond => some (1000000, true)
  | second => some (1000000000, true)
  | minute => some (60000000000, true)
  | hour => some (3600, false)
  | day => some (86400, false)
  | week => some (604800, false)
  | month => some (2630016, false)
  | year => some (31557600, false)

end TimeUnit

/-! ### Errors -/

/-- Why a text is not a duration. -/
inductive TextError where
  | empty
  | numberExpected (offset : Nat)
  | invalidCharacter (offset : Nat)
  /-- Too large, or finer than a nanosecond. -/
  | notRepresentable
  /-- A number without a unit. -/
  | unitNeeded (value : Nat)
  | unknownUnit (name : String)
  deriving DecidableEq, Repr

/-- The text of an error. -/
def TextError.message : TextError → String
  | empty => "value was empty"
  | numberExpected offset => "expected number at " ++ toString offset
  | invalidCharacter offset => "invalid character at " ++ toString offset
  | notRepresentable => "number is too large or cannot be represented without a lack of "
      ++ "precision (values below 1ns are not supported)"
  | unitNeeded value => s!"time unit needed, for example {value}sec or {value}ms"
  | unknownUnit name => "unknown time unit \"" ++ name ++ "\", supported units: ns, us/µs, ms, "
      ++ "sec, min, hours, days, weeks, months, years (and few variations)"

/-! ### Reading -/

/-- A character with its byte offset. -/
abbrev Placed := Nat × Char

/-- Characters with their offsets, from `offset` on. -/
def placedFrom (offset : Nat) : List Char → List Placed
  | [] => []
  | c :: cs => (offset, c) :: placedFrom (offset + c.utf8Size) cs

/-- The offset at which a rest starts; `stop` is that of the end. -/
def offsetOf (stop : Nat) : List Placed → Nat
  | [] => stop
  | p :: _ => p.1

/-- Letters that units are made of. -/
def isUnitLetter (c : Char) : Bool :=
  ('a' ≤ c && c ≤ 'z') || ('A' ≤ c && c ≤ 'Z') || c = 'µ'

/-- Digits and blanks at the front: the digits, and what follows. -/
def takeNumber (l : List Placed) : List Char × List Placed :=
  let run := l.takeWhile fun p => p.2.isDigit || isBlank p.2
  ((run.map Prod.snd).filter Char.isDigit, l.dropWhile fun p => p.2.isDigit || isBlank p.2)

/-- The value of a run of digits. -/
def digitsValue (ds : List Char) : Nat :=
  ds.foldl (fun n d => n * 10 + (d.toNat - '0'.toNat)) 0

/-- Numbers that fit 64 bits. -/
def fits (n : Nat) : Option Nat := if n < UInt64.size then some n else none

/-- Adds seconds and nanoseconds, each of which has to fit 64 bits along the way. -/
def addParts? (total : Duration) (secs nanos : Nat) : Option Duration := do
  let s ← fits secs
  let n ← fits nanos
  let low ← fits (total.subsec + n)
  ofNanos? ((total.secs + s) * perSecond + low)

/-- Adds decimal places of a unit, if they come out whole. -/
def addPlaces? (total : Duration) (unit : TimeUnit) (places : List Char) : Option Duration := do
  let (grain, fine) ← unit.grain?
  let scaled ← fits (digitsValue places * grain)
  let parts := Nat.pow 10 places.length
  if scaled % parts = 0 then
    let n := scaled / parts
    if fine then addParts? total 0 n else addParts? total n 0
  else none

/-- Adds a number with its unit. -/
def addItem (total : Duration) (value : Nat) (places : Option (List Char)) (name : String) :
    Except TextError Duration :=
  if name = "" then .error (.unitNeeded value)
  else match TimeUnit.ofName? name with
    | none => .error (.unknownUnit name)
    | some unit =>
      match addParts? total (value * unit.seconds) (value * unit.subsecond) with
      | none => .error .notRepresentable
      | some sum =>
        match places with
        | none => .ok sum
        | some places =>
          match addPlaces? sum unit places with
          | none => .error .notRepresentable
          | some sum => .ok sum

/-- The places after a point at `offset`, and what follows them. -/
def takePlaces (stop offset : Nat) (l : List Placed) :
    Except TextError (List Char × List Placed) :=
  let (digits, rest) := takeNumber l
  -- where reading stands: at the point, until something after it was read
  let here := if rest.length < l.length then offsetOf stop rest else offset
  if 20 ≤ digits.length then .error .notRepresentable
  else match rest with
    | (_, c) :: _ =>
      if !isUnitLetter c || digits.isEmpty then .error (.invalidCharacter here)
      else .ok (digits, rest)
    | [] => if digits.isEmpty then .error (.invalidCharacter here) else .ok (digits, rest)

/-- The number, the places and the rest, from the first digit on. -/
def takeQuantity (stop : Nat) (l : List Placed) :
    Except TextError (Nat × Option (List Char) × List Placed) :=
  let (digits, rest) := takeNumber l
  match fits (digitsValue digits) with
  | none => .error .notRepresentable
  | some value =>
    match rest with
    | [] => .ok (value, none, [])
    | (offset, c) :: after =>
      if isUnitLetter c then .ok (value, none, rest)
      else if c = '.' then do
        let (places, rest) ← takePlaces stop offset after
        pure (value, some places, rest)
      else .error (.invalidCharacter offset)

/-- The unit name at the front; behind it may stand a digit, a blank or nothing. -/
def takeUnit (l : List Placed) : Except TextError (String × List Placed) :=
  let name := String.ofList ((l.takeWhile fun p => isUnitLetter p.2).map Prod.snd)
  match l.dropWhile fun p => isUnitLetter p.2 with
  | [] => .ok (name, [])
  | (offset, c) :: rest =>
    if c.isDigit || isBlank c then .ok (name, (offset, c) :: rest)
    else .error (.invalidCharacter offset)

/-- Reads items until the text ends.  An item takes at least its first digit, so as many items
as there are characters are enough. -/
def readItems (stop : Nat) : Nat → List Placed → Duration → Bool → Except TextError Duration
  | 0, _, total, _ => .ok total
  | items + 1, l, total, isFirst =>
    match l.dropWhile fun p => isBlank p.2 with
    | [] => if isFirst then .error .empty else .ok total
    | (offset, c) :: rest =>
      if !c.isDigit then .error (.numberExpected offset)
      else do
        let (value, places, afterNumber) ← takeQuantity stop ((offset, c) :: rest)
        let (name, afterUnit) ← takeUnit afterNumber
        let sum ← addItem total value places name
        readItems stop items afterUnit sum false

/-- The duration that a text says. -/
def parse (text : String) : Except TextError Duration :=
  if text = "0" then .ok zero
  else
    let l := placedFrom 0 text.toList
    readItems text.utf8ByteSize (l.length + 1) l zero true

/-! ### Writing -/

/-- A count with its unit, unless it is zero. -/
def item (count : Nat) (name : String) : List String :=
  if count = 0 then [] else [toString count ++ name]

/-- A count with a unit that has a plural, unless it is zero. -/
def pluralItem (count : Nat) (name : String) : List String :=
  item count (if 1 < count then name ++ "s" else name)

/-- The items of a duration, from years down to nanoseconds. -/
def items (d : Duration) : List String :=
  let inYear := d.secs % 31557600
  let inMonth := inYear % 2630016
  let inDay := inMonth % 86400
  pluralItem (d.secs / 31557600) "year" ++ pluralItem (inYear / 2630016) "month"
    ++ pluralItem (inMonth / 86400) "day" ++ item (inDay / 3600) "h"
    ++ item (inDay % 3600 / 60) "m" ++ item (inDay % 60) "s"
    ++ item (d.subsec / 1000000) "ms" ++ item (d.subsec / 1000 % 1000) "us"
    ++ item (d.subsec % 1000) "ns"

/-- A duration as people write it. -/
def format (d : Duration) : String :=
  if d.isZero then "0s" else " ".intercalate d.items

end Dispatch.Duration
