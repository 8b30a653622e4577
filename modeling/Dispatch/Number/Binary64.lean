/-
Dispatch/Number/Binary64.lean

The value behind a 64-bit float, and its shortest decimal text.

`Binary64.decode` reads sign, significand and exponent off the bits.  `Binary64.shortest` finds
the decimal number with the fewest digits that still reads back as the same float: for each
digit count it tests the two neighbours of the value on that decimal grid, in exact natural
arithmetic, and the first grid with a hit wins.  Two layouts turn the digits into text:
`positional`, without an exponent, and `scientificBeyond`, which leaves very small and very
large numbers in scientific notation.
-/
import Dispatch.Number.Digits

namespace Dispatch

/-- What the bits of a float say. -/
inductive Binary64 where
  | nan
  | infinite (negative : Bool)
  /-- The number `±significand * 2 ^ exponent`. -/
  | finite (negative : Bool) (significand : Nat) (exponent : Int)
  deriving DecidableEq, Repr

namespace Binary64

/-- Reads the sign bit, the eleven exponent bits and the fifty-two fraction bits. -/
def decode (x : Float) : Binary64 :=
  let bits := x.toBits.toNat
  let negative : Bool := bits >>> 63 = 1
  let e : Nat := (bits >>> 52) % 2048
  let f : Nat := bits % (1 <<< 52)
  if e = 2047 then if f = 0 then .infinite negative else .nan
  else if e = 0 then .finite negative f (-1074)
  else .finite negative ((1 <<< 52) + f) ((e : Int) - 1075)

/-- Sixteen lower-case hexadecimal digits of the bit pattern. -/
def hex (x : Float) : String :=
  let digits := (Nat.toDigits 16 x.toBits.toNat)
  String.ofList (List.replicate (16 - digits.length) '0' ++ digits)

/-- The float with a bit pattern. -/
def ofHex? (s : String) : Option Float :=
  (Digits.number? 16 s.toList).map fun bits => Float.ofBits bits.toUInt64

/-! ### The shortest digits -/

/-- A positive decimal number `digits * 10 ^ exponent`. -/
structure Decimal where
  digits : Nat
  exponent : Int
  deriving DecidableEq, Repr

/-- The reals that round to one float: bounds over a common power of two, and whether the
bounds themselves belong. -/
structure Interval where
  low : Nat
  value : Nat
  high : Nat
  /-- All three are multiples of `2 ^ exponent`. -/
  exponent : Int
  closed : Bool

/-- The interval of a positive significand and exponent.  Below a power of two the next float
is half as far as above it. -/
def interval (significand : Nat) (exponent : Int) : Interval :=
  let closed : Bool := significand % 2 = 0
  if significand = 1 <<< 52 ∧ -1074 < exponent then
    ⟨4 * significand - 1, 4 * significand, 4 * significand + 2, exponent - 2, closed⟩
  else
    ⟨2 * significand - 1, 2 * significand, 2 * significand + 1, exponent - 1, closed⟩

/-- Number of decimal digits of a positive number. -/
def digitCount (n : Nat) : Nat := (Nat.toDigits 10 n).length

/-- Tries the grid of multiples of `10 ^ e` around the value of the interval. -/
def Interval.onGrid? (i : Interval) (e : Int) : Option Decimal :=
  -- everything is scaled by `den`, so that a grid step becomes the whole number `step`
  let scale := Nat.pow 10 (-e).toNat <<< i.exponent.toNat
  let step := Nat.pow 10 e.toNat <<< (-i.exponent).toNat
  let low := i.low * scale
  let value := i.value * scale
  let high := i.high * scale
  let inside (d : Nat) : Bool :=
    0 < d && (if i.closed then low ≤ d * step && d * step ≤ high
      else low < d * step && d * step < high)
  let below := value / step
  let above := below + 1
  match inside below, inside above with
  | false, false => none
  | true, false => some ⟨below, e⟩
  | false, true => some ⟨above, e⟩
  | true, true =>
    let down := value - below * step
    let up := above * step - value
    if down < up then some ⟨below, e⟩
    else if up < down then some ⟨above, e⟩
    else if below % 2 = 0 then some ⟨below, e⟩ else some ⟨above, e⟩

/-- Grids from coarse to fine; `exponent` is the coarsest, `tries` how many are left. -/
def firstHit (i : Interval) : Nat → Int → Option Decimal
  | 0, _ => none
  | tries + 1, e =>
    match i.onGrid? e with
    | some d => some d
    | none => firstHit i tries (e - 1)

/-- The position of the leading digit of `significand * 2 ^ exponent`, at most one too high. -/
def leadingExponent (significand : Nat) (exponent : Int) : Int :=
  if 0 ≤ exponent then digitCount (significand <<< exponent.toNat)
  else
    -- as many decimal places as make the number whole
    let places := (-exponent).toNat
    (digitCount (significand * Nat.pow 5 places) : Int) - places

/-- Drops trailing zeros of the digits. -/
def Decimal.strip (d : Decimal) : Nat → Decimal
  | 0 => d
  | tries + 1 =>
    if d.digits % 10 = 0 ∧ 0 < d.digits then
      Decimal.strip ⟨d.digits / 10, d.exponent + 1⟩ tries
    else d

/-- The fewest digits that read back as `significand * 2 ^ exponent`, nearest to it among
those. -/
def shortest (significand : Nat) (exponent : Int) : Decimal :=
  match firstHit (interval significand exponent) 20 (leadingExponent significand exponent) with
  | some d => d.strip 20
  | none => ⟨0, 0⟩

/-! ### Layouts -/

/-- Digits of a decimal number written without an exponent. -/
def Decimal.positional (d : Decimal) : String :=
  let ds := Nat.toDigits 10 d.digits
  if 0 ≤ d.exponent then String.ofList (ds ++ List.replicate d.exponent.toNat '0')
  else
    let places := (-d.exponent).toNat
    if places < ds.length then
      String.ofList (ds.take (ds.length - places) ++ '.' :: ds.drop (ds.length - places))
    else String.ofList ('0' :: '.' :: List.replicate (places - ds.length) '0' ++ ds)

/-- Digits of a decimal number with one digit before the point and an exponent with its
sign. -/
def Decimal.scientific (d : Decimal) : String :=
  let ds := Nat.toDigits 10 d.digits
  let e := d.exponent + ds.length - 1
  let mantissa := match ds with
    | c :: [] => String.singleton c
    | c :: rest => String.ofList (c :: '.' :: rest)
    | [] => ""
  mantissa ++ "e" ++ (if 0 ≤ e then "+" else "-") ++ toString e.natAbs

/-- A sign in front of the text of the magnitude. -/
def signed (negative : Bool) (text : String) : String := if negative then "-" ++ text else text

/-- The text of a float without an exponent, and without a fraction where it is whole. -/
def positional (x : Float) : String :=
  match decode x with
  | .nan => "NaN"
  | .infinite negative => signed negative "inf"
  | .finite negative 0 _ => signed negative "0"
  | .finite negative m e => signed negative (shortest m e).positional

/-- The text of a finite float in a data format: positional with at least one decimal place
where the leading digit stands between the fifth place after the point and the sixteenth
before it, scientific elsewhere.  A number that is not finite has no text. -/
def scientificBeyond (x : Float) : Option String :=
  match decode x with
  | .nan | .infinite _ => none
  | .finite negative 0 _ => some (signed negative "0.0")
  | .finite negative m e =>
    let d := shortest m e
    let lead := d.exponent + digitCount d.digits - 1
    if -5 ≤ lead ∧ lead ≤ 15 then
      some (signed negative (d.positional ++ if 0 ≤ d.exponent then ".0" else ""))
    else some (signed negative d.scientific)

end Binary64

end Dispatch
