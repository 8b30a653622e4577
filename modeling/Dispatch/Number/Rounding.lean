/-
Dispatch/Number/Rounding.lean

Rounding of exact quotients, in natural numbers.

Two roundings are all the library needs: to a whole number (`roundDiv`) and to a fixed number
of significant bits (`roundBits`).  Both take the nearest value and send a tie to the even
neighbour.  A value with few significant bits is a `BinaryFraction`: a whole number times a power of
two.
-/

namespace Dispatch

/-- The whole number nearest to `num / den`; a half goes to the even neighbour. -/
def roundDiv (num den : Nat) : Nat :=
  let q := num / den
  let r := num % den
  if 2 * r < den then q
  else if den < 2 * r then q + 1
  else if q % 2 = 0 then q
  else q + 1

/-- The number `mant * 2 ^ exp`. -/
structure BinaryFraction where
  mant : Nat
  exp : Int
  deriving DecidableEq, Repr

namespace BinaryFraction

/-- Numerator of a dyadic number over `den`. -/
def num (d : BinaryFraction) : Nat := d.mant <<< d.exp.toNat

/-- A power of two that clears the exponent. -/
def den (d : BinaryFraction) : Nat := 1 <<< (-d.exp).toNat

/-- The whole number nearest to `d * scale`. -/
def roundScaled (d : BinaryFraction) (scale : Nat) : Nat := roundDiv (d.num * scale) d.den

/-- A whole number. -/
def ofNat (n : Nat) : BinaryFraction := ⟨n, 0⟩

end BinaryFraction

/-- The number with `bits` significant bits nearest to `num / den`; a tie goes to the even
significand.  The exponent range is unbounded. -/
def roundBits (bits num den : Nat) : BinaryFraction :=
  if num = 0 then ⟨0, 0⟩
  else
    -- `num / den` lies strictly between `2 ^ (bits - 1)` and `2 ^ (bits + 1)` times `2 ^ low`
    let low : Int := (num.log2 : Int) - den.log2 - bits
    let scaledAt (e : Int) : Nat × Nat := (num <<< (-e).toNat, den <<< e.toNat)
    let fine := scaledAt low
    if fine.1 < fine.2 <<< bits then ⟨roundDiv fine.1 fine.2, low⟩
    else
      let coarse := scaledAt (low + 1)
      ⟨roundDiv coarse.1 coarse.2, low + 1⟩

/-- The sum of two dyadic numbers as a quotient. -/
def BinaryFraction.addFraction (a b : BinaryFraction) : Nat × Nat :=
  (a.num * b.den + b.num * a.den, a.den * b.den)

/-- Sum rounded to `bits` significant bits. -/
def BinaryFraction.addRounded (bits : Nat) (a b : BinaryFraction) : BinaryFraction :=
  let s := a.addFraction b
  roundBits bits s.1 s.2

/-- Product rounded to `bits` significant bits. -/
def BinaryFraction.mulRounded (bits : Nat) (a b : BinaryFraction) : BinaryFraction :=
  roundBits bits (a.num * b.num) (a.den * b.den)

end Dispatch
