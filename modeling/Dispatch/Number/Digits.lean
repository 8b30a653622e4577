/-
Dispatch/Number/Digits.lean

Reading digits to a base up to sixteen, and what they spell out: numbers, bit patterns, bytes.
-/

namespace Dispatch.Digits

/-- The value of a digit; digits above nine are letters of either case. -/
def value? (c : Char) : Option Nat :=
  if c.isDigit then some (c.toNat - '0'.toNat)
  else if 'a' ≤ c ∧ c ≤ 'f' then some (c.toNat - 'a'.toNat + 10)
  else if 'A' ≤ c ∧ c ≤ 'F' then some (c.toNat - 'A'.toNat + 10)
  else none

/-- The number that digits to a base spell out; there has to be one. -/
def number? (base : Nat) (digits : List Char) : Option Nat :=
  if digits.isEmpty then none
  else digits.foldlM (fun n d => (value? d).bind fun v =>
    if v < base then some (n * base + v) else none) 0

/-- The bytes that pairs of hexadecimal digits spell out. -/
def bytes? : List Char → Option (List UInt8)
  | [] => some []
  | a :: b :: rest => do
    let n ← number? 16 [a, b]
    let bytes ← bytes? rest
    pure (n.toUInt8 :: bytes)
  | _ => none

end Dispatch.Digits
