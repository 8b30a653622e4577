/-
Dispatch/Json/Exact.lean

Comparing JSON values by what they mean: `1` and `1.0` are one number.

A number is compared by its exact value, a quotient with a power of two below the line, so no
rounding enters.
-/
import Dispatch.Json.Basic
import Dispatch.Number.Binary64

namespace Dispatch

/-- An exact number `num / den` with a positive denominator. -/
structure Quotient where
  num : Int
  den : Nat

namespace Quotient

/-- Whether two quotients are one number. -/
def same (a b : Quotient) : Bool := a.num * b.den = b.num * a.den

/-- Whether a quotient is below a whole number. -/
def below (a : Quotient) (n : Int) : Bool := a.num < n * a.den

/-- Whether a quotient is a whole number. -/
def isWhole (a : Quotient) : Bool := a.num % a.den = 0

end Quotient

namespace Json

/-- The exact value of a number. -/
def quotient? : Json → Option Quotient
  | .int n => some ⟨n, 1⟩
  | .float x =>
    match Binary64.decode x with
    | .finite negative m e =>
      let n : Int := (m <<< e.toNat : Nat)
      some ⟨if negative then -n else n, 1 <<< (-e).toNat⟩
    | _ => none
  | _ => none

/-- Whether two documents that are not containers mean the same. -/
def sameLeaf (a b : Json) : Bool :=
  match a, b with
  | .null, .null => true
  | .bool x, .bool y => x = y
  | .str x, .str y => x = y
  | a, b => match a.quotient?, b.quotient? with
    | some x, some y => x.same y
    | _, _ => false

mutual

/-- Whether two documents mean the same. -/
def same : Json → Json → Bool
  | .arr xs, .arr ys => sameItems xs ys
  | .obj xs, .obj ys => sameMembers xs ys
  | .null, b => sameLeaf .null b
  | .bool x, b => sameLeaf (.bool x) b
  | .int x, b => sameLeaf (.int x) b
  | .float x, b => sameLeaf (.float x) b
  | .str x, b => sameLeaf (.str x) b
  | _, _ => false

/-- Item by item. -/
def sameItems : List Json → List Json → Bool
  | [], [] => true
  | x :: xs, y :: ys => same x y && sameItems xs ys
  | _, _ => false

/-- Member by member; both lists are in name order. -/
def sameMembers : List (String × Json) → List (String × Json) → Bool
  | [], [] => true
  | (k, x) :: xs, (l, y) :: ys => k = l && same x y && sameMembers xs ys
  | _, _ => false

end

/-- Whether no two items of a list mean the same. -/
def distinct : List Json → Bool
  | [] => true
  | x :: xs => !xs.any x.same && distinct xs

end Json

end Dispatch
