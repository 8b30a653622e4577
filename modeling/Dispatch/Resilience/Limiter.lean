/-
Dispatch/Resilience/Limiter.lean

Admission by token buckets, one for each caller.

A bucket starts full and refills at a steady rate up to its capacity; an attempt takes one
token.  Buckets refill when they are looked at, so nothing runs in between.  A caller without a
bucket has a full one, and only buckets that have had the time to fill up are dropped: when a
new caller finds as many buckets as may be kept, and when idle ones are pruned.

Tokens are counted in floats when the library runs.  The rules need only a few operations on
counts (`TokenCount`), and the same rules over quotients say what the limiter does apart from
rounding.
-/
import Dispatch.Config.Settings
import Dispatch.Duration.Seconds
import Dispatch.Duration.Short
import Dispatch.Table

namespace Dispatch

/-- Counts of tokens, and seconds, as the limiter computes with them. -/
class TokenCount (α : Type) where
  ofNat : Nat → α
  /-- The seconds of a number of nanoseconds. -/
  seconds : Nat → α
  add : α → α → α
  sub : α → α → α
  mul : α → α → α
  div : α → α → α
  /-- The count, or the capacity if the count is above it or no number. -/
  upTo : (capacity : α) → α → α
  /-- Whether there is a whole token. -/
  hasToken : α → Bool
  /-- The duration of a number of seconds, or the longest one if there is none. -/
  duration : α → Duration

instance : TokenCount Float where
  ofNat n := n.toUInt64.toFloat
  seconds := Duration.floatSeconds
  add a b := a + b
  sub a b := a - b
  mul a b := a * b
  div a b := a / b
  upTo capacity x := if x.isNaN then capacity else if x < capacity then x else capacity
  hasToken x := 1.0 ≤ x
  duration x := (Duration.ofFloat? x).getD Duration.max

instance : TokenCount Rat where
  ofNat n := n
  seconds n := (n : Rat) / Duration.perSecond
  add a b := a + b
  sub a b := a - b
  mul a b := a * b
  div a b := a / b
  upTo capacity x := if x < capacity then x else capacity
  hasToken x := 1 ≤ x
  duration x := (Duration.ofRat? x).getD Duration.max

/-- The tokens of a caller. -/
structure Bucket (α : Type) where
  tokens : α
  /-- When the tokens were counted. -/
  countedAt : Nat

/-- The buckets of all callers. -/
structure Limiter (α : Type) where
  capacity : α
  /-- Tokens a second. -/
  refillRate : α
  /-- So many buckets make a new caller drop the full ones. -/
  maxTracked : Nat := 10000
  buckets : Table (Bucket α) := .empty

namespace Limiter

open TokenCount

variable {α : Type} [TokenCount α]

/-- Time for an empty bucket to fill up. -/
def refillTime (l : Limiter α) : Duration := duration (div l.capacity l.refillRate)

/-- A bucket with its tokens counted anew. -/
def refill (l : Limiter α) (b : Bucket α) (now : Nat) : Bucket α :=
  { tokens := upTo l.capacity (add b.tokens (mul (seconds (now - b.countedAt)) l.refillRate))
    countedAt := now }

/-- Drops the buckets that were last counted `idle` ago or earlier. -/
def dropIdle (l : Limiter α) (idle : Duration) (now : Nat) : Limiter α :=
  { l with buckets := l.buckets.filter fun _ b => now - b.countedAt < idle.nanos }

/-- Makes room for a caller without a bucket. -/
def makeRoom (l : Limiter α) (caller : String) (now : Nat) : Limiter α :=
  if l.maxTracked ≤ l.buckets.size && !l.buckets.contains caller then
    l.dropIdle l.refillTime now
  else l

/-- The bucket of a caller; one that has none would get a full one. -/
def bucketOf (l : Limiter α) (caller : String) (now : Nat) : Bucket α :=
  (l.buckets.get? caller).getD { tokens := l.capacity, countedAt := now }

/-- Takes a token, or says how long to wait for one. -/
def acquire (l : Limiter α) (caller : String) (now : Nat) : Limiter α × Except Duration Unit :=
  let l := l.makeRoom caller now
  let b := l.refill (l.bucketOf caller now) now
  if hasToken b.tokens then
    let b := { b with tokens := sub b.tokens (ofNat 1) }
    ({ l with buckets := l.buckets.insert caller b }, .ok ())
  else
    ({ l with buckets := l.buckets.insert caller b },
      .error (duration (div (sub (ofNat 1) b.tokens) l.refillRate)))

/-- Takes a token for each of many callers, one after another. -/
def acquireAll (l : Limiter α) (callers : List String) (now : Nat) :
    Limiter α × List (Except Duration Unit) :=
  let r := callers.foldl (fun r caller =>
    let s := r.1.acquire caller now
    (s.1, s.2 :: r.2)) (l, [])
  (r.1, r.2.reverse)

/-- Tokens of a caller. -/
def available (l : Limiter α) (caller : String) (now : Nat) : α :=
  match l.buckets.get? caller with
  | none => l.capacity
  | some b => (l.refill b now).tokens

/-- Drops the buckets that have been idle for a time, if that is enough to fill up, and says how
many these were. -/
def prune (l : Limiter α) (idle : Duration) (now : Nat) : Limiter α × Nat :=
  let pruned := l.dropIdle (max idle l.refillTime) now
  (pruned, l.buckets.size - pruned.buckets.size)

/-- Number of callers with a bucket. -/
def tracked (l : Limiter α) : Nat := l.buckets.size

end Limiter

namespace Limiter

/-- A limiter without buckets. -/
def ofSettings (s : LimitSettings) : Limiter Float :=
  { capacity := TokenCount.ofNat s.capacity, refillRate := s.refillRate }

end Limiter

/-- What to say to a caller that has to wait. -/
def rateLimitMessage (retryAfter : Duration) : String :=
  "Rate limit exceeded, retry after " ++ retryAfter.short

end Dispatch
