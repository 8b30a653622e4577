/-
Dispatch/Resilience/Breaker.lean

Circuit breakers: backends that fail repeatedly are left alone for a while.

A closed circuit admits every call and remembers when calls failed.  Enough failures within a
sliding window open it; it then refuses every call until its cooldown is over.  The next call
is the only trial: its outcome closes the circuit or opens it again.

An admission is a permit, and a permit carries the generation of its circuit, which grows with
every change of phase.  The outcome of a permit of another generation is ignored, so a call that
started before a circuit opened cannot count after it.  Times are nanoseconds after a common
start and may go backwards.
-/
import Dispatch.Backend.Descriptor
import Dispatch.Config.Basic

namespace Dispatch

/-- The phase of a circuit. -/
inductive Phase where
  /-- Calls pass; the times of failures, the oldest first. -/
  | closed (failures : List Nat)
  | open (since : Nat)
  | halfOpen (trialRunning : Bool)
  deriving DecidableEq, Repr, Inhabited

/-- The circuit of a backend. -/
structure Circuit where
  phase : Phase := .closed []
  /-- Number of changes of phase.  It is not cut to 64 bits: that a circuit changes its phase
  `2 ^ 64` times is out of reach. -/
  generation : Nat := 0
  deriving DecidableEq, Repr, Inhabited

/-- Permission to make one call. -/
structure Permit where
  backend : String
  generation : Nat
  /-- Whether the call is the trial of a half-open circuit. -/
  trial : Bool
  deriving DecidableEq, Repr, Inhabited

namespace Circuit

/-- Moves on to another phase. -/
def enter (c : Circuit) (phase : Phase) : Circuit := { phase, generation := c.generation + 1 }

/-- Whether a circuit that opened at `since` has cooled down. -/
def cooled (s : BreakerSettings) (since now : Nat) : Bool := s.cooldown.nanos ≤ now - since

/-- Admits a call: the circuit after it, and whether the call is a trial. -/
def grant (s : BreakerSettings) (now : Nat) (c : Circuit) : Option (Circuit × Bool) :=
  match c.phase with
  | .closed _ => some (c, false)
  | .halfOpen true => none
  | .halfOpen false => some ({ c with phase := .halfOpen true }, true)
  | .open since =>
    if cooled s since now then some (c.enter (.halfOpen true), true) else none

/-- The health that the router sees: a circuit that has cooled down counts as half-open. -/
def health (s : BreakerSettings) (now : Nat) (c : Circuit) : Health :=
  match c.phase with
  | .closed _ => .closed
  | .halfOpen _ => .halfOpen
  | .open since => if cooled s since now then .halfOpen else .open

/-- Failure times with one more, without those at the front that have left the window. -/
def recordFailure (s : BreakerSettings) (now : Nat) (failures : List Nat) : List Nat :=
  (failures ++ [now]).dropWhile fun t => s.window.nanos < now - t

/-- Takes in the outcome of a call of this generation. -/
def settle (s : BreakerSettings) (trial success : Bool) (now : Nat) (c : Circuit) : Circuit :=
  match c.phase, trial, success with
  | .closed failures, false, false =>
    let failures := recordFailure s now failures
    if s.failureThreshold ≤ failures.length then c.enter (.open now)
    else { c with phase := .closed failures }
  | .halfOpen _, true, true => c.enter (.closed [])
  | .halfOpen _, true, false => c.enter (.open now)
  | _, _, _ => c

/-- Takes back a trial that ended without an outcome. -/
def release (c : Circuit) : Circuit :=
  match c.phase with
  | .halfOpen _ => { c with phase := .halfOpen false }
  | _ => c

end Circuit

/-- The circuits of all backends.  A backend has a circuit from its first admission on. -/
structure Breakers where
  defaults : BreakerSettings := {}
  overrides : Table BreakerSettings := .empty
  circuits : Table Circuit := .empty
  deriving DecidableEq, Repr, Inhabited

namespace Breakers

/-- Breakers with the settings of a configuration. -/
def ofConfig (c : Config) : Breakers :=
  { defaults := c.resilience.breaker
    overrides := c.backends.filterMap fun _ b => b.breaker }

/-- The settings of a backend. -/
def settings (b : Breakers) (backend : String) : BreakerSettings :=
  (b.overrides.get? backend).getD b.defaults

/-- The circuit of a backend; one that has none yet would start closed. -/
def circuit (b : Breakers) (backend : String) : Circuit := (b.circuits.get? backend).getD {}

/-- Replaces the circuit of a backend. -/
def put (b : Breakers) (backend : String) (c : Circuit) : Breakers :=
  { b with circuits := b.circuits.insert backend c }

/-- Asks to make a call; no permit means that the call is refused. -/
def acquire (b : Breakers) (backend : String) (now : Nat) : Breakers × Option Permit :=
  let c := b.circuit backend
  match c.grant (b.settings backend) now with
  | none => (b.put backend c, none)
  | some (c, trial) => (b.put backend c, some { backend, generation := c.generation, trial })

/-- Changes the circuit of a permit, if the permit is of its generation. -/
def update (b : Breakers) (p : Permit) (change : Circuit → Circuit) : Breakers :=
  match b.circuits.get? p.backend with
  | none => b
  | some c => if c.generation = p.generation then b.put p.backend (change c) else b

/-- Uses up a permit with the outcome of its call. -/
def settle (b : Breakers) (p : Permit) (success : Bool) (now : Nat) : Breakers :=
  b.update p (Circuit.settle (b.settings p.backend) p.trial success now)

/-- Uses up a permit without an outcome. -/
def release (b : Breakers) (p : Permit) : Breakers :=
  if p.trial then b.update p Circuit.release else b

/-- Asks to make calls one after another and settles each at once; how many were granted. -/
def settleMany (b : Breakers) (backend : String) (success : Bool) (now n : Nat) :
    Breakers × Nat :=
  n.repeat (fun r =>
    match r.1.acquire backend now with
    | (b, none) => (b, r.2)
    | (b, some p) => (b.settle p success now, r.2 + 1)) (b, 0)

/-- The health of a backend. -/
def health (b : Breakers) (backend : String) (now : Nat) : Health :=
  (b.circuit backend).health (b.settings backend) now

/-- Closes every circuit and forgets its past. -/
def reset (b : Breakers) : Breakers := { b with circuits := .empty }

end Breakers

/-- What to say of a call that a circuit refuses. -/
def circuitOpenMessage (backend : String) : String := s!"Circuit open for backend '{backend}'"

end Dispatch
