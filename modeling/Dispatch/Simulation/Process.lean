/-
Dispatch/Simulation/Process.lean

Processes on a virtual clock.

All processes are of one kind and share a world.  The clock stands still while any of them can
go on: each in turn takes steps until it waits.  When all of them wait, the clock moves to the
first time at which one can go on.  Processes that can go on at the same time do so in the order
of the list.
-/

namespace Dispatch

/-- Processes of one kind over a shared world. -/
structure Process (ω σ : Type) where
  /-- The step that a process takes at a time; none while it waits, and none once it is over. -/
  step? : Nat → ω → σ → Option (ω × σ)
  /-- When a process goes on; none once it is over. -/
  wake? : σ → Option Nat
  /-- No process takes more steps than this. -/
  limit : σ → Nat

namespace Process

variable {ω σ : Type}

/-- Lets a process take steps at a time until it waits, `fuel` steps at most. -/
def settle (p : Process ω σ) (now : Nat) : Nat → ω → σ → ω × σ
  | 0, w, s => (w, s)
  | fuel + 1, w, s =>
    match p.step? now w s with
    | none => (w, s)
    | some (w, s) => settle p now fuel w s

/-- Lets every process go on at a time, in order. -/
def round (p : Process ω σ) (now fuel : Nat) : ω → List σ → ω × List σ
  | w, [] => (w, [])
  | w, s :: rest =>
    let r := p.settle now fuel w s
    let rs := round p now fuel r.1 rest
    (rs.1, r.2 :: rs.2)

/-- The first time at which a process goes on. -/
def nextWake? (p : Process ω σ) (ss : List σ) : Option Nat := (ss.filterMap p.wake?).min?

/-- Rounds with the clock moving on between them, `fuel` rounds at most. -/
def rounds (p : Process ω σ) : Nat → Nat → ω → List σ → Nat × ω × List σ
  | 0, now, w, ss => (now, w, ss)
  | fuel + 1, now, w, ss =>
    let r := p.round now (fuel + 1) w ss
    match p.nextWake? r.2 with
    | none => (now, r)
    | some t => rounds p fuel (max now t) r.1 r.2

/-- Runs processes until all of them are over: the time, the world and the processes then. -/
def run (p : Process ω σ) (now : Nat) (w : ω) (ss : List σ) : Nat × ω × List σ :=
  p.rounds (ss.foldr (fun s n => p.limit s + n) 1) now w ss

end Process

end Dispatch
