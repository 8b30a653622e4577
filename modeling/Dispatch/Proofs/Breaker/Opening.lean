/-
Dispatch/Proofs/Breaker/Opening.lean

When circuits open, and on which clock.

The turns of a run carry their times, and nothing keeps these in order.  `Timely` says of a run
that its clock does not go backwards; what is said about windows and cooldowns is said of timely
runs.

A circuit *opens* with a turn that finds it not open and leaves it open (`Traffic.Opens`).  Such a
turn reports a call, and the circuit remembers its time (`phase_of_opens`).
-/
import Dispatch.Proofs.Breaker.SingleTrial

namespace Dispatch

/-! ### Times -/

/-- The time of a turn; dropping a permit and resetting need none. -/
def BreakerTurn.time? : BreakerTurn → Option Nat
  | .acquire _ now | .settle _ _ now | .health _ now => some now
  | .release _ | .reset => none

/-- The clock of a run does not go backwards. -/
def Timely (turns : List BreakerTurn) : Prop :=
  (turns.filterMap BreakerTurn.time?).Pairwise (· ≤ ·)

theorem Timely.le {before after : List BreakerTurn} {e x : BreakerTurn} {t now : Nat}
    (h : Timely (before ++ after)) (he : e ∈ before) (hx : x ∈ after) (ht : e.time? = some t)
    (hnow : x.time? = some now) : t ≤ now := by
  unfold Timely at h
  rw [List.filterMap_append] at h
  exact (List.pairwise_append.mp h).2.2 t (List.mem_filterMap.mpr ⟨e, he, ht⟩) now
    (List.mem_filterMap.mpr ⟨x, hx, hnow⟩)

/-- A first part of a timely run is timely. -/
theorem Timely.of_append {before after : List BreakerTurn} (h : Timely (before ++ after)) :
    Timely before := by
  unfold Timely at h
  rw [List.filterMap_append] at h
  exact (List.pairwise_append.mp h).1

/-! ### What opens a circuit -/

namespace Circuit

variable {s : BreakerSettings} {now since : Nat} {c : Circuit}

/-- A request opens no circuit. -/
theorem open_of_grant {r : Circuit × Bool} (hg : c.grant s now = some r)
    (h : r.1.phase = .open since) : c.phase = .open since := by
  cases Granted.of_eq hg with
  | normal _ => exact h
  | freeSlot _ => cases h
  | cooledDown _ _ => cases h

/-- A circuit that an outcome opens remembers the time of the outcome. -/
theorem open_of_settle {trial success : Bool}
    (h : (c.settle s trial success now).phase = .open since) :
    c.phase = .open since ∨ since = now := by
  generalize hs : c.settle s trial success now = c' at h
  cases Settled.of_eq hs with
  | ignored _ => exact Or.inl h
  | counted _ _ => cases h
  | tripped _ _ => exact Or.inr (Phase.open.inj h).symm
  | recovered _ => cases h
  | relapsed _ => exact Or.inr (Phase.open.inj h).symm

theorem open_of_release (h : c.release.phase = .open since) : c.phase = .open since := by
  unfold release at h
  split at h
  · cases h
  · exact h

end Circuit

namespace Lane

variable {backend : String} {s : BreakerSettings} {l : Lane}

theorem current_issue (l : Lane) (now : Nat) :
    (l.issue backend s now).current
      = ((l.current.grant s now).map Prod.fst).getD l.current := rfl

/-- What a turn can do to the circuit of a lane. -/
inductive CircuitStep (s : BreakerSettings) (l : Lane) : LaneTurn → Circuit → Prop
  /-- The turn is refused, reaches no circuit, or only asks. -/
  | same (e : LaneTurn) : CircuitStep s l e l.current
  | granted {now : Nat} {r : Circuit × Bool} (h : l.current.grant s now = some r) :
      CircuitStep s l (.acquire now) r.1
  | settled {n : Nat} {success : Bool} {now : Nat} {p : Permit} (hp : l.permits n = some p) :
      CircuitStep s l (.settle n success now) (l.current.settle s p.trial success now)
  | released {n : Nat} {p : Permit} (hp : l.permits n = some p) (ht : p.trial = true) :
      CircuitStep s l (.release n) l.current.release
  | reset : CircuitStep s l .reset {}

theorem circuitStep (l : Lane) (e : LaneTurn) :
    CircuitStep s l e (l.step backend s e).current := by
  cases e with
  | acquire now =>
    rw [step, current_issue]
    rcases hg : l.current.grant s now with - | r
    · exact .same _
    · exact .granted hg
  | settle n success now =>
    rcases hp : l.permits n with - | p
    · rw [step, use_of_none hp]
      exact .same _
    · rw [step, current_use hp]
      split
      · exact .settled hp
      · exact .same _
  | release n =>
    rcases hp : l.permits n with - | p
    · rw [step, use_of_none hp]
      exact .same _
    · rw [step, current_use hp]
      split
      · cases ht : p.trial with
        | true => exact .released hp ht
        | false => exact .same _
      · exact .same _
  | health now => exact .same _
  | reset => exact .reset

/-- Only a report opens a circuit, and the circuit remembers its time. -/
theorem settle_of_opens {e : LaneTurn} {since : Nat}
    (hbefore : ∀ t, l.current.phase ≠ .open t)
    (hafter : (l.step backend s e).current.phase = .open since) :
    ∃ n success, e = .settle n success since := by
  generalize hc : (l.step backend s e).current = c at hafter
  have hstep : CircuitStep s l e c := hc ▸ l.circuitStep e
  cases hstep with
  | same _ => exact absurd hafter (hbefore since)
  | granted hg => exact absurd (Circuit.open_of_grant hg hafter) (hbefore since)
  | @settled n success now p _ =>
    rcases Circuit.open_of_settle hafter with hopen | rfl
    · exact absurd hopen (hbefore since)
    · exact ⟨n, success, rfl⟩
  | released _ _ => exact absurd (Circuit.open_of_release hafter) (hbefore since)
  | reset => cases hafter

end Lane

/-! ### Openings -/

namespace Traffic

variable {w : Traffic} {backend : String} {e : BreakerTurn} {t : Nat}

/-- The circuit of a backend opens with a turn, at the time of the turn. -/
structure Opens (w : Traffic) (e : BreakerTurn) (backend : String) (t : Nat) : Prop where
  before : ∀ since, (w.breakers.circuit backend).phase ≠ .open since
  after : ∃ since, ((w.step e).breakers.circuit backend).phase = .open since
  time : e.time? = some t

/-- A circuit is found in its lane. -/
theorem current_lane (w : Traffic) (backend : String) :
    (w.lane backend).current = w.breakers.circuit backend := rfl

/-- A turn that leaves a circuit open that was not open has opened it, at the time that the circuit
remembers. -/
theorem opens_of_phase (hbefore : ∀ since, (w.breakers.circuit backend).phase ≠ .open since)
    (hafter : ((w.step e).breakers.circuit backend).phase = .open t) : w.Opens e backend t := by
  refine ⟨hbefore, ⟨t, hafter⟩, ?_⟩
  rcases hseen : e.seenFrom backend with - | e'
  · rw [← current_lane, lane_step_of_none hseen, current_lane] at hafter
    exact absurd hafter (hbefore t)
  · rw [← current_lane, lane_step_of_some hseen] at hafter
    obtain ⟨n, success, rfl⟩ := Lane.settle_of_opens (l := w.lane backend) hbefore hafter
    obtain rfl := BreakerTurn.seenFrom_eq_some_iff.mp hseen
    rfl

/-- An open circuit remembers when it opened. -/
theorem phase_of_opens (h : w.Opens e backend t) :
    ((w.step e).breakers.circuit backend).phase = .open t := by
  obtain ⟨since, hafter⟩ := h.after
  obtain rfl : since = t :=
    Option.some.inj ((opens_of_phase h.before hafter).time.symm.trans h.time)
  exact hafter

/-- No turn of a run changes settings. -/
@[simp] theorem settings_run (w : Traffic) (es : List BreakerTurn) (backend : String) :
    (w.run es).breakers.settings backend = w.breakers.settings backend := by
  induction es generalizing w with
  | nil => rfl
  | cons e es ih => rw [run_cons, ih, settings_step]

/-- Without a reset, a run keeps a lane in order. -/
theorem orderly_run (h : (w.lane backend).Orderly) {es : List BreakerTurn} (hes : .reset ∉ es) :
    ((w.run es).lane backend).Orderly := by
  rw [lane_run]
  refine h.run fun hmem => ?_
  obtain ⟨e, he, hseen⟩ := List.mem_filterMap.mp hmem
  obtain rfl : e = .reset := BreakerTurn.seenFrom_eq_some_iff.mp hseen
  exact hes he

end Traffic

end Dispatch
