/-
Dispatch/Proofs/Breaker/Isolation.lean

What happens at one backend does not show at another.

All backends share one table of circuits and one record of settings, and a permit finds its way
back by the name that it carries.  Nevertheless a backend cannot tell what was done to the others.
The log of a run has every turn together with what it was answered.  Keeping of the log what
concerns a backend is the same as running only the turns that concern it:

    (w.log turns).filter (concerns b)  =  w.log (turns.filter (concerns b)).

A reset concerns every backend, so it stays in both.  The invariant is that the two runs have the
same lane for the backend, and the same settings; a turn elsewhere keeps it though only one of the
runs takes it (`SameFor.skip`), and a turn that both take keeps it (`SameFor.step`).
-/
import Dispatch.Proofs.Breaker.Lane

namespace Dispatch

/-- A turn concerns a backend if it is at the backend, at a permit for it, or a reset. -/
def BreakerTurn.concerns (backend : String) (e : BreakerTurn) : Bool := (e.seenFrom backend).isSome

namespace Traffic

/-- The turns of a run, each with what it was answered. -/
def log (w : Traffic) : List BreakerTurn → List (BreakerTurn × Option BreakerAnswer)
  | [] => []
  | e :: rest => (e, w.answer? e) :: (w.step e).log rest

/-- What is answered in a run is in its log. -/
theorem answers_eq_filterMap_log (w : Traffic) (turns : List BreakerTurn) :
    w.answers turns = (w.log turns).filterMap Prod.snd := by
  induction turns generalizing w with
  | nil => rfl
  | cons e rest ih =>
    rw [answers, log, ih]
    rcases w.answer? e with - | a <;> rfl

variable {backend : String} {w w' : Traffic}

/-- A backend cannot tell one traffic from the other. -/
structure SameFor (backend : String) (w w' : Traffic) : Prop where
  lane : w.lane backend = w'.lane backend
  settings : w.breakers.settings backend = w'.breakers.settings backend

namespace SameFor

theorem refl (backend : String) (w : Traffic) : SameFor backend w w := ⟨rfl, rfl⟩

/-- A turn that does not concern a backend makes no difference to it. -/
theorem skip (h : SameFor backend w w') {e : BreakerTurn} (he : e.seenFrom backend = none) :
    SameFor backend (w.step e) w' where
  lane := (lane_step_of_none he).trans h.lane
  settings := (settings_step ..).trans h.settings

/-- A turn that both take makes no difference. -/
theorem step (h : SameFor backend w w') (e : BreakerTurn) :
    SameFor backend (w.step e) (w'.step e) where
  lane := by rw [lane_step, lane_step, h.lane, h.settings]
  settings := by rw [settings_step, settings_step, h.settings]

/-- A turn that concerns the backend gets one answer from both. -/
theorem answer?_eq (h : SameFor backend w w') {e : BreakerTurn} (he : e.concerns backend) :
    w.answer? e = w'.answer? e := by
  obtain ⟨e', he'⟩ := Option.isSome_iff_exists.mp he
  rw [answer?_lane he', answer?_lane he', h.lane, h.settings]

/-- What concerns a backend is logged alike, whether the other turns are taken or not. -/
theorem filter_log (h : SameFor backend w w') (turns : List BreakerTurn) :
    (w.log turns).filter (fun r => r.1.concerns backend)
      = w'.log (turns.filter (BreakerTurn.concerns backend)) := by
  induction turns generalizing w w' with
  | nil => rfl
  | cons e rest ih =>
    rcases hc : e.concerns backend with - | -
    · -- only the first run takes this turn
      have he : e.seenFrom backend = none := by simpa [BreakerTurn.concerns] using hc
      rw [log, List.filter_cons_of_neg (by simp [hc]), List.filter_cons_of_neg (by simp [hc])]
      exact ih (h.skip he)
    · rw [log, List.filter_cons_of_pos (by exact hc), List.filter_cons_of_pos (by exact hc), log,
        h.answer?_eq hc]
      exact congrArg _ (ih (h.step e))

end SameFor

/-- **A backend is answered as if it were the only one.**  The log of a run, as far as it concerns
a backend, is the log of the run without the turns that do not. -/
theorem filter_log_eq_log_filter (w : Traffic) (turns : List BreakerTurn) (backend : String) :
    (w.log turns).filter (fun r => r.1.concerns backend)
      = w.log (turns.filter (BreakerTurn.concerns backend)) :=
  (SameFor.refl backend w).filter_log turns

/-- Runs that differ in what was done to other backends only are answered the same at this one. -/
theorem log_eq_of_filter_eq {u v : List BreakerTurn}
    (h : u.filter (BreakerTurn.concerns backend) = v.filter (BreakerTurn.concerns backend)) :
    (w.log u).filter (fun r => r.1.concerns backend)
      = (w.log v).filter (fun r => r.1.concerns backend) := by
  have same := SameFor.refl backend w
  rw [same.filter_log u, same.filter_log v, h]

end Traffic

end Dispatch
