/-
Dispatch/Proofs/Breaker/Availability.lean

A circuit is never stuck.

A half-open circuit whose slot is taken refuses everybody, and only a permit can free the slot.
So somebody has to have that permit: a trial of the circuit's own generation (`Lane.Attended`).
Every turn keeps this, a reset included.  After a reset several trials of one generation may be
out, and one of them may free the slot of another; but a slot that is taken was taken by a request
after the last of these uses, and the permit of that request is still out.

Hence a backend without permits out has no slot that is taken, and what refuses a request there can
only be a cooldown that is not over.
-/
import Dispatch.Proofs.Breaker.SingleTrial

namespace Dispatch

namespace Circuit

variable {s : BreakerSettings} {now : Nat} {c : Circuit}

/-- Only a running trial or a cooldown refuses a request. -/
theorem exists_grant (hslot : c.phase ≠ .halfOpen true)
    (hcool : ∀ since, c.phase = .open since → cooled s since now = true) :
    ∃ r, c.grant s now = some r := by
  generalize hg : c.grant s now = answer
  cases Granted.of_eq hg with
  | normal _ => exact ⟨_, rfl⟩
  | freeSlot _ => exact ⟨_, rfl⟩
  | cooledDown _ _ => exact ⟨_, rfl⟩
  | trialRunning hp => exact absurd hp hslot
  | coolingDown hp hc => exact absurd (hcool _ hp) (by simp [hc])

/-- An outcome that is heeded leaves no slot taken. -/
theorem settle_phase_ne {trial success : Bool} (h : c.Heeds trial success) :
    (c.settle s trial success now).phase ≠ .halfOpen true := by
  generalize hs : c.settle s trial success now = c'
  cases Settled.of_eq hs with
  | ignored hno => exact absurd h hno
  | counted _ _ => exact nofun
  | tripped _ _ => exact nofun
  | recovered _ => exact nofun
  | relapsed _ => exact nofun

theorem release_phase_ne (c : Circuit) : c.release.phase ≠ .halfOpen true := by
  unfold release
  split
  · exact nofun
  · next hno => exact hno true

end Circuit

namespace Lane

variable {backend : String} {s : BreakerSettings} {l : Lane} {n : Nat}

/-- Somebody has a trial of the circuit's own generation. -/
def TrialOfGeneration (l : Lane) (n : Nat) : Prop :=
  ∃ p, l.permits n = some p ∧ p.trial = true ∧ p.generation = l.current.generation

/-- A slot that is taken belongs to a permit that is out. -/
structure Attended (l : Lane) : Prop where
  issued : ∀ {n p}, l.permits n = some p → n < l.asked
  holder : l.current.phase = .halfOpen true → ∃ n, l.TrialOfGeneration n

theorem attended_empty : Attended {} where
  issued h := nomatch h
  holder h := nomatch h

namespace Attended

/-- Permits that are out were asked for, after another request as well. -/
theorem issued_update (h : Attended l) {r : Option Permit} {m : Nat} {q : Permit}
    (hq : Function.update l.permits l.asked r m = some q) : m < l.asked + 1 := by
  rcases held_update hq with ⟨rfl, -⟩ | ⟨-, hq⟩
  · exact Nat.lt_succ_self _
  · exact Nat.lt_succ_of_lt (h.issued hq)

theorem issue (h : Attended l) (now : Nat) : Attended (l.issue backend s now) := by
  unfold Lane.issue granted
  generalize hg : l.current.grant s now = answer
  refine ⟨h.issued_update, fun hph => ?_⟩
  cases Circuit.Granted.of_eq hg with
  | normal hp => exact absurd (hp.symm.trans hph) nofun
  | freeSlot _ => exact ⟨l.asked, _, Function.update_self .., rfl, rfl⟩
  | cooledDown _ _ => exact ⟨l.asked, _, Function.update_self .., rfl, rfl⟩
  | trialRunning hp =>
    -- the one who has the slot is not the one who asks
    obtain ⟨m, p, hm, ht, hg⟩ := h.holder hp
    exact ⟨m, p, (Function.update_of_ne (Nat.ne_of_lt (h.issued hm)) ..).trans hm, ht, hg⟩
  | coolingDown hp _ => exact absurd (hp.symm.trans hph) nofun

/-- A use keeps the slot attended if a trial that it reaches leaves no slot taken, and any other
permit leaves the circuit as it is or no slot taken. -/
theorem use (h : Attended l) {change : Permit → Circuit → Circuit}
    (htrial : ∀ p, p.trial = true → l.current.phase = .halfOpen true →
      (change p l.current).phase ≠ .halfOpen true)
    (hsame : ∀ p, change p l.current = l.current ∨
      (change p l.current).phase ≠ .halfOpen true) : Attended (l.use n change) := by
  rcases hp : l.permits n with - | p
  · rw [use_of_none hp]
    exact h
  have hcur := current_use hp change
  refine ⟨fun {m q} hq => ?_, fun hph => ?_⟩
  · rw [use_asked]
    exact h.issued (permits_of_use hq).2
  · -- the circuit has not changed, so the slot was taken before
    have hkeep : (l.use n change).current = l.current := by
      split at hcur
      · rcases hsame p with hc | hc
        · exact hcur.trans hc
        · exact absurd (hcur ▸ hph) hc
      · exact hcur
    rw [hkeep] at hph
    obtain ⟨m, q, hq, ht, hg⟩ := h.holder hph
    have hm : m ≠ n := by
      rintro rfl
      obtain rfl : p = q := Option.some.inj (hp.symm.trans hq)
      rw [if_pos ⟨isSome_of_phase hph, hg.symm⟩, hkeep] at hcur
      exact htrial p ht hph (hcur ▸ hph)
    have hout : (l.use n change).permits m = some q := (permits_use_of_ne hm change).trans hq
    exact ⟨m, q, hout, ht, hg.trans (congrArg _ hkeep.symm)⟩

theorem settle (h : Attended l) (n : Nat) (success : Bool) (now : Nat) :
    Attended (l.use n fun p => Circuit.settle s p.trial success now) := by
  refine h.use (fun p ht hph => ?_) fun p => ?_
  · rw [ht]
    exact Circuit.settle_phase_ne (.trial hph success)
  · by_cases hh : l.current.Heeds p.trial success
    · exact Or.inr (Circuit.settle_phase_ne hh)
    · exact Or.inl (Circuit.settle_of_not_heeds hh)

theorem release (h : Attended l) (n : Nat) :
    Attended (l.use n fun p c => if p.trial then c.release else c) := by
  refine h.use (fun p ht _ => ?_) fun p => ?_
  · rw [if_pos ht]
    exact Circuit.release_phase_ne _
  · split
    · exact Or.inr (Circuit.release_phase_ne _)
    · exact Or.inl rfl

/-- Every turn keeps the slot attended. -/
theorem step (h : Attended l) (e : LaneTurn) : Attended (l.step backend s e) := by
  cases e with
  | acquire now => exact h.issue now
  | settle n success now => exact h.settle n success now
  | release n => exact h.release n
  | health now => exact h
  | reset => exact ⟨h.issued, fun hph => nomatch hph⟩

theorem run (h : Attended l) (es : List LaneTurn) : Attended (l.run backend s es) := by
  induction es generalizing l with
  | nil => exact h
  | cons e es ih =>
    rw [run_cons]
    exact ih (h.step e)

end Attended

end Lane

namespace Traffic

variable {defaults : BreakerSettings} {overrides : Table BreakerSettings}

/-- At all times, a slot that is taken belongs to a permit that is out. -/
theorem attended_lane (turns : List BreakerTurn) (backend : String) :
    (((start defaults overrides).run turns).lane backend).Attended := by
  rw [lane_run]
  exact Lane.attended_empty.run _

/-- **A circuit is never stuck.**  Whoever asks, reports, drops permits or resets, in whatever order
and at whatever times: while no permit for a backend is out, whoever asks for one gets it, unless
the circuit is open and has not cooled down.  And a slot that is taken belongs at all times to a
trial of the circuit's own generation that is out. -/
theorem granted_of_no_permits (defaults : BreakerSettings) (overrides : Table BreakerSettings)
    (turns : List BreakerTurn) (backend : String) :
    let w := (start defaults overrides).run turns
    let circuit := w.breakers.circuit backend
    ((∀ t, t.backend = backend → w.permits t = none) →
      ((∀ since, circuit.phase ≠ .open since) →
        ∀ now, ∃ p, (w.breakers.acquire backend now).2 = some p) ∧
      ∀ since, circuit.phase = .open since →
        ∀ now, (w.breakers.settings backend).cooldown.nanos ≤ now - since →
          ∃ p, (w.breakers.acquire backend now).2 = some p) ∧
    (circuit.phase = .halfOpen true →
      ∃ t p, t.backend = backend ∧ w.permits t = some p ∧ p.trial = true ∧
        p.generation = circuit.generation) := by
  intro w circuit
  have h : (w.lane backend).Attended := attended_lane turns backend
  have hgrant : ∀ now, (∃ r, circuit.grant (w.breakers.settings backend) now = some r) →
      ∃ p, (w.breakers.acquire backend now).2 = some p := by
    rintro now ⟨r, hr⟩
    exact ⟨_, by rw [Breakers.acquire_snd, hr]; rfl⟩
  refine ⟨fun hnone => ?_, fun hph => ?_⟩
  · -- nobody could free a slot, so none is taken
    have hslot : circuit.phase ≠ .halfOpen true := by
      intro hph
      obtain ⟨n, p, hp, -⟩ := h.holder hph
      exact absurd ((hnone ⟨backend, n⟩ rfl).symm.trans hp) nofun
    refine ⟨fun hopen now => ?_, fun since hopen now hcool => ?_⟩
    · exact hgrant now (Circuit.exists_grant hslot fun since hp => absurd hp (hopen since))
    · refine hgrant now (Circuit.exists_grant hslot fun since' hp => ?_)
      obtain rfl : since = since' := Phase.open.inj (hopen.symm.trans hp)
      exact decide_eq_true hcool
  · obtain ⟨n, p, hp, ht, hg⟩ := h.holder hph
    exact ⟨⟨backend, n⟩, p, rfl, hp, ht, hg⟩

/-- Two trials of one generation, on both sides of a reset.  The drop of the old one frees the slot
of the new one, and a third trial takes it; when all of them are dropped, whoever asks is let
through. -/
theorem granted_after_trials_dropped :
    let settings : BreakerSettings := { failureThreshold := 1, cooldown := .zero }
    let opening : List BreakerTurn := [.acquire "b" 0, .settle ⟨"b", 0⟩ false 0]
    let trials : List BreakerTurn :=
      [.acquire "b" 0, .reset, .acquire "b" 0, .settle ⟨"b", 2⟩ false 0, .acquire "b" 0,
        .release ⟨"b", 1⟩, .acquire "b" 0]
    let dropped : List BreakerTurn := [.release ⟨"b", 3⟩, .release ⟨"b", 4⟩]
    let atOpening := (start settings .empty).run opening
    let atTrials := (start settings .empty).run (opening ++ trials)
    let atEnd := (start settings .empty).run (opening ++ trials ++ dropped)
    ((atOpening.breakers.circuit "b").phase = .open 0 ∧
      ∃ p, (atOpening.breakers.acquire "b" 0).2 = some p) ∧
    ((atTrials.breakers.circuit "b").phase = .halfOpen true ∧
      ∃ t p, t.backend = "b" ∧ atTrials.permits t = some p ∧ p.trial = true ∧
        p.generation = (atTrials.breakers.circuit "b").generation) ∧
    (atEnd.breakers.circuit "b").phase = .halfOpen false ∧
      ∀ now, ∃ p, (atEnd.breakers.acquire "b" now).2 = some p := by
  intro settings opening trials dropped atOpening atTrials atEnd
  -- a permit that is out was asked for, so a few tickets are all there are
  have hnone : ∀ (turns : List BreakerTurn) (asked : Nat),
      ((start settings .empty).run turns).asked "b" = asked →
      (∀ n < asked, ((start settings .empty).run turns).permits ⟨"b", n⟩ = none) →
      ∀ t, t.backend = "b" → ((start settings .empty).run turns).permits t = none := by
    rintro turns asked hasked hfew ⟨b, n⟩ rfl
    by_cases hn : n < asked
    · exact hfew n hn
    · refine Option.eq_none_iff_forall_ne_some.mpr fun p hp => hn ?_
      rw [← hasked]
      exact (attended_lane turns _).issued hp
  have hopen : (atOpening.breakers.circuit "b").phase = .open 0 := by decide
  have hslot : (atTrials.breakers.circuit "b").phase = .halfOpen true := by decide
  have hfree : (atEnd.breakers.circuit "b").phase = .halfOpen false := by decide
  refine ⟨⟨hopen, ?_⟩, ⟨hslot, ?_⟩, hfree, ?_⟩
  · exact ((granted_of_no_permits settings .empty opening "b").1
      (hnone opening 1 (by decide) (by decide))).2 0 hopen 0 (Nat.zero_le _)
  · exact (granted_of_no_permits settings .empty (opening ++ trials) "b").2 hslot
  · exact ((granted_of_no_permits settings .empty (opening ++ trials ++ dropped) "b").1
      (hnone _ 5 (by decide) (by decide))).1 fun since hp => absurd (hfree.symm.trans hp) nofun

end Traffic

end Dispatch
