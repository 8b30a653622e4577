/-
Dispatch/Proofs/Breaker/Reset.lean

Permits from before a reset.

A reset forgets the circuits, and the generations start again with them.  Permits from before are
still out, and what tells them from new ones is their generation alone; so an old permit is stale
only until the new circuit has come to the old one's generation.

Two runs are compared: one with the uses of old permits, and one from which they are left out.  As
long as no old permit acts on a circuit, the two differ in old permits only (`Lane.Alike`), and
all answers are the same.  The first old permit that does act can be noticed by somebody who has
new permits alone (`Lane.Alike.toldApart`): by a question, or by failing until the circuit opens one
failure too early.  So old permits are inert exactly while none of them acts.

A reset alone does not make them so.  The run at the end is a call that began before a reset and
opens the circuit after it.
-/
import Mathlib.Data.List.DropRight
import Dispatch.Proofs.Breaker.SingleTrial

namespace Dispatch

/-- A turn that uses no permit with a number below `k`. -/
def LaneTurn.Fresh (k : Nat) (e : LaneTurn) : Prop := ∀ n, e.uses = some n → k ≤ n

namespace Lane

variable {backend : String} {s : BreakerSettings} {l l' : Lane} {e : LaneTurn} {k n now : Nat}

/-! ### Uses that act -/

/-- A turn uses up a permit and thereby changes the circuit: the permit is of the circuit's
generation, and the phase listens to it. -/
def Acts (l : Lane) : LaneTurn → Prop
  | .settle n success _ => ∃ p c, l.permits n = some p ∧ l.circuit = some c ∧
      c.generation = p.generation ∧ c.Heeds p.trial success
  | .release n => ∃ p c, l.permits n = some p ∧ l.circuit = some c ∧
      c.generation = p.generation ∧ p.trial = true ∧ c.phase = .halfOpen true
  | .acquire _ | .health _ | .reset => False

theorem circuit_use_eq {change : Permit → Circuit → Circuit}
    (h : ∀ p c, l.permits n = some p → l.circuit = some c → c.generation = p.generation →
      change p c = c) : (l.use n change).circuit = l.circuit := by
  rcases hp : l.permits n with - | p
  · rw [use_of_none hp]
  · rw [use_of_some hp]
    rcases hc : l.circuit with - | c
    · rfl
    · simp only [Option.map_some, Option.some.injEq]
      split
      · next hg => exact h p c hp hc hg
      · rfl

/-- A use that does not act leaves the circuit as it is. -/
theorem circuit_step_of_not_acts (he : e.uses = some n) (h : ¬ l.Acts e) :
    (l.step backend s e).circuit = l.circuit := by
  cases e with
  | settle m success now =>
    refine circuit_use_eq fun p c hp hc hg => Circuit.settle_of_not_heeds fun hh => ?_
    exact h ⟨p, c, hp, hc, hg, hh⟩
  | release m =>
    refine circuit_use_eq fun p c hp hc hg => ?_
    split
    · next ht =>
      exact Circuit.release_of_not_trialRunning fun hph => h ⟨p, c, hp, hc, hg, ht, hph⟩
    · rfl
  | acquire now => cases he
  | health now => cases he
  | reset => cases he

/-- A use takes nothing away but its own permit. -/
theorem permits_step_of_uses (he : e.uses = some n) {m : Nat} (hm : m ≠ n) :
    (l.step backend s e).permits m = l.permits m := by
  obtain ⟨change, hstep⟩ : ∃ change, l.step backend s e = l.use n change := exists_step_eq_use he l
  rw [hstep, permits_use_of_ne hm]

theorem asked_step_of_uses (he : e.uses = some n) :
    (l.step backend s e).asked = l.asked := by
  obtain ⟨change, hstep⟩ : ∃ change, l.step backend s e = l.use n change := exists_step_eq_use he l
  rw [hstep, use_asked]

/-! ### Lanes that differ in old permits -/

/-- Two lanes differ only in permits with numbers below `k`. -/
structure Alike (k : Nat) (l l' : Lane) : Prop where
  circuit : l.circuit = l'.circuit
  asked : l.asked = l'.asked
  later : k ≤ l.asked
  permits : ∀ {n}, k ≤ n → l.permits n = l'.permits n

namespace Alike

theorem current (h : Alike k l l') : l.current = l'.current := by
  unfold Lane.current
  rw [h.circuit]

theorem granted (h : Alike k l l') (now : Nat) :
    l.granted backend s now = l'.granted backend s now := by
  unfold Lane.granted
  rw [h.current]

/-- Lanes that are alike answer alike. -/
theorem answer? (h : Alike k l l') (e : LaneTurn) :
    l.answer? backend s e = l'.answer? backend s e := by
  cases e with
  | acquire now => exact congrArg (fun p => some (BreakerAnswer.permit p)) (h.granted now)
  | health now =>
    show some (BreakerAnswer.health _) = some (BreakerAnswer.health _)
    rw [h.current]
  | settle n success now => rfl
  | release n => rfl
  | reset => rfl

theorem issue (h : Alike k l l') (now : Nat) :
    Alike k (l.issue backend s now) (l'.issue backend s now) where
  circuit := by
    show some _ = some _
    rw [h.current]
  asked := congrArg (· + 1) h.asked
  later := Nat.le_succ_of_le h.later
  permits {n} hn := by
    show Function.update l.permits l.asked _ n = Function.update l'.permits l'.asked _ n
    rw [h.granted, h.asked]
    by_cases hl : n = l'.asked
    · subst hl; simp
    · simp [Function.update_of_ne hl, h.permits hn]

/-- The same use of a permit that both have keeps lanes alike. -/
theorem use (h : Alike k l l') (hn : k ≤ n) (change : Permit → Circuit → Circuit) :
    Alike k (l.use n change) (l'.use n change) := by
  rcases hp : l.permits n with - | p
  · rw [use_of_none hp, use_of_none ((h.permits hn).symm.trans hp)]
    exact h
  · rw [use_of_some hp, use_of_some ((h.permits hn).symm.trans hp)]
    refine ⟨?_, h.asked, h.later, fun {m} hm => ?_⟩
    · show l.circuit.map _ = l'.circuit.map _
      rw [h.circuit]
    · by_cases hmn : m = n
      · subst hmn; simp
      · simp [Function.update_of_ne hmn, h.permits hm]

theorem step (h : Alike k l l') (he : e.Fresh k) :
    Alike k (l.step backend s e) (l'.step backend s e) := by
  cases e with
  | acquire now => exact h.issue now
  | settle n success now => exact h.use (he n rfl) _
  | release n => exact h.use (he n rfl) _
  | health now => exact h
  | reset => exact ⟨rfl, h.asked, h.later, h.permits⟩

/-- An old permit that does not act may be used in one lane and not in the other. -/
theorem skip (h : Alike k l l') (he : e.uses = some n) (hn : n < k) (hq : ¬ l.Acts e) :
    Alike k (l.step backend s e) l' where
  -- the circuit is as before, and the only permit that is gone is an old one
  circuit := (circuit_step_of_not_acts he hq).trans h.circuit
  asked := (asked_step_of_uses he).trans h.asked
  later := (asked_step_of_uses he).symm ▸ h.later
  permits {m} hm := by
    have hmn : m ≠ n := by omega
    exact (permits_step_of_uses he hmn).trans (h.permits hm)

end Alike

/-! ### Failed calls -/

/-- The failures that are still within the window. -/
def recent (s : BreakerSettings) (now : Nat) (failures : List Nat) : List Nat :=
  failures.dropWhile fun t => s.window.nanos < now - t

/-- A new failure never leaves the window at once. -/
theorem recordFailure_eq (s : BreakerSettings) (now : Nat) (failures : List Nat) :
    Circuit.recordFailure s now failures = recent s now failures ++ [now] := by
  unfold Circuit.recordFailure recent
  rw [List.dropWhile_append]
  split
  · next h =>
    rw [List.isEmpty_iff.mp h]
    simp
  · rfl

theorem length_recordFailure (s : BreakerSettings) (now : Nat) (failures : List Nat) :
    (Circuit.recordFailure s now failures).length = (recent s now failures).length + 1 := by
  rw [recordFailure_eq, List.length_append]
  rfl

/-- Failures within the window stay there as long as time stands still. -/
theorem length_recent_recordFailure (s : BreakerSettings) (now : Nat) (failures : List Nat) :
    (recent s now (Circuit.recordFailure s now failures)).length
      = (recent s now failures).length + 1 := by
  rw [← length_recordFailure]
  unfold recent Circuit.recordFailure
  rw [List.dropWhile_idempotent]

/-- A use of a permit of the circuit's generation. -/
theorem circuit_use_of_generation {p : Permit} {c : Circuit} (hp : l.permits n = some p)
    (hc : l.circuit = some c) (hg : c.generation = p.generation)
    (change : Permit → Circuit → Circuit) : (l.use n change).circuit = some (change p c) := by
  rw [use_of_some hp, hc]
  simp [hg]

/-- A call that is asked for and fails at once. -/
def strike (backend : String) (s : BreakerSettings) (now : Nat) (l : Lane) : Lane :=
  (l.step backend s (.acquire now)).step backend s (.settle l.asked false now)

@[simp] theorem strike_asked (l : Lane) : (l.strike backend s now).asked = l.asked + 1 :=
  use_asked ..

theorem circuit_strike {failures : List Nat} {g : Nat}
    (hc : l.circuit = some ⟨.closed failures, g⟩) :
    (l.strike backend s now).circuit
      = some (Circuit.settle s false false now ⟨.closed failures, g⟩) := by
  have hcur : l.current = ⟨.closed failures, g⟩ := by simp [current, hc]
  refine circuit_use_of_generation (p := ⟨backend, g, false⟩) ?_ ?_ rfl _
  · show Function.update l.permits l.asked (l.granted backend s now) l.asked = _
    rw [Function.update_self]
    unfold granted
    rw [hcur]
    rfl
  · show some _ = _
    rw [hcur]
    rfl

theorem circuit_strike_counted {failures : List Nat} {g : Nat}
    (hc : l.circuit = some ⟨.closed failures, g⟩)
    (hlt : (recent s now failures).length + 1 < s.failureThreshold) :
    (l.strike backend s now).circuit
      = some ⟨.closed (Circuit.recordFailure s now failures), g⟩ := by
  rw [← length_recordFailure] at hlt
  rw [circuit_strike hc]
  simp [Circuit.settle, Nat.not_le.mpr hlt]

theorem circuit_strike_tripped {failures : List Nat} {g : Nat}
    (hc : l.circuit = some ⟨.closed failures, g⟩)
    (hle : s.failureThreshold ≤ (recent s now failures).length + 1) :
    (l.strike backend s now).circuit
      = some (Circuit.enter ⟨.closed failures, g⟩ (.open now)) := by
  rw [← length_recordFailure] at hle
  rw [circuit_strike hc]
  simp [Circuit.settle, hle]

/-- A circuit that has just opened never looks closed. -/
theorem health_enter_open (c : Circuit) :
    (c.enter (.open now)).health s now ≠ .closed := by
  show (if Circuit.cooled s now now then Health.halfOpen else Health.open) ≠ Health.closed
  split <;> exact nofun

/-! ### Telling lanes apart -/

/-- Somebody who has new permits alone gets other answers from one lane than from another. -/
def ToldApart (backend : String) (s : BreakerSettings) (k : Nat) (l l' : Lane) : Prop :=
  ∃ probe : List LaneTurn, (∀ e ∈ probe, e.Fresh k) ∧
    l.answers backend s probe ≠ l'.answers backend s probe

theorem current_of_circuit {c : Circuit} (hc : l.circuit = some c) : l.current = c := by
  simp [current, hc]

/-- What tells lanes apart after a turn tells them apart. -/
theorem answers_cons_ne {es : List LaneTurn}
    (h : (l.step backend s e).answers backend s es ≠ (l'.step backend s e).answers backend s es) :
    l.answers backend s (e :: es) ≠ l'.answers backend s (e :: es) := by
  intro heq
  refine h (List.append_inj_right heq ?_)
  cases e <;> rfl

theorem toldApart_of_health {c c' : Circuit} (hc : l.circuit = some c) (hc' : l'.circuit = some c')
    (now : Nat) (h : c.health s now ≠ c'.health s now) : ToldApart backend s k l l' := by
  refine ⟨[.health now], by simp [LaneTurn.Fresh, LaneTurn.uses], ?_⟩
  simpa [answers, answer?, current_of_circuit hc, current_of_circuit hc'] using h

theorem toldApart_of_granted (now : Nat) (h : l.granted backend s now ≠ l'.granted backend s now) :
    ToldApart backend s k l l' := by
  refine ⟨[.acquire now], by simp [LaneTurn.Fresh, LaneTurn.uses], ?_⟩
  simpa [answers, answer?] using h

/-- What one more failed call tells apart, is told apart by making that call first. -/
theorem toldApart_of_strike (now : Nat) (hasked : l.asked = l'.asked) (hk : k ≤ l.asked)
    (h : ToldApart backend s k (l.strike backend s now) (l'.strike backend s now)) :
    ToldApart backend s k l l' := by
  obtain ⟨probe, hfresh, hne⟩ := h
  refine ⟨.acquire now :: .settle l.asked false now :: probe, ?_, ?_⟩
  · simpa [LaneTurn.Fresh, LaneTurn.uses, hk] using hfresh
  · rw [strike, strike, ← hasked] at hne
    exact answers_cons_ne (answers_cons_ne hne)

/-- **One failure more is noticed.**  Of two closed circuits, one that has one failure more within
the window opens first, when calls are let through and fail until it does. -/
theorem toldApart_of_failures {g : Nat} (j : Nat) :
    ∀ {l l' : Lane} {failures failures' : List Nat},
    l.circuit = some ⟨.closed failures, g⟩ → l'.circuit = some ⟨.closed failures', g⟩ →
    l.asked = l'.asked → k ≤ l.asked →
    (recent s now failures).length = (recent s now failures').length + 1 →
    (recent s now failures).length + j + 1 = s.failureThreshold →
    ToldApart backend s k l l' := by
  induction j with
  | zero =>
    intro l l' failures failures' hc hc' hasked hk hlen hj
    -- the next failure opens the first circuit, and not the second
    refine toldApart_of_strike now hasked hk (toldApart_of_health
      (circuit_strike_tripped hc (by omega)) (circuit_strike_counted hc' (by omega)) now ?_)
    exact health_enter_open ⟨.closed failures, g⟩
  | succ j ih =>
    intro l l' failures failures' hc hc' hasked hk hlen hj
    have hrec := length_recent_recordFailure s now failures
    have hrec' := length_recent_recordFailure s now failures'
    refine toldApart_of_strike now hasked hk (ih (circuit_strike_counted hc (by omega))
      (circuit_strike_counted hc' (by omega)) ?_ ?_ (by omega) (by omega))
    · rw [strike_asked, strike_asked, hasked]
    · rw [strike_asked]
      omega

/-- An outcome that is heeded is noticed. -/
theorem toldApart_of_settle {c : Circuit} {trial success : Bool} (h : c.Heeds trial success)
    (hc : l.circuit = some (c.settle s trial success now)) (hc' : l'.circuit = some c)
    (hasked : l.asked = l'.asked) (hk : k ≤ l.asked) : ToldApart backend s k l l' := by
  generalize hd : c.settle s trial success now = d at hc
  cases Circuit.Settled.of_eq hd with
  | ignored hno => exact absurd h hno
  | counted hph hlt =>
    rename_i failures
    obtain ⟨phase, g⟩ := c
    obtain rfl : phase = .closed failures := hph
    have hlen := length_recordFailure s now failures
    have hrec := length_recent_recordFailure s now failures
    exact toldApart_of_failures
      (s.failureThreshold - (Circuit.recordFailure s now failures).length - 1) hc hc' hasked hk
      hrec (by omega)
  | tripped hph hle =>
    refine toldApart_of_health hc hc' now ?_
    rw [show c.health s now = .closed by simp [Circuit.health, hph]]
    exact health_enter_open c
  | recovered hph =>
    refine toldApart_of_health hc hc' now ?_
    simp [Circuit.health, hph, Circuit.enter]
  | relapsed hph =>
    rename_i running
    by_cases hcool : Circuit.cooled s now now = true
    · -- the next trial is of another generation
      refine toldApart_of_granted now ?_
      rw [granted, granted, current_of_circuit hc, current_of_circuit hc']
      cases running with
      | true => simp [Circuit.grant, hph, Circuit.enter, hcool]
      | false =>
        simp [Circuit.grant, hph, Circuit.enter, hcool]
        omega
    · refine toldApart_of_health hc hc' now ?_
      simp [Circuit.health, hph, Circuit.enter, hcool]

/-- **What an old permit does is noticed.** -/
theorem Alike.toldApart (h : Alike k l l') (hacts : l.Acts e) :
    ToldApart backend s k (l.step backend s e) l' := by
  cases e with
  | settle m success now =>
    obtain ⟨p, c, hp, hc, hg, hh⟩ := hacts
    exact toldApart_of_settle hh (circuit_use_of_generation hp hc hg _) (h.circuit ▸ hc)
      ((use_asked ..).trans h.asked) ((use_asked ..).symm ▸ h.later)
  | release m =>
    obtain ⟨p, c, hp, hc, hg, ht, hph⟩ := hacts
    have hc' : l'.circuit = some c := h.circuit ▸ hc
    have hstep : (l.step backend s (.release m)).circuit = some c.release := by
      refine (circuit_use_of_generation hp hc hg _).trans ?_
      rw [if_pos ht]
    -- the slot is free in one lane and taken in the other
    refine toldApart_of_granted 0 ?_
    unfold Lane.granted
    rw [current_of_circuit hstep, current_of_circuit hc', Circuit.grant_of_trialRunning hph]
    simp [Circuit.grant, Circuit.release_of_halfOpen hph]
  | acquire now => exact hacts.elim
  | health now => exact hacts.elim
  | reset => exact hacts.elim

end Lane

/-! ### Permits from before -/

namespace Traffic

variable {defaults : BreakerSettings} {overrides : Table BreakerSettings}
  {old w w' : Traffic} {e : BreakerTurn} {backend : String}

/-- A turn uses a permit that was asked for before. -/
def Outdated (old : Traffic) (e : BreakerTurn) : Bool :=
  e.uses.any fun t => t.number < old.asked t.backend

/-- A turn uses up a permit and thereby changes the circuit of its backend. -/
def Acts (w : Traffic) : BreakerTurn → Prop
  | .settle t success now => (w.lane t.backend).Acts (.settle t.number success now)
  | .release t => (w.lane t.backend).Acts (.release t.number)
  | .acquire .. | .health .. | .reset => False

theorem exists_of_outdated (h : old.Outdated e = true) :
    ∃ t, e.uses = some t ∧ t.number < old.asked t.backend := by
  obtain ⟨t, ht, hlt⟩ := (Option.any_eq_true ..).mp h
  exact ⟨t, ht, of_decide_eq_true hlt⟩

/-- Who uses a permit asks nothing. -/
theorem answer?_of_outdated (h : old.Outdated e = true) : w.answer? e = none := by
  obtain ⟨t, ht, -⟩ := exists_of_outdated h
  cases e with
  | settle u success now => rfl
  | release u => rfl
  | acquire b now => cases ht
  | health b now => cases ht
  | reset => cases ht

theorem outdated_at_eq_false {e' : LaneTurn} :
    old.Outdated (e'.at backend) = false ↔ e'.Fresh (old.asked backend) := by
  cases e' <;> simp [Outdated, LaneTurn.at, BreakerTurn.uses, LaneTurn.Fresh, LaneTurn.uses]

/-- A turn acts if it acts in the lane of its backend. -/
theorem acts_at {e' : LaneTurn} : w.Acts (e'.at backend) ↔ (w.lane backend).Acts e' := by
  cases e' <;> rfl

/-- Two states differ only in permits that were asked for before. -/
structure Alike (old w w' : Traffic) : Prop where
  lane : ∀ backend, (w.lane backend).Alike (old.asked backend) (w'.lane backend)
  settings : ∀ backend, w.breakers.settings backend = w'.breakers.settings backend

namespace Alike

theorem step (h : Alike old w w') (he : old.Outdated e = false) :
    Alike old (w.step e) (w'.step e) where
  lane backend := by
    rcases hseen : e.seenFrom backend with - | e'
    · rw [lane_step_of_none hseen, lane_step_of_none hseen]
      exact h.lane backend
    · rw [lane_step_of_some hseen, lane_step_of_some hseen, ← h.settings]
      obtain rfl := BreakerTurn.seenFrom_eq_some_iff.mp hseen
      exact (h.lane backend).step (outdated_at_eq_false.mp he)
  settings backend := by rw [settings_step, settings_step, h.settings]

/-- An outdated use that does not act may be left out. -/
theorem skip (h : Alike old w w') (he : old.Outdated e = true) (hq : ¬ w.Acts e) :
    Alike old (w.step e) w' where
  lane backend := by
    obtain ⟨t, ht, hlt⟩ := exists_of_outdated he
    rcases BreakerTurn.seenFrom_of_uses ht backend with ⟨rfl, e', hseen, he'⟩ | ⟨-, hseen⟩
    · rw [lane_step_of_some hseen]
      exact (h.lane _).skip he' hlt fun hacts =>
        hq (BreakerTurn.seenFrom_eq_some_iff.mp hseen ▸ acts_at.mpr hacts)
    · rw [lane_step_of_none hseen]
      exact h.lane backend
  settings backend := by rw [settings_step, h.settings]

theorem answer? (h : Alike old w w') (e : BreakerTurn) : w.answer? e = w'.answer? e := by
  have hb : ∀ {backend e'}, e.seenFrom backend = some e' → w.answer? e = w'.answer? e := by
    intro backend e' hseen
    rw [answer?_lane hseen, answer?_lane hseen, ← h.settings]
    exact (h.lane backend).answer? e'
  cases e with
  | acquire b now => exact hb (if_pos rfl)
  | health b now => exact hb (if_pos rfl)
  | settle t success now => rfl
  | release t => rfl
  | reset => rfl

/-- An outdated use that acts is noticed by somebody without outdated permits. -/
theorem exists_probe (h : Alike old w w') (he : old.Outdated e = true) (hacts : w.Acts e) :
    ∃ probe, (∀ e ∈ probe, old.Outdated e = false) ∧
      (w.step e).answers probe ≠ w'.answers probe := by
  obtain ⟨t, ht, -⟩ := exists_of_outdated he
  obtain ⟨e', rfl⟩ : ∃ e' : LaneTurn, e = e'.at t.backend := by
    rcases BreakerTurn.seenFrom_of_uses ht t.backend with ⟨-, e', hseen, -⟩ | ⟨hne, -⟩
    · exact ⟨e', BreakerTurn.seenFrom_eq_some_iff.mp hseen⟩
    · exact absurd rfl hne
  obtain ⟨probe, hfresh, hne⟩ : Lane.ToldApart t.backend (w.breakers.settings t.backend) _ _ _ :=
    (h.lane t.backend).toldApart (acts_at.mp hacts)
  refine ⟨probe.map (LaneTurn.at t.backend), ?_, ?_⟩
  · intro f hf
    obtain ⟨f', hf', rfl⟩ := List.mem_map.mp hf
    exact outdated_at_eq_false.mpr (hfresh f' hf')
  · rw [answers_map_at, answers_map_at, lane_step_of_some (LaneTurn.seenFrom_at ..),
      settings_step, ← h.settings]
    exact hne

end Alike

/-! ### Runs without outdated uses -/

/-- No outdated use of a run acts. -/
def Quiet (old w : Traffic) (turns : List BreakerTurn) : Prop :=
  ∀ u e v, turns = u ++ e :: v → old.Outdated e = true → ¬ (w.run u).Acts e

theorem quiet_cons {es : List BreakerTurn} :
    Quiet old w (e :: es) ↔ (old.Outdated e = true → ¬ w.Acts e) ∧ Quiet old (w.step e) es :=
  forall_split_cons (P := fun u f => old.Outdated f = true → ¬ (w.run u).Acts f)

/-- Turns that use no outdated permit are quiet. -/
theorem quiet_of_fresh {es : List BreakerTurn} (h : ∀ e ∈ es, old.Outdated e = false) :
    Quiet old w es := by
  rintro u e v rfl he
  exact absurd he (by simp [h e (by simp)])

/-- A quiet run may be cut short and continued without outdated permits. -/
theorem Quiet.prefix_append {es u probe : List BreakerTurn} (h : Quiet old w es) (hu : u <+: es)
    (hprobe : ∀ e ∈ probe, old.Outdated e = false) : Quiet old w (u ++ probe) := by
  induction u generalizing w es with
  | nil => exact quiet_of_fresh hprobe
  | cons e u ih =>
    obtain ⟨v, rfl⟩ := hu
    obtain ⟨he, hes⟩ := quiet_cons.mp h
    exact quiet_cons.mpr ⟨he, ih hes (List.prefix_append u v)⟩

/-- A quiet run is answered as it is without its outdated uses. -/
theorem Quiet.answers_eq {es : List BreakerTurn} (h : Quiet old w es) (hw : Alike old w w') :
    w.answers es = w'.answers (es.filter fun e => !old.Outdated e) := by
  induction es generalizing w w' with
  | nil => rfl
  | cons e es ih =>
    obtain ⟨hquiet, hes⟩ := quiet_cons.mp h
    cases he : old.Outdated e with
    | true =>
      rw [List.filter_cons_of_neg (by simp [he]), answers, answer?_of_outdated he]
      exact ih hes (hw.skip he (hquiet he))
    | false =>
      rw [List.filter_cons_of_pos (by simp [he]), answers, answers, hw.answer? e,
        ih hes (hw.step he)]

/-- A run is quiet if nothing that may follow one of its first turns notices the outdated uses. -/
theorem quiet_of_answers_eq {es : List BreakerTurn} (hw : Alike old w w')
    (h : ∀ u, u <+: es → ∀ probe, (∀ e ∈ probe, old.Outdated e = false) →
      w.answers (u ++ probe) = w'.answers ((u ++ probe).filter fun e => !old.Outdated e)) :
    Quiet old w es := by
  induction es generalizing w w' with
  | nil => exact quiet_of_fresh (by simp)
  | cons e es ih =>
    -- if it acted, a probe right after it would get other answers
    have hquiet : old.Outdated e = true → ¬ w.Acts e := by
      intro he hacts
      obtain ⟨probe, hfresh, hne⟩ := hw.exists_probe he hacts
      have heq := h [e] (by simp) probe hfresh
      rw [List.singleton_append, List.filter_cons_of_neg (by simp [he]),
        List.filter_eq_self.mpr (by simpa using hfresh), answers, answer?_of_outdated he] at heq
      exact hne heq
    refine quiet_cons.mpr ⟨hquiet, ?_⟩
    cases he : old.Outdated e with
    | true =>
      refine ih (hw.skip he (hquiet he)) fun u hu probe hfresh => ?_
      have heq := h (e :: u) (List.cons_prefix_cons.mpr ⟨rfl, hu⟩) probe hfresh
      rw [List.cons_append, List.filter_cons_of_neg (by simp [he]), answers,
        answer?_of_outdated he] at heq
      exact heq
    | false =>
      refine ih (hw.step he) fun u hu probe hfresh => ?_
      have heq := h (e :: u) (List.cons_prefix_cons.mpr ⟨rfl, hu⟩) probe hfresh
      rw [List.cons_append, List.filter_cons_of_pos (by simp [he]), answers, answers,
        hw.answer? e] at heq
      exact List.append_cancel_left heq

/-- **When a reset makes old permits inert.**  After a reset, a run and whatever may follow any of
its turns are answered as without the permits from before the reset, exactly if none of these, when
it is settled or dropped, meets a circuit of its own generation that takes notice of it. -/
theorem outdated_inert_iff (defaults : BreakerSettings) (overrides : Table BreakerSettings)
    (before after : List BreakerTurn) :
    let w := (start defaults overrides).run before
    let r := w.step .reset
    (∀ u, u <+: after → ∀ probe, (∀ e ∈ probe, w.Outdated e = false) →
      r.answers (u ++ probe) = r.answers ((u ++ probe).filter fun e => !w.Outdated e)) ↔
      ∀ u e v, after = u ++ e :: v → w.Outdated e = true → ¬ (r.run u).Acts e := by
  intro w r
  have hr : Alike w r r :=
    ⟨fun b => ⟨rfl, rfl, Nat.le_refl _, fun _ => rfl⟩, fun b => rfl⟩
  refine ⟨quiet_of_answers_eq hr, fun h u hu probe hfresh => ?_⟩
  have hquiet : Quiet w r (u ++ probe) := Quiet.prefix_append h hu hfresh
  exact hquiet.answers_eq hr

/-- A reset does not make old permits inert: a call that began before it fails after it, and opens
the circuit of a backend that has not failed since. -/
theorem outdated_failure_after_reset :
    let w := (start { failureThreshold := 1 } .empty).run [.acquire "b" 0]
    let r := w.step .reset
    let after : List BreakerTurn :=
      [.acquire "b" 0, .settle ⟨"b", 0⟩ false 0, .health "b" 0]
    r.answers after = [.permit (some ⟨"b", 0, false⟩), .health .open] ∧
      r.answers (after.filter fun e => !w.Outdated e)
        = [.permit (some ⟨"b", 0, false⟩), .health .closed] := by
  decide

end Traffic

end Dispatch
