/-
Dispatch/Proofs/Breaker/Cooldown.lean

A cooldown is neither cut short nor made longer.

Many calls may still be under way when a circuit opens, and report at any time after it.  None of
their permits has the generation of the open circuit (`Orderly.current_use_of_open`), so a circuit
stays exactly as it opened until a request finds it cooled down (`Orderly.current_run_of_open`).
That request is the trial, and from then on the circuit is half-open until a trial is reported
(`Recovering`).

The theorem puts this on a clock that does not go backwards.  A trial that fails opens the circuit
again, so that the theorem applies again from there.
-/
import Dispatch.Proofs.Breaker.Opening

namespace Dispatch

namespace Lane

variable {backend : String} {s : BreakerSettings} {l : Lane} {n since : Nat} {e : LaneTurn}

namespace Orderly

/-- An open circuit is of a later generation than all permits. -/
theorem generation_lt_of_open (h : Orderly l) (hopen : l.current.phase = .open since) {p : Permit}
    (hp : l.permits n = some p) : p.generation < l.current.generation := by
  refine Nat.lt_of_le_of_ne (h.past hp) fun heq => ?_
  -- a trial would have its slot taken, any other permit a circuit that is closed
  cases ht : p.trial with
  | true => exact absurd (hopen.symm.trans (h.trial hp ht).2) nofun
  | false =>
    obtain ⟨failures, hclosed⟩ := h.normal hp ht heq
    exact absurd (hopen.symm.trans hclosed) nofun

/-- No permit reaches an open circuit. -/
theorem current_use_of_open (h : Orderly l) (hp : l.current.phase = .open since)
    (n : Nat) (change : Permit → Circuit → Circuit) : (l.use n change).current = l.current := by
  rcases hn : l.permits n with - | p
  · rw [use_of_none hn]
  have hstale : p.generation < l.current.generation := h.generation_lt_of_open hp hn
  rw [current_use hn, if_neg fun hreach => Nat.ne_of_gt hstale hreach.2]

/-- A turn leaves an open circuit as it is, unless it asks and the circuit has cooled down. -/
theorem current_step_of_open (h : Orderly l) (hp : l.current.phase = .open since)
    (he : e ≠ .reset) (hcool : ∀ now, e = .acquire now → Circuit.cooled s since now = false) :
    (l.step backend s e).current = l.current := by
  cases e with
  | acquire now =>
    have hnot := hcool now rfl
    rw [Lane.step, current_issue]
    generalize hg : l.current.grant s now = answer
    cases Circuit.Granted.of_eq hg with
    | normal _ => rfl
    | freeSlot hp' => cases hp.symm.trans hp'
    | cooledDown hp' hc =>
      obtain rfl := Phase.open.inj (hp.symm.trans hp')
      cases hnot.symm.trans hc
    | trialRunning _ => rfl
    | coolingDown _ _ => rfl
  | settle n success now => exact h.current_use_of_open hp n _
  | release n => exact h.current_use_of_open hp n _
  | health now => rfl
  | reset => exact absurd rfl he

/-- A circuit stays as it opened until it is asked once it has cooled down. -/
theorem current_run_of_open (h : Orderly l) (hp : l.current.phase = .open since)
    {es : List LaneTurn} (hes : .reset ∉ es)
    (hcool : ∀ now, .acquire now ∈ es → Circuit.cooled s since now = false) :
    (l.run backend s es).current = l.current := by
  induction es generalizing l with
  | nil => rfl
  | cons e es ih =>
    rw [List.mem_cons, not_or] at hes
    have he : e ≠ .reset := Ne.symm hes.1
    have hstep : (l.step backend s e).current = l.current :=
      h.current_step_of_open hp he fun now hnow => hcool now (by simp [hnow])
    rw [run_cons, ih (h.step he) (hstep ▸ hp) hes.2 fun now hnow => hcool now (by simp [hnow]),
      hstep]

end Orderly

/-! ### From the opening to the report of a trial -/

/-- A circuit that opened at a time has not been closed since, nor opened again. -/
def Recovering (since : Nat) (l : Lane) : Prop :=
  l.current.phase = .open since ∨ ∃ running, l.current.phase = .halfOpen running

/-- A turn reports a trial that is out. -/
def ReportsTrial (l : Lane) (e : LaneTurn) : Prop :=
  ∃ n success now, e = .settle n success now ∧ l.HoldsTrial n

/-- While it is half-open, a circuit leaves that phase by the report of a trial alone. -/
theorem halfOpen_step {running : Bool} (hph : l.current.phase = .halfOpen running)
    (he : e ≠ .reset) (hno : ¬ l.ReportsTrial e) :
    ∃ running', (l.step backend s e).current.phase = .halfOpen running' := by
  generalize hc : (l.step backend s e).current = c
  have hstep : CircuitStep s l e c := hc ▸ l.circuitStep e
  cases hstep with
  | same _ => exact ⟨running, hph⟩
  | granted hg =>
    cases Circuit.Granted.of_eq hg with
    | normal _ => exact ⟨running, hph⟩
    | freeSlot _ => exact ⟨true, rfl⟩
    | cooledDown _ _ => exact ⟨true, rfl⟩
  | @settled n success now p hp =>
    -- whoever reports has no trial, and a half-open circuit heeds nobody else
    have ht : p.trial = false := by
      cases ht : p.trial with
      | false => rfl
      | true => exact absurd ⟨n, success, now, rfl, p, hp, ht⟩ hno
    have hheeds : ¬ l.current.Heeds p.trial success := by
      rw [ht]
      intro hh
      cases hh with
      | failure hclosed => cases hph.symm.trans hclosed
    rw [Circuit.settle_of_not_heeds hheeds]
    exact ⟨running, hph⟩
  | released _ _ => exact ⟨false, Circuit.release_of_halfOpen hph⟩
  | reset => exact absurd rfl he

theorem Recovering.step (hr : Recovering since l) (h : Orderly l) (he : e ≠ .reset)
    (hno : ¬ l.ReportsTrial e) : Recovering since (l.step backend s e) := by
  rcases hr with hp | ⟨running, hph⟩
  · -- only a request that finds the circuit cooled down changes it
    by_cases hcool : ∃ now, e = .acquire now ∧ Circuit.cooled s since now = true
    · obtain ⟨now, rfl, hc⟩ := hcool
      refine Or.inr ⟨true, ?_⟩
      rw [Lane.step, current_issue]
      simp [Circuit.grant, hp, hc, Circuit.enter]
    · refine Or.inl ?_
      rw [h.current_step_of_open hp he fun now hnow => ?_, hp]
      exact Bool.eq_false_iff.mpr fun hc => hcool ⟨now, hnow, hc⟩
  · exact Or.inr (halfOpen_step hph he hno)

/-! ### The report of a trial -/

/-- A trial that fails opens the circuit, and one that succeeds closes it with no failures. -/
theorem Orderly.phase_report (h : Orderly l) (hn : l.HoldsTrial n) (success : Bool) (now : Nat) :
    (l.step backend s (.settle n success now)).current.phase
      = if success then .closed [] else .open now := by
  obtain ⟨p, hp, ht⟩ := hn
  obtain ⟨-, hph⟩ := h.trial hp ht
  rw [Lane.step, h.current_use_trial hp ht, ht]
  cases success <;> simp [Circuit.settle, hph, Circuit.enter]

end Lane

/-! ### On a clock -/

namespace Traffic

variable {w : Traffic} {backend : String} {e : BreakerTurn} {es : List BreakerTurn} {t now : Nat}

/-- A turn reports a trial of a backend that is out. -/
def ReportsTrial (w : Traffic) (backend : String) (e : BreakerTurn) : Prop :=
  ∃ ticket success now, e = .settle ticket success now ∧ ticket.backend = backend ∧
    w.TrialOut ticket

/-- No trial of a backend is reported in a run. -/
def Unreported (w : Traffic) (backend : String) (es : List BreakerTurn) : Prop :=
  ∀ u e v, es = u ++ e :: v → ¬ (w.run u).ReportsTrial backend e

theorem unreported_nil (w : Traffic) (backend : String) : Unreported w backend [] :=
  fun u e v h => by simp at h

theorem unreported_cons : Unreported w backend (e :: es) ↔
    ¬ w.ReportsTrial backend e ∧ Unreported (w.step e) backend es :=
  forall_split_cons (P := fun u f => ¬ (w.run u).ReportsTrial backend f)

/-- An open circuit stays as it is while nobody asks once it has cooled down. -/
theorem circuit_run_of_open (h : (w.lane backend).Orderly)
    (hp : (w.breakers.circuit backend).phase = .open t) (hes : .reset ∉ es)
    (hearly : ∀ now, .acquire backend now ∈ es →
      now - t < (w.breakers.settings backend).cooldown.nanos) :
    (w.run es).breakers.circuit backend = w.breakers.circuit backend := by
  rw [← current_lane, lane_run, ← current_lane]
  refine h.current_run_of_open hp (fun hmem => ?_) fun now hmem => ?_
  · obtain ⟨e, he, hseen⟩ := List.mem_filterMap.mp hmem
    obtain rfl : e = .reset := BreakerTurn.seenFrom_eq_some_iff.mp hseen
    exact hes he
  · obtain ⟨e, he, hseen⟩ := List.mem_filterMap.mp hmem
    obtain rfl : e = .acquire backend now := BreakerTurn.seenFrom_eq_some_iff.mp hseen
    exact decide_eq_false (Nat.not_le.mpr (hearly now he))

/-- Until a trial is reported, a circuit that has opened neither closes nor opens again. -/
theorem recovering_run (h : (w.lane backend).Orderly) (hr : (w.lane backend).Recovering t)
    (hes : .reset ∉ es) (hno : Unreported w backend es) :
    ((w.run es).lane backend).Recovering t := by
  induction es generalizing w with
  | nil => exact hr
  | cons e es ih =>
    rw [List.mem_cons, not_or] at hes
    obtain ⟨hno, hrest⟩ := unreported_cons.mp hno
    have hstep : ((w.step e).lane backend).Recovering t := by
      rcases hseen : e.seenFrom backend with - | e'
      · rw [lane_step_of_none hseen]
        exact hr
      · rw [lane_step_of_some hseen]
        obtain rfl := BreakerTurn.seenFrom_eq_some_iff.mp hseen
        refine hr.step h ?_ ?_
        · rintro rfl
          exact hes.1 rfl
        · rintro ⟨n, success, now, rfl, hn⟩
          exact hno ⟨⟨backend, n⟩, success, now, rfl, rfl, hn⟩
    have horderly : ((w.run [e]).lane backend).Orderly := orderly_run h (by simpa using hes.1)
    exact ih horderly hstep hes.2 hrest

/-! #### Answers of a circuit that has opened -/

theorem answer?_coolingDown (hp : (w.breakers.circuit backend).phase = .open t)
    (hnow : now - t < (w.breakers.settings backend).cooldown.nanos) :
    w.answer? (.acquire backend now) = some (.permit none) ∧
      w.answer? (.health backend now) = some (.health .open) := by
  have hcool : Circuit.cooled (w.breakers.settings backend) t now = false :=
    decide_eq_false (Nat.not_le.mpr hnow)
  refine ⟨?_, ?_⟩
  · rw [answer?, Breakers.acquire_snd]
    simp [Circuit.grant, hp, hcool]
  · simp [answer?, Breakers.health, Circuit.health, hp, hcool]

theorem answer?_cooledDown (hp : (w.breakers.circuit backend).phase = .open t)
    (hnow : (w.breakers.settings backend).cooldown.nanos ≤ now - t) :
    ∃ p, w.answer? (.acquire backend now) = some (.permit (some p)) ∧ p.trial = true := by
  have hcool : Circuit.cooled (w.breakers.settings backend) t now = true := decide_eq_true hnow
  rw [answer?, Breakers.acquire_snd]
  simp [Circuit.grant, hp, hcool]

theorem answer?_health_recovering (hr : (w.lane backend).Recovering t)
    (hnow : (w.breakers.settings backend).cooldown.nanos ≤ now - t) :
    w.answer? (.health backend now) = some (.health .halfOpen) := by
  have hcool : Circuit.cooled (w.breakers.settings backend) t now = true := decide_eq_true hnow
  rcases hr with hp | ⟨running, hp⟩ <;> rw [current_lane] at hp <;>
    simp [answer?, Breakers.health, Circuit.health, hp, hcool]

/-- The report of a trial closes the circuit with no failures, or opens it again. -/
theorem report_trial (h : (w.lane backend).Orderly) {ticket : Ticket}
    (hticket : ticket.backend = backend) (hout : w.TrialOut ticket) (success : Bool) (now : Nat) :
    if success then
      ((w.step (.settle ticket success now)).breakers.circuit backend).phase = .closed []
    else w.Opens (.settle ticket success now) backend now := by
  obtain ⟨b, n⟩ := ticket
  obtain rfl : b = backend := hticket
  have hph : (w.breakers.circuit b).phase = .halfOpen true := h.trialRunning_iff.mpr ⟨n, hout⟩
  have hafter : ((w.step (.settle ⟨b, n⟩ success now)).breakers.circuit b).phase
      = if success then .closed [] else .open now := by
    have hseen : (BreakerTurn.settle ⟨b, n⟩ success now).seenFrom b
        = some (.settle n success now) := if_pos rfl
    rw [← current_lane, lane_step_of_some hseen]
    exact h.phase_report hout success now
  cases success with
  | true => exact hafter
  | false => exact ⟨fun since hopen => absurd (hopen.symm.trans hph) nofun, ⟨now, hafter⟩, rfl⟩

/-- **A cooldown is neither cut short nor made longer.**  Let a circuit open at a time, on a clock
that does not go backwards, and let anybody ask, report or drop permits after that, without a
reset.  Before the cooldown is over, whoever asks is refused and the circuit looks open.  Whoever is
the first to ask when it is over gets a trial, and the circuit looks half-open from then until a
trial is reported.  A trial that fails opens the circuit at the time of its report, so that all of
this begins again, and a trial that succeeds closes it with no failures. -/
theorem cooldown_exact (defaults : BreakerSettings) (overrides : Table BreakerSettings)
    (past after : List BreakerTurn) (e : BreakerTurn) (backend : String) (t : Nat)
    (hreset : .reset ∉ past ++ e :: after) (htimes : Timely (past ++ e :: after))
    (hopens : ((start defaults overrides).run past).Opens e backend t) :
    let w := ((start defaults overrides).run past).step e
    let due := t + (w.breakers.settings backend).cooldown.nanos
    ∀ u x v, after = u ++ x :: v →
      (∀ now, now < due →
        (x = .acquire backend now → (w.run u).answer? x = some (.permit none)) ∧
        (x = .health backend now → (w.run u).answer? x = some (.health .open))) ∧
      (∀ now, due ≤ now →
        (x = .acquire backend now → (∀ early, .acquire backend early ∈ u → early < due) →
          ∃ p, (w.run u).answer? x = some (.permit (some p)) ∧ p.trial = true) ∧
        (x = .health backend now → w.Unreported backend u →
          (w.run u).answer? x = some (.health .halfOpen))) ∧
      ∀ ticket success now, x = .settle ticket success now → ticket.backend = backend →
        (w.run u).TrialOut ticket →
          if success then (((w.run u).step x).breakers.circuit backend).phase = .closed []
          else (w.run u).Opens x backend now := by
  intro w due u x v hafter
  subst hafter
  simp only [List.mem_append, List.mem_cons, not_or] at hreset
  obtain ⟨hpast, he, hu, -, -⟩ := hreset
  have hopen : (w.breakers.circuit backend).phase = .open t := phase_of_opens hopens
  have horderly : (w.lane backend).Orderly := by
    have hbefore : (((start defaults overrides).run past).lane backend).Orderly :=
      orderly_lane hpast backend
    have hafter : ((((start defaults overrides).run past).run [e]).lane backend).Orderly :=
      orderly_run hbefore (by simpa using he)
    exact hafter
  -- what was asked since the opening was asked after it, and before the last turn
  have hfrom : ∀ {y now}, y ∈ u ++ x :: v → y.time? = some now → t ≤ now := by
    intro y now hy hnow
    rw [List.append_cons] at htimes
    exact htimes.le (by simp) hy hopens.time hnow
  have huntil : ∀ {y early now}, y ∈ u → y.time? = some early → x.time? = some now →
      early ≤ now := by
    intro y early now hy hearly hnow
    rw [← List.cons_append, ← List.append_assoc] at htimes
    exact htimes.le (by simp [hy]) (by simp) hearly hnow
  -- the circuit is as it opened if all who asked came too early
  have hstays : (∀ early, .acquire backend early ∈ u → early < due) →
      ((w.run u).breakers.circuit backend).phase = .open t := by
    intro hearly
    rw [circuit_run_of_open horderly hopen hu fun early hmem => ?_]
    · exact hopen
    · have hlt := hearly early hmem
      have hle := hfrom (List.mem_append_left _ hmem) rfl
      omega
  refine ⟨fun now hnow => ?_, fun now hnow => ⟨?_, ?_⟩, ?_⟩
  · -- too early
    have hlt : x.time? = some now →
        now - t < ((w.run u).breakers.settings backend).cooldown.nanos := by
      intro hx
      have hle := hfrom (by simp) hx
      rw [settings_run]
      omega
    have hearly : x.time? = some now → ∀ early, .acquire backend early ∈ u → early < due :=
      fun hx early hmem => Nat.lt_of_le_of_lt (huntil hmem rfl hx) hnow
    refine ⟨?_, ?_⟩
    · rintro rfl
      exact (answer?_coolingDown (hstays (hearly rfl)) (hlt rfl)).1
    · rintro rfl
      exact (answer?_coolingDown (hstays (hearly rfl)) (hlt rfl)).2
  · -- the first to ask
    rintro rfl hearly
    refine answer?_cooledDown (hstays hearly) ?_
    rw [settings_run]
    omega
  · -- until a trial is reported
    rintro rfl hno
    refine answer?_health_recovering (recovering_run horderly (Or.inl hopen) hu hno) ?_
    rw [settings_run]
    omega
  · -- the report
    rintro ticket success now rfl hticket hout
    exact report_trial (orderly_run horderly hu) hticket hout success now

/-- A circuit with a cooldown of thirty seconds.  A call that was let through before it opened
succeeds meanwhile; one nanosecond early a request is refused; the next one gets a trial. -/
theorem cooldown_of_thirty_seconds :
    let settings : BreakerSettings := { failureThreshold := 1 }
    let past : List BreakerTurn := [.acquire "b" 0, .acquire "b" 0]
    let e : BreakerTurn := .settle ⟨"b", 0⟩ false 0
    let after : List BreakerTurn :=
      [.settle ⟨"b", 1⟩ true 0, .acquire "b" 29999999999, .acquire "b" 30000000000,
        .health "b" 30000000000, .settle ⟨"b", 3⟩ false 30000000000]
    let w := ((start settings .empty).run past).step e
    (.reset ∉ past ++ e :: after ∧ Timely (past ++ e :: after) ∧
      ((start settings .empty).run past).Opens e "b" 0) ∧
    (w.run (after.take 1)).answer? (.acquire "b" 29999999999) = some (.permit none) ∧
    (∃ p, (w.run (after.take 2)).answer? (.acquire "b" 30000000000) = some (.permit (some p)) ∧
      p.trial = true) ∧
    (w.run (after.take 3)).answer? (.health "b" 30000000000) = some (.health .halfOpen) ∧
    (w.run (after.take 4)).Opens (.settle ⟨"b", 3⟩ false 30000000000) "b" 30000000000 := by
  intro settings past e after w
  have hreset : .reset ∉ past ++ e :: after := by decide
  have htimes : Timely (past ++ e :: after) := by
    unfold Timely
    decide
  have hclosed : (((start settings .empty).run past).breakers.circuit "b").phase = .closed [] := by
    decide
  have hopens : ((start settings .empty).run past).Opens e "b" 0 :=
    opens_of_phase (fun since hp => nomatch hclosed.symm.trans hp) (by decide)
  have h := cooldown_exact settings .empty past after e "b" 0 hreset htimes hopens
  refine ⟨⟨hreset, htimes, hopens⟩, ?_, ?_, ?_, ?_⟩
  · exact ((h (after.take 1) _ (after.drop 2) rfl).1 29999999999 (by decide)).1 rfl
  · refine ((h (after.take 2) _ (after.drop 3) rfl).2.1 30000000000 (by decide)).1 rfl ?_
    intro early hmem
    obtain rfl : early = 29999999999 := by simpa [after] using hmem
    decide
  · refine ((h (after.take 3) _ (after.drop 4) rfl).2.1 30000000000 (by decide)).2 rfl ?_
    refine unreported_cons.mpr ⟨?_, unreported_cons.mpr ⟨nofun, unreported_cons.mpr
      ⟨nofun, unreported_nil _ _⟩⟩⟩
    -- the permit from before the opening is no trial
    rintro ⟨ticket, success, now, he, -, p, hp, ht⟩
    cases he
    have hnormal : w.permits ⟨"b", 1⟩ = some ⟨"b", 0, false⟩ := by decide
    obtain rfl := Option.some.inj (hnormal.symm.trans hp)
    cases ht
  · exact (h (after.take 4) _ [] rfl).2.2 ⟨"b", 3⟩ false 30000000000 rfl rfl
      ⟨⟨"b", 2, true⟩, by decide, rfl⟩

end Traffic

end Dispatch
