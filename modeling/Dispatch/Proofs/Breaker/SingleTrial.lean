/-
Dispatch/Proofs/Breaker/SingleTrial.lean

A half-open circuit lets one trial through at a time.

The slot of the trial is a flag of the circuit, and the duty to clear it lies with a permit that
somebody holds.  `Lane.Orderly` ties the two together.  A trial that is out has the generation of
its circuit, and its slot is taken; a slot that is taken belongs to a trial that is out; any other
permit is of an earlier generation, unless the circuit is closed.

Every turn but a reset keeps this (`Orderly.step`).  A reset does not: it starts the generations
again while permits from before it are still out.

That trials come one at a time is read off at the end.
-/
import Dispatch.Proofs.Breaker.Lane

namespace Dispatch

namespace Lane

variable {backend : String} {s : BreakerSettings} {l : Lane} {n : Nat} {p : Permit}

/-- A trial is out under a number. -/
def HoldsTrial (l : Lane) (n : Nat) : Prop := ∃ p, l.permits n = some p ∧ p.trial = true

/-! ### The circuit after a use of a permit -/

/-- A use reaches the circuit if there is one and it has the permit's generation. -/
theorem current_use (hp : l.permits n = some p) (change : Permit → Circuit → Circuit) :
    (l.use n change).current
      = if l.circuit.isSome ∧ l.current.generation = p.generation then change p l.current
        else l.current := by
  rw [use_of_some hp]
  rcases hc : l.circuit with - | c
  · simp [current, hc]
  · simp [current, hc]

theorem isSome_of_phase {running : Bool} (h : l.current.phase = .halfOpen running) :
    l.circuit.isSome := by
  rcases hc : l.circuit with - | c
  · simp [current, hc] at h
  · rfl

/-- What is held after one entry has changed. -/
theorem held_update {permits : Nat → Option Permit} {k m : Nat} {r : Option Permit} {q : Permit}
    (h : Function.update permits k r m = some q) :
    (m = k ∧ r = some q) ∨ (m ≠ k ∧ permits m = some q) := by
  by_cases hm : m = k
  · subst hm
    exact Or.inl ⟨rfl, by rwa [Function.update_self] at h⟩
  · exact Or.inr ⟨hm, by rwa [Function.update_of_ne hm] at h⟩

/-- A use takes no other permit away. -/
theorem permits_use_of_ne {m : Nat} (hm : m ≠ n) (change : Permit → Circuit → Circuit) :
    (l.use n change).permits m = l.permits m := by
  rcases hp : l.permits n with - | p
  · rw [use_of_none hp]
  · rw [use_of_some hp]
    exact Function.update_of_ne hm ..

/-- What is out after a use was out before it, under another number. -/
theorem permits_of_use {change : Permit → Circuit → Circuit} {m : Nat} {q : Permit}
    (h : (l.use n change).permits m = some q) : m ≠ n ∧ l.permits m = some q := by
  rcases hp : l.permits n with - | p
  · rw [use_of_none hp] at h
    refine ⟨?_, h⟩
    rintro rfl
    exact absurd (hp.symm.trans h) nofun
  · rw [use_of_some hp] at h
    rcases held_update h with ⟨-, h⟩ | h
    · cases h
    · exact h

/-! ### Order -/

/-- Permits and circuit agree on who has the slot of the trial. -/
structure Orderly (l : Lane) : Prop where
  issued : ∀ {n p}, l.permits n = some p → n < l.asked
  past : ∀ {n p}, l.permits n = some p → p.generation ≤ l.current.generation
  normal : ∀ {n p}, l.permits n = some p → p.trial = false →
    p.generation = l.current.generation → ∃ failures, l.current.phase = .closed failures
  trial : ∀ {n p}, l.permits n = some p → p.trial = true →
    p.generation = l.current.generation ∧ l.current.phase = .halfOpen true
  running : l.current.phase = .halfOpen true → ∃ n, l.HoldsTrial n
  single : ∀ {m n}, l.HoldsTrial m → l.HoldsTrial n → m = n

theorem orderly_empty : Orderly {} where
  issued h := nomatch h
  past h := nomatch h
  normal h := nomatch h
  trial h := nomatch h
  running h := nomatch h
  single h := nomatch h.choose_spec.1

namespace Orderly

/-- While no slot is taken, no trial is out. -/
theorem trial_eq_false (h : Orderly l) (hph : l.current.phase ≠ .halfOpen true)
    (hp : l.permits n = some p) : p.trial = false := by
  cases ht : p.trial with
  | false => rfl
  | true => exact absurd (h.trial hp ht).2 hph

/-- While a slot is taken, only the trial has the generation of the circuit. -/
theorem generation_ne (h : Orderly l) {running : Bool} (hph : l.current.phase = .halfOpen running)
    (hp : l.permits n = some p) (ht : p.trial = false) :
    p.generation ≠ l.current.generation := by
  intro hg
  obtain ⟨failures, hc⟩ := h.normal hp ht hg
  rw [hph] at hc
  cases hc

/-! #### Requests -/

/-- A request that changes no phase: it is refused, or a closed circuit lets it through. -/
theorem quiet_request (h : Orderly l) {r : Option Permit}
    (hr : ∀ p, r = some p → p.trial = false ∧ p.generation = l.current.generation ∧
      ∃ failures, l.current.phase = .closed failures) :
    Orderly { circuit := some l.current
              permits := Function.update l.permits l.asked r
              asked := l.asked + 1 } where
  issued {m q} hq := by
    rcases held_update hq with ⟨rfl, -⟩ | ⟨-, hq⟩
    · exact Nat.lt_succ_self _
    · exact Nat.lt_succ_of_lt (h.issued hq)
  past {m q} hq := by
    rcases held_update hq with ⟨-, hq⟩ | ⟨-, hq⟩
    · exact Nat.le_of_eq (hr q hq).2.1
    · exact h.past hq
  normal {m q} hq ht hg := by
    rcases held_update hq with ⟨-, hq⟩ | ⟨-, hq⟩
    · exact (hr q hq).2.2
    · exact h.normal hq ht hg
  trial {m q} hq ht := by
    rcases held_update hq with ⟨-, hq⟩ | ⟨-, hq⟩
    · exact absurd ht (by simp [(hr q hq).1])
    · exact h.trial hq ht
  running hph := by
    obtain ⟨m, q, hq, ht⟩ := h.running hph
    exact ⟨m, q, (Function.update_of_ne (Nat.ne_of_lt (h.issued hq)) ..).trans hq, ht⟩
  single {m k} hm hk := by
    obtain ⟨q, hq, hqt⟩ := hm
    obtain ⟨r', hr', hrt⟩ := hk
    rcases held_update hq with ⟨-, hq⟩ | ⟨-, hq⟩
    · exact absurd hqt (by simp [(hr q hq).1])
    · rcases held_update hr' with ⟨-, hr'⟩ | ⟨-, hr'⟩
      · exact absurd hrt (by simp [(hr r' hr').1])
      · exact h.single ⟨q, hq, hqt⟩ ⟨r', hr', hrt⟩

/-- A request that gets the slot of the trial, while everybody else is of an earlier
generation. -/
theorem trial_request (h : Orderly l) {c : Circuit} (hno : l.current.phase ≠ .halfOpen true)
    (hph : c.phase = .halfOpen true)
    (hold : ∀ {n p}, l.permits n = some p → p.generation < c.generation) :
    Orderly { circuit := some c
              permits := Function.update l.permits l.asked (some ⟨backend, c.generation, true⟩)
              asked := l.asked + 1 } where
  issued {m q} hq := by
    rcases held_update hq with ⟨rfl, -⟩ | ⟨-, hq⟩
    · exact Nat.lt_succ_self _
    · exact Nat.lt_succ_of_lt (h.issued hq)
  past {m q} hq := by
    rcases held_update hq with ⟨-, hq⟩ | ⟨-, hq⟩
    · cases hq; exact Nat.le_refl _
    · exact Nat.le_of_lt (hold hq)
  normal {m q} hq ht hg := by
    rcases held_update hq with ⟨-, hq⟩ | ⟨-, hq⟩
    · cases hq; cases ht
    · exact absurd hg (Nat.ne_of_lt (hold hq))
  trial {m q} hq ht := by
    rcases held_update hq with ⟨-, hq⟩ | ⟨-, hq⟩
    · cases hq; exact ⟨rfl, hph⟩
    · exact absurd ht (by simp [h.trial_eq_false hno hq])
  running _ := ⟨l.asked, _, Function.update_self .., rfl⟩
  single {m k} hm hk := by
    obtain ⟨q, hq, hqt⟩ := hm
    obtain ⟨r, hr, hrt⟩ := hk
    rcases held_update hq with ⟨rfl, -⟩ | ⟨-, hq⟩
    · rcases held_update hr with ⟨rfl, -⟩ | ⟨-, hr⟩
      · rfl
      · exact absurd hrt (by simp [h.trial_eq_false hno hr])
    · exact absurd hqt (by simp [h.trial_eq_false hno hq])

theorem issue (h : Orderly l) (now : Nat) : Orderly (l.issue backend s now) := by
  unfold Lane.issue granted
  generalize hg : l.current.grant s now = answer
  cases Circuit.Granted.of_eq hg with
  | normal hp =>
    refine h.quiet_request fun p hr => ?_
    cases hr
    exact ⟨rfl, rfl, _, hp⟩
  | freeSlot hp =>
    refine h.trial_request (by simp [hp]) rfl fun {n p} hn => ?_
    have ht := h.trial_eq_false (by simp [hp]) hn
    exact Nat.lt_of_le_of_ne (h.past hn) (h.generation_ne hp hn ht)
  | cooledDown hp _ =>
    exact h.trial_request (by simp [hp]) rfl fun hn => Nat.lt_succ_of_le (h.past hn)
  | trialRunning hp => exact h.quiet_request fun p hr => nomatch hr
  | coolingDown hp _ => exact h.quiet_request fun p hr => nomatch hr

/-! #### Uses of permits -/

/-- A use of a permit keeps order if what it does to the circuit fits the permits that stay. -/
theorem use_of (h : Orderly l) {change : Permit → Circuit → Circuit} (hp : l.permits n = some p)
    (hle : l.current.generation ≤ (l.use n change).current.generation)
    (hclosed : (l.use n change).current.generation = l.current.generation →
      ∀ {failures}, l.current.phase = .closed failures →
        ∃ failures, (l.use n change).current.phase = .closed failures)
    (hothers : ∀ {m}, m ≠ n → l.HoldsTrial m → (l.use n change).current = l.current)
    (hslot : (l.use n change).current.phase = .halfOpen true →
      l.current.phase = .halfOpen true ∧ p.trial = false) :
    Orderly (l.use n change) := by
  constructor
  case issued =>
    intro m q hq
    rw [use_asked]
    exact h.issued (permits_of_use hq).2
  case past =>
    intro m q hq
    exact Nat.le_trans (h.past (permits_of_use hq).2) hle
  case normal =>
    intro m q hq ht hg
    have hout := (permits_of_use hq).2
    have hpast := h.past hout
    have hsame : (l.use n change).current.generation = l.current.generation := by omega
    obtain ⟨failures, hc⟩ := h.normal hout ht (hg.trans hsame)
    exact hclosed hsame hc
  case trial =>
    intro m q hq ht
    obtain ⟨hm, hq⟩ := permits_of_use hq
    rw [hothers hm ⟨q, hq, ht⟩]
    exact h.trial hq ht
  case running =>
    intro hph
    obtain ⟨hph, hpt⟩ := hslot hph
    obtain ⟨m, q, hq, ht⟩ := h.running hph
    have hm : m ≠ n := by
      rintro rfl
      rw [hp] at hq
      cases hq
      rw [hpt] at ht
      cases ht
    exact ⟨m, q, (permits_use_of_ne hm change).trans hq, ht⟩
  case single =>
    rintro m k ⟨q, hq, hqt⟩ ⟨r, hr, hrt⟩
    exact h.single ⟨q, (permits_of_use hq).2, hqt⟩ ⟨r, (permits_of_use hr).2, hrt⟩

/-- A permit that is no trial may be used up without a trace. -/
theorem use_unchanged (h : Orderly l) {change : Permit → Circuit → Circuit}
    (hp : l.permits n = some p) (ht : p.trial = false)
    (hsame : (l.use n change).current = l.current) : Orderly (l.use n change) := by
  refine h.use_of hp (Nat.le_of_eq (by rw [hsame])) ?_ (fun _ _ => hsame) ?_
  · intro _ failures hc
    exact ⟨failures, by rw [hsame, hc]⟩
  · intro hph
    rw [hsame] at hph
    exact ⟨hph, ht⟩

/-- A trial that is out is the circuit's own, and the use of it reaches the circuit. -/
theorem current_use_trial (h : Orderly l) (hp : l.permits n = some p) (ht : p.trial = true)
    (change : Permit → Circuit → Circuit) :
    (l.use n change).current = change p l.current := by
  obtain ⟨hg, hph⟩ := h.trial hp ht
  rw [current_use hp, if_pos ⟨isSome_of_phase hph, hg.symm⟩]

/-- Once the trial is used up, no other is out. -/
theorem not_holdsTrial_of_ne (h : Orderly l) (hp : l.permits n = some p) (ht : p.trial = true)
    {m : Nat} (hm : m ≠ n) : ¬ l.HoldsTrial m :=
  fun hh => hm (h.single hh ⟨p, hp, ht⟩)

theorem settle (h : Orderly l) (success : Bool) (now : Nat) (n : Nat) :
    Orderly (l.use n fun p => Circuit.settle s p.trial success now) := by
  rcases hp : l.permits n with - | p
  · rw [use_of_none hp]
    exact h
  cases ht : p.trial with
  | true =>
    -- the trial ends its phase, whatever comes of it
    have hph := (h.trial hp ht).2
    obtain ⟨phase, hno, hsettle⟩ := Circuit.settle_of_halfOpen (s := s) hph success now
    have hcur : (l.use n fun p => Circuit.settle s p.trial success now).current
        = l.current.enter phase := by
      rw [h.current_use_trial hp ht, ht, hsettle]
    refine h.use_of hp ?_ (fun hg => ?_) (fun hm hh => ?_) fun hc => ?_
    · rw [hcur]; exact Nat.le_succ _
    · rw [hcur] at hg; exact absurd hg (Nat.succ_ne_self _)
    · exact absurd hh (h.not_holdsTrial_of_ne hp ht hm)
    · rw [hcur] at hc; exact absurd hc (hno true)
  | false =>
    have hcur := current_use hp fun p => Circuit.settle s p.trial success now
    split at hcur
    · next hreach =>
      -- a permit of this generation: the circuit is closed, and counts or opens
      obtain ⟨failures, hc⟩ := h.normal hp ht hreach.2.symm
      have hno : l.current.phase ≠ .halfOpen true := by simp [hc]
      have hnone : ∀ {m}, ¬ l.HoldsTrial m := fun ⟨q, hq, hqt⟩ => by
        simp [h.trial_eq_false hno hq] at hqt
      rw [ht] at hcur
      rcases Circuit.settle_of_closed (s := s) hc success now with
        ⟨failures', hsettle⟩ | hsettle <;> rw [hsettle] at hcur
      · refine h.use_of hp ?_ (fun _ _ _ => ⟨failures', ?_⟩) (fun _ hh => absurd hh hnone)
          fun hph => ?_
        · exact Nat.le_of_eq (by rw [hcur])
        · rw [hcur]
        · rw [hcur] at hph; cases hph
      · refine h.use_of hp ?_ (fun hg => ?_) (fun _ hh => absurd hh hnone) fun hph => ?_
        · rw [hcur]; exact Nat.le_succ _
        · rw [hcur] at hg; exact absurd hg (Nat.succ_ne_self _)
        · rw [hcur] at hph; cases hph
    · exact h.use_unchanged hp ht hcur

theorem release (h : Orderly l) (n : Nat) :
    Orderly (l.use n fun p c => if p.trial then c.release else c) := by
  rcases hp : l.permits n with - | p
  · rw [use_of_none hp]
    exact h
  cases ht : p.trial with
  | true =>
    have hph := (h.trial hp ht).2
    have hcur : (l.use n fun p c => if p.trial then c.release else c).current
        = l.current.release := by
      rw [h.current_use_trial hp ht, ht, if_pos rfl]
    refine h.use_of hp ?_ (fun _ _ hc => ?_) (fun hm hh => ?_) fun hc => ?_
    · exact Nat.le_of_eq (by rw [hcur, Circuit.release_generation])
    · rw [hph] at hc; cases hc
    · exact absurd hh (h.not_holdsTrial_of_ne hp ht hm)
    · rw [hcur, Circuit.release_of_halfOpen hph] at hc; cases hc
  | false =>
    refine h.use_unchanged hp ht ?_
    rw [current_use hp, ht]
    split <;> rfl

/-! #### Runs -/

/-- Every turn but a reset keeps order. -/
theorem step (h : Orderly l) {e : LaneTurn} (he : e ≠ .reset) :
    Orderly (l.step backend s e) := by
  cases e with
  | acquire now => exact h.issue now
  | settle n success now => exact h.settle success now n
  | release n => exact h.release n
  | health now => exact h
  | reset => exact absurd rfl he

theorem run (h : Orderly l) {es : List LaneTurn} (hes : .reset ∉ es) :
    Orderly (l.run backend s es) := by
  induction es generalizing l with
  | nil => exact h
  | cons e es ih =>
    rw [List.mem_cons, not_or] at hes
    rw [run_cons]
    exact ih (h.step (Ne.symm hes.1)) hes.2

/-! #### What order gives -/

/-- A slot is taken exactly while a trial is out. -/
theorem trialRunning_iff (h : Orderly l) :
    l.current.phase = .halfOpen true ↔ ∃ n, l.HoldsTrial n :=
  ⟨h.running, fun ⟨_, _, hp, ht⟩ => (h.trial hp ht).2⟩

/-- While a trial is out, no other permit reaches the circuit. -/
theorem circuit_use_of_ne (h : Orderly l) (hn : l.HoldsTrial n) {m : Nat} (hm : m ≠ n)
    (change : Permit → Circuit → Circuit) : (l.use m change).circuit = l.circuit := by
  rcases hq : l.permits m with - | q
  · rw [use_of_none hq]
  obtain ⟨p, hp, ht⟩ := hn
  have hqt : q.trial = false := by
    cases hqt : q.trial with
    | false => rfl
    | true => exact absurd (h.single ⟨q, hq, hqt⟩ ⟨p, hp, ht⟩) hm
  have hg := h.generation_ne (h.trial hp ht).2 hq hqt
  rw [use_of_some hq]
  rcases hc : l.circuit with - | c
  · rfl
  · have hc' : l.current = c := by simp [current, hc]
    rw [hc'] at hg
    simp [Ne.symm hg]

theorem circuit_step_of_uses (h : Orderly l) (hn : l.HoldsTrial n) {e : LaneTurn} {m : Nat}
    (he : e.uses = some m) (hm : m ≠ n) : (l.step backend s e).circuit = l.circuit := by
  obtain ⟨change, hstep⟩ : ∃ change, l.step backend s e = l.use m change := exists_step_eq_use he l
  rw [hstep]
  exact h.circuit_use_of_ne hn hm change

end Orderly

end Lane

/-! ### Traffic from the start -/

namespace Traffic

variable {defaults : BreakerSettings} {overrides : Table BreakerSettings}
  {turns : List BreakerTurn} {backend : String}

/-- New breakers, before anybody has asked. -/
def start (defaults : BreakerSettings) (overrides : Table BreakerSettings) : Traffic :=
  { breakers := { defaults, overrides } }

/-- The permit of a ticket is a trial, and neither settled nor dropped. -/
def TrialOut (w : Traffic) (t : Ticket) : Prop := ∃ p, w.permits t = some p ∧ p.trial = true

/-- Without a reset, every lane is in order at all times. -/
theorem orderly_lane (hturns : .reset ∉ turns) (backend : String) :
    (((start defaults overrides).run turns).lane backend).Orderly := by
  rw [lane_run]
  refine Lane.orderly_empty.run fun hmem => ?_
  obtain ⟨e, he, hseen⟩ := List.mem_filterMap.mp hmem
  obtain rfl : e = .reset := BreakerTurn.seenFrom_eq_some_iff.mp hseen
  exact hturns he

/-- **One trial at a time.**  Without a reset, whoever asks, reports or drops permits, in whatever
order and at whatever times: at most one trial of a backend is out; the slot of the trial is taken
exactly while one is out; and while it is out nobody is let through to the backend, and no other
permit, reported or dropped, changes its circuit. -/
theorem one_trial_at_a_time (defaults : BreakerSettings) (overrides : Table BreakerSettings)
    (turns : List BreakerTurn) (hturns : .reset ∉ turns) (backend : String) :
    let w := (start defaults overrides).run turns
    (∀ t u, t.backend = backend → u.backend = backend → w.TrialOut t → w.TrialOut u → t = u) ∧
    ((w.breakers.circuit backend).phase = .halfOpen true ↔
      ∃ t, t.backend = backend ∧ w.TrialOut t) ∧
    ∀ t, t.backend = backend → w.TrialOut t →
      (∀ now, (w.breakers.acquire backend now).2 = none) ∧
      ∀ e u, e.uses = some u → u ≠ t →
        (w.step e).breakers.circuits.get? backend = w.breakers.circuits.get? backend := by
  intro w
  have h : (w.lane backend).Orderly := orderly_lane hturns backend
  refine ⟨?_, ?_, ?_⟩
  · rintro ⟨b, m⟩ ⟨c, n⟩ rfl rfl ht hu
    exact congrArg (Ticket.mk c) (h.single ht hu)
  · refine h.trialRunning_iff.trans ⟨?_, ?_⟩
    · rintro ⟨n, hn⟩
      exact ⟨⟨backend, n⟩, rfl, hn⟩
    · rintro ⟨⟨b, n⟩, rfl, hn⟩
      exact ⟨n, hn⟩
  · rintro ⟨b, n⟩ rfl hn
    refine ⟨fun now => ?_, fun e u he hu => ?_⟩
    · have hph : (w.breakers.circuit b).phase = .halfOpen true := h.trialRunning_iff.mpr ⟨n, hn⟩
      rw [Breakers.acquire_snd, Circuit.grant_of_trialRunning hph]
      rfl
    · show ((w.step e).lane b).circuit = (w.lane b).circuit
      rcases BreakerTurn.seenFrom_of_uses he b with ⟨rfl, e', hseen, he'⟩ | ⟨-, hseen⟩
      · rw [lane_step_of_some hseen]
        exact h.circuit_step_of_uses hn he' fun hm => hu (congrArg (Ticket.mk u.backend) hm)
      · rw [lane_step_of_none hseen]

/-- A circuit without a cooldown that opens on the first failure, and the trial after that. -/
theorem one_trial_after_failure :
    let settings : BreakerSettings := { failureThreshold := 1, cooldown := .zero }
    let turns : List BreakerTurn :=
      [.acquire "b" 0, .settle ⟨"b", 0⟩ false 0, .acquire "b" 0]
    let w := (start settings .empty).run turns
    .reset ∉ turns ∧ w.TrialOut ⟨"b", 1⟩ ∧ ∀ now, (w.breakers.acquire "b" now).2 = none := by
  have hout : ((start { failureThreshold := 1, cooldown := .zero } .empty).run
      [.acquire "b" 0, .settle ⟨"b", 0⟩ false 0, .acquire "b" 0]).TrialOut ⟨"b", 1⟩ :=
    ⟨⟨"b", 2, true⟩, by decide, rfl⟩
  exact ⟨by decide, hout, ((one_trial_at_a_time _ _ _ (by decide) "b").2.2 _ rfl hout).1⟩

end Traffic

end Dispatch
