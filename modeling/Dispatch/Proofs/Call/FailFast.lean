/-
Dispatch/Proofs/Call/FailFast.lean

Calls leave a backend alone while its circuit is open.

A call asks the breaker before every attempt, so what the breaker refuses is never started.  While
an open circuit cools down it refuses everybody.  After that it lets trials through, one at a time,
and until it closes it lets nothing else through: whoever was let through since the opening has a
trial (`OnlyTrials`).  As an attempt that runs has its permit out, at most one of these runs.

Since when an attempt runs is told by its permit.  No generation comes again without a reset, and
no permit that is out at an opening has the generation that begins with it
(`Orderly.generation_lt_of_open`).  So the attempts that have been let through since are those with
that generation or a later one (`le_generation_iff`).
-/
import Mathlib.Data.List.Induction
import Dispatch.Proofs.Breaker.Cooldown
import Dispatch.Proofs.Call.Permits

namespace Dispatch

/-! ### Generations -/

namespace Circuit

variable {s : BreakerSettings} {c : Circuit} {now : Nat}

theorem le_generation_of_grant {r : Circuit × Bool} (h : c.grant s now = some r) :
    c.generation ≤ r.1.generation := by
  cases Granted.of_eq h with
  | normal _ => exact Nat.le_refl _
  | freeSlot _ => exact Nat.le_refl _
  | cooledDown _ _ => exact Nat.le_succ _

theorem le_generation_settle (s : BreakerSettings) (trial success : Bool) (now : Nat)
    (c : Circuit) : c.generation ≤ (c.settle s trial success now).generation := by
  generalize hs : c.settle s trial success now = c'
  cases Settled.of_eq hs with
  | ignored _ => exact Nat.le_refl _
  | counted _ _ => exact Nat.le_refl _
  | tripped _ _ => exact Nat.le_succ _
  | recovered _ => exact Nat.le_succ _
  | relapsed _ => exact Nat.le_succ _

end Circuit

/-- No turn but a reset takes a generation back. -/
theorem Lane.le_generation_step {backend : String} {s : BreakerSettings} {l : Lane} {e : LaneTurn}
    (he : e ≠ .reset) : l.current.generation ≤ (l.step backend s e).current.generation := by
  generalize hc : (l.step backend s e).current = c
  have hstep : CircuitStep s l e c := hc ▸ l.circuitStep e
  cases hstep with
  | same _ => exact Nat.le_refl _
  | granted hg => exact Circuit.le_generation_of_grant hg
  | settled hp => exact Circuit.le_generation_settle ..
  | released _ _ => exact Nat.le_of_eq (Circuit.release_generation _).symm
  | reset => exact absurd rfl he

/-! ### Trials since an opening -/

namespace Traffic

variable {w : Traffic} {backend : String} {g : Nat}

/-- Whoever is let through gets a permit of the circuit's generation, or of the next one. -/
theorem le_generation_of_acquire {now : Nat} {p : Permit}
    (h : (w.breakers.acquire backend now).2 = some p) :
    (w.breakers.circuit backend).generation ≤ p.generation := by
  rw [Breakers.acquire_snd] at h
  obtain ⟨r, hr, rfl⟩ := Option.map_eq_some_iff.mp h
  exact Circuit.le_generation_of_grant hr

/-- Without a reset, generations only grow. -/
theorem le_generation_run {es : List BreakerTurn} (hes : .reset ∉ es) :
    (w.breakers.circuit backend).generation
      ≤ ((w.run es).breakers.circuit backend).generation := by
  induction es generalizing w with
  | nil => exact Nat.le_refl _
  | cons e es ih =>
    rw [List.mem_cons, not_or] at hes
    have hstep : (w.lane backend).current.generation
        ≤ ((w.step e).lane backend).current.generation := by
      rcases hseen : e.seenFrom backend with - | e'
      · exact Nat.le_of_eq (by rw [lane_step_of_none hseen])
      · rw [lane_step_of_some hseen]
        refine Lane.le_generation_step ?_
        rintro rfl
        exact hes.1 (BreakerTurn.seenFrom_eq_some_iff.mp hseen).symm
    exact Nat.le_trans hstep (ih hes.2)

/-- Every permit for a backend that is out, from a generation on, is a trial. -/
def OnlyTrials (w : Traffic) (backend : String) (g : Nat) : Prop :=
  ∀ m p, g ≤ p.generation → w.permits ⟨backend, m⟩ = some p → p.trial = true

/-- A circuit that is not closed lets trials through only. -/
theorem trial_of_acquire (hno : ∀ failures, (w.breakers.circuit backend).phase ≠ .closed failures)
    {now : Nat} {p : Permit} (hp : (w.breakers.acquire backend now).2 = some p) :
    p.trial = true := by
  rw [Breakers.acquire_snd] at hp
  generalize hg : (w.breakers.circuit backend).grant (w.breakers.settings backend) now = answer
    at hp
  cases Circuit.Granted.of_eq hg with
  | normal hclosed => exact absurd hclosed (hno _)
  | freeSlot _ =>
    cases hp
    rfl
  | cooledDown _ _ =>
    cases hp
    rfl
  | trialRunning _ => cases hp
  | coolingDown _ _ => cases hp

theorem OnlyTrials.step (h : w.OnlyTrials backend g)
    (hno : ∀ failures, (w.breakers.circuit backend).phase ≠ .closed failures) (e : BreakerTurn) :
    (w.step e).OnlyTrials backend g := by
  intro m p hg hp
  have huse : ∀ (x : Ticket) (act : Permit → Breakers),
      (w.use x act).permits ⟨backend, m⟩ = some p → p.trial = true := by
    intro x act hp
    rcases hx : w.permits x with - | q
    · rw [use_of_none hx] at hp
      exact h m p hg hp
    · rw [use_of_some hx] at hp
      by_cases hne : (⟨backend, m⟩ : Ticket) = x
      · rw [← hne] at hp
        exact absurd ((Function.update_self ..).symm.trans hp) nofun
      · exact h m p hg ((Function.update_of_ne hne ..).symm.trans hp)
  cases e with
  | acquire b now =>
    by_cases hne : (⟨backend, m⟩ : Ticket) = ⟨b, w.asked b⟩
    · obtain ⟨rfl, rfl⟩ := Ticket.mk.inj hne
      have hself : (w.step (.acquire backend now)).permits ⟨backend, w.asked backend⟩
          = (w.breakers.acquire backend now).2 := Function.update_self ..
      exact trial_of_acquire hno (hself.symm.trans hp)
    · exact h m p hg ((Function.update_of_ne hne ..).symm.trans hp)
  | settle x success now => exact huse x _ hp
  | release x => exact huse x _ hp
  | health b now => exact h m p hg hp
  | reset => exact h m p hg hp

end Traffic

/-! ### Times -/

/-- The time of a turn. -/
def CallersTurn.time? {α : Type} : CallersTurn α → Option Nat
  | .begin _ _ now | .act _ now _ => some now
  | .other e => e.time?

namespace Callers

variable {α : Type} {w : Callers α} {t x : CallersTurn α} {ts : List (CallersTurn α)}
  {backend : String} {e : BreakerTurn} {id now g : Nat} {k : Caller α} {a : RunningAttempt}

/-- The clock of a run does not go backwards. -/
def Timely (turns : List (CallersTurn α)) : Prop :=
  (turns.filterMap CallersTurn.time?).Pairwise (· ≤ ·)

theorem Timely.le {before after : List (CallersTurn α)} {y z : CallersTurn α} {s : Nat}
    (h : Timely (before ++ after)) (hy : y ∈ before) (hz : z ∈ after) (hs : y.time? = some s)
    (hnow : z.time? = some now) : s ≤ now := by
  unfold Timely at h
  rw [List.filterMap_append] at h
  exact (List.pairwise_append.mp h).2.2 s (List.mem_filterMap.mpr ⟨y, hy, hs⟩) now
    (List.mem_filterMap.mpr ⟨z, hz, hnow⟩)

/-- What is done at the breakers is done at the time of the turn. -/
theorem time?_of_deed (h : w.deed? t = some e) (htime : e.time? = some now) :
    t.time? = some now := by
  rcases deed_cases h with rfl | ⟨id, s, event, rfl, ⟨b, rfl⟩ | ⟨use, ticket, rfl⟩⟩
  · exact htime
  · exact htime
  · cases use with
    | succeeded => exact htime
    | failed => exact htime
    | dropped => cases htime

theorem exists_of_mem_deeds (h : e ∈ w.deeds ts) : ∃ u t v, ts = u ++ t :: v ∧
    (w.run u).deed? t = some e := by
  induction ts generalizing w with
  | nil => cases h
  | cons t ts ih =>
    rw [deeds, List.mem_append, Option.mem_toList] at h
    rcases h with h | h
    · exact ⟨[], t, ts, rfl, h⟩
    · obtain ⟨u, t', v, rfl, hdeed⟩ := ih h
      exact ⟨t :: u, t', v, rfl, hdeed⟩

/-- No call resets the breakers. -/
theorem reset_not_mem_deeds (h : .other .reset ∉ ts) : .reset ∉ w.deeds ts := by
  intro hmem
  obtain ⟨u, t, v, rfl, hdeed⟩ := exists_of_mem_deeds hmem
  rcases deed_cases hdeed with rfl | ⟨id, s, event, -, ⟨b, he⟩ | ⟨use, ticket, he⟩⟩
  · exact h (by simp)
  · cases he
  · cases use <;> cases he

/-- Without a reset, a run of calls keeps a lane in order. -/
theorem orderly_run (h : (w.traffic.lane backend).Orderly) (hts : .other .reset ∉ ts) :
    ((w.run ts).traffic.lane backend).Orderly := by
  rw [traffic_run]
  exact Traffic.orderly_run h (reset_not_mem_deeds hts)

theorem orderly_start (defaults : BreakerSettings) (overrides : Table BreakerSettings)
    (backend : String) : ((start defaults overrides : Callers α).traffic.lane backend).Orderly :=
  Traffic.orderly_lane List.not_mem_nil backend

@[simp] theorem settings_run (w : Callers α) (ts : List (CallersTurn α)) (backend : String) :
    (w.run ts).traffic.breakers.settings backend = w.traffic.breakers.settings backend := by
  rw [traffic_run, Traffic.settings_run]

/-! ### After an opening -/

/-- The circuit of a backend opens with a turn, at the time of the turn. -/
structure Opens (w : Callers α) (x : CallersTurn α) (backend : String) (s : Nat) : Prop where
  before : ∀ since, (w.traffic.breakers.circuit backend).phase ≠ .open since
  after : ∃ since, ((w.step x).traffic.breakers.circuit backend).phase = .open since
  time : x.time? = some s

/-- An open circuit remembers when it opened. -/
theorem Opens.phase {s : Nat} (h : w.Opens x backend s) :
    ((w.step x).traffic.breakers.circuit backend).phase = .open s := by
  obtain ⟨since, hafter⟩ := h.after
  have htraffic : (w.step x).traffic = w.traffic.run (w.deed? x).toList := rfl
  rcases hdeed : w.deed? x with - | e
  · rw [htraffic, hdeed] at hafter
    exact absurd hafter (h.before since)
  · rw [htraffic, hdeed] at hafter
    have hopens : w.traffic.Opens e backend since := Traffic.opens_of_phase h.before hafter
    obtain rfl := Option.some.inj ((time?_of_deed hdeed hopens.time).symm.trans h.time)
    rw [htraffic, hdeed]
    exact hafter

/-- An attempt that runs after a turn of its call ran before it, or the breakers have let it
through in that turn. -/
theorem running_act (h : w.Sound) (hk : w.calls id = some k) {event : CallEvent α}
    (ha : (k.call.act k.plan (w.found now event)).2.stage = .running a) :
    k.call.stage = .running a ∨
      (w.traffic.breakers.acquire k.plan.backend now).2 = some a.permit :=
  ((acted_of_calls h hk now event).running ha).imp_right fun hnew => hnew.2.2

/-- A call after a turn: it is as before, it has begun, or the turn was its own. -/
theorem calls_step_cases (hk : (w.step t).calls id = some k) :
    w.calls id = some k ∨ (∃ plan now, k.call = Call.start plan now) ∨
      ∃ k₀ now event, t = .act id now event ∧ w.calls id = some k₀ ∧ k.plan = k₀.plan ∧
        k.call = (k₀.call.act k₀.plan (w.found now event)).2 := by
  cases t with
  | other e => exact .inl hk
  | begin id' plan now =>
    rcases hnew : w.calls id' with - | k'
    · simp only [step, hnew] at hk
      by_cases hid : id = id'
      · subst hid
        rw [Function.update_self] at hk
        cases hk
        exact .inr (.inl ⟨plan, now, rfl⟩)
      · rw [Function.update_of_ne hid] at hk
        exact .inl hk
    · simp only [step, hnew] at hk
      exact .inl hk
  | act id' now event =>
    simp only [step] at hk
    by_cases hid : id = id'
    · subst hid
      rw [Function.update_self] at hk
      obtain ⟨k₀, hk₀, rfl⟩ := Option.map_eq_some_iff.mp hk
      refine .inr (.inr ⟨k₀, now, event, rfl, hk₀, ?_⟩)
      rcases w.mark? id now event with - | - | e | - <;> exact ⟨rfl, rfl⟩
    · rw [Function.update_of_ne hid] at hk
      exact .inl hk

/-- Whoever asks an open circuit before it has cooled down is refused, whatever has happened since
it opened. -/
theorem refused_of_open {since : Nat} (h : (w.traffic.lane backend).Orderly)
    (hopen : (w.traffic.breakers.circuit backend).phase = .open since)
    (hreset : .other .reset ∉ ts)
    (htimes : ∀ y ∈ ts, ∀ s, y.time? = some s → s ≤ now)
    (hnow : now - since < (w.traffic.breakers.settings backend).cooldown.nanos) :
    ((w.run ts).traffic.breakers.acquire backend now).2 = none := by
  have hstays : ((w.run ts).traffic.breakers.circuit backend).phase = .open since := by
    rw [traffic_run, Traffic.circuit_run_of_open h hopen (reset_not_mem_deeds hreset)]
    · exact hopen
    · intro s hmem
      obtain ⟨u, y, v, rfl, hdeed⟩ := exists_of_mem_deeds hmem
      have hle : s ≤ now := htimes y (by simp) s (time?_of_deed hdeed rfl)
      omega
  have hanswer := (Traffic.answer?_coolingDown hstays (by rwa [settings_run])).1
  exact BreakerAnswer.permit.inj (Option.some.inj hanswer)

/-- Until the circuit closes, whoever is let through has a trial. -/
theorem onlyTrials_run (h : w.traffic.OnlyTrials backend n)
    (hno : ∀ u v, ts = u ++ v → ∀ failures,
      ((w.run u).traffic.breakers.circuit backend).phase ≠ .closed failures) :
    (w.run ts).traffic.OnlyTrials backend n := by
  induction ts generalizing w with
  | nil => exact h
  | cons t ts ih =>
    have hstep : (w.step t).traffic.OnlyTrials backend n := by
      show (w.traffic.run (w.deed? t).toList).OnlyTrials backend n
      rcases w.deed? t with - | e
      · exact h
      · exact h.step (hno [] _ rfl) e
    exact ih hstep fun u v hts => hno (t :: u) v (congrArg (t :: ·) hts)

/-- A call has an attempt running on a backend, with a permit of a generation or of a later one. -/
def RunsFrom (w : Callers α) (backend : String) (g id : Nat) : Prop :=
  ∃ k a, w.calls id = some k ∧ k.plan.backend = backend ∧ k.call.stage = .running a ∧
    g ≤ a.permit.generation

/-- The permit of an attempt that runs is out. -/
theorem exists_permit (h : w.Sound) (hk : w.calls id = some k) (ha : k.call.stage = .running a) :
    ∃ m, w.owner ⟨k.plan.backend, m⟩ = some id ∧
      w.traffic.permits ⟨k.plan.backend, m⟩ = some a.permit := by
  obtain ⟨⟨b, m⟩, hticket, hpermit⟩ := (h.caller hk).running ha
  have hmem : (⟨b, m⟩ : Ticket) ∈ k.tickets := by simp [Caller.tickets, hticket]
  obtain rfl : b = k.plan.backend := (h.caller hk).backend_eq _ hmem
  exact ⟨m, ((h.caller hk).owner_iff _).mpr hmem, hpermit⟩

/-- At most one of the attempts that were let through as trials runs. -/
theorem single_of_onlyTrials (h : w.Sound) (horderly : (w.traffic.lane backend).Orderly)
    (htrials : w.traffic.OnlyTrials backend g) {i j : Nat} (hi : w.RunsFrom backend g i)
    (hj : w.RunsFrom backend g j) : i = j := by
  -- the attempt of each has a trial that is out
  have hout : ∀ {id}, w.RunsFrom backend g id →
      ∃ m, w.owner ⟨backend, m⟩ = some id ∧ (w.traffic.lane backend).HoldsTrial m := by
    rintro id ⟨k, a, hk, rfl, ha, hg⟩
    obtain ⟨m, hmine, hpermit⟩ := exists_permit h hk ha
    exact ⟨m, hmine, a.permit, hpermit, htrials m a.permit hg hpermit⟩
  obtain ⟨m, hmi, hm⟩ := hout hi
  obtain ⟨m', hmj, hm'⟩ := hout hj
  obtain rfl := horderly.single hm hm'
  exact Option.some.inj (hmi.symm.trans hmj)

/-- Since an opening of the circuit, the attempts that have been let through are those whose permits
have the generation that has begun then, or a later one. -/
theorem le_generation_iff {since : Nat} (h : w.Sound) (horderly : (w.traffic.lane backend).Orderly)
    (hopen : (w.traffic.breakers.circuit backend).phase = .open since)
    (hreset : .other .reset ∉ ts) (hk : (w.run ts).calls id = some k)
    (hbackend : k.plan.backend = backend) (ha : k.call.stage = .running a) :
    (w.traffic.breakers.circuit backend).generation ≤ a.permit.generation ↔
      ∀ k₀, w.calls id = some k₀ → k₀.call.stage ≠ .running a := by
  constructor
  · -- the permit would have been out when the circuit opened
    intro hle k₀ hk₀ ha₀
    obtain ⟨m, -, hpermit⟩ := exists_permit h hk₀ ha₀
    obtain ⟨m', -, hpermit'⟩ := exists_permit (h.run ts) hk ha
    obtain rfl : k₀.plan.backend = backend :=
      (w.traffic.labelled _ _ hpermit).symm.trans
        (((w.run ts).traffic.labelled _ _ hpermit').trans hbackend)
    exact absurd (horderly.generation_lt_of_open hopen hpermit) (Nat.not_lt.mpr hle)
  · -- it has been let through in some turn, and generations only grow
    intro hnew
    induction ts using List.reverseRecOn generalizing k with
    | nil => exact absurd ha (hnew k hk)
    | append_singleton ts t ih =>
      have hts : .other .reset ∉ ts := fun hmem => hreset (List.mem_append_left _ hmem)
      rw [run_append] at hk
      rcases calls_step_cases hk with hk | ⟨plan, now, hstart⟩ |
          ⟨k₀, now, event, -, hk₀, hplan, hcall⟩
      · exact ih hts hk hbackend ha
      · rw [hstart] at ha
        rcases Call.stage_start (α := α) plan now with hs | hs <;> cases hs.symm.trans ha
      · rw [hcall] at ha
        rw [hplan] at hbackend
        rcases running_act (h.run ts) hk₀ ha with ha | hpermit
        · exact ih hts hk₀ hbackend ha
        · rw [hbackend] at hpermit
          refine Nat.le_trans ?_ (Traffic.le_generation_of_acquire hpermit)
          rw [traffic_run]
          exact Traffic.le_generation_run (reset_not_mem_deeds hts)

/-- **Calls fail fast.**  Let calls go on at the same time, with others at the breakers, in whatever
order, any of them abandoned anywhere, on a clock that does not go backwards and without a reset,
and let the circuit of a backend open.  Until its cooldown is over, no turn of a call on the backend
starts an attempt: what runs after the turn ran before it.  And until it closes, whether it opens
again meanwhile or not, at most one of the attempts that were let through since the opening runs at
any time.  These are the attempts that did not run when it opened, and their permits have the
generation that has begun then, or a later one. -/
theorem fails_fast (defaults : BreakerSettings) (overrides : Table BreakerSettings)
    (past after : List (CallersTurn α)) (x : CallersTurn α) (backend : String) (t : Nat)
    (hreset : .other .reset ∉ past ++ x :: after) (htimes : Timely (past ++ x :: after))
    (hopens : ((start defaults overrides).run past).Opens x backend t) :
    let w := ((start defaults overrides).run past).step x
    let g := (w.traffic.breakers.circuit backend).generation
    (∀ u id now event v, after = u ++ .act id now event :: v →
      ∀ k, (w.run u).calls id = some k →
        let acted := k.call.act k.plan ((w.run u).found now event)
        ((w.run u).step (.act id now event)).traffic.breakers = acted.1 ∧
        (now < t + (w.traffic.breakers.settings backend).cooldown.nanos →
          k.plan.backend = backend →
          ∀ a, acted.2.stage = .running a → k.call.stage = .running a)) ∧
    (∀ u v, after = u ++ v →
      (∀ id k a, (w.run u).calls id = some k → k.plan.backend = backend →
        k.call.stage = .running a →
        (g ≤ a.permit.generation ↔ ∀ k₀, w.calls id = some k₀ → k₀.call.stage ≠ .running a)) ∧
      ((∀ u' v', u = u' ++ v' → ∀ failures,
          ((w.run u').traffic.breakers.circuit backend).phase ≠ .closed failures) →
        ∀ i j, (w.run u).RunsFrom backend g i → (w.run u).RunsFrom backend g j → i = j)) := by
  intro w g
  have hw : w = (start defaults overrides).run (past ++ [x]) := by
    rw [run_append]
    rfl
  have hsound : ∀ u, (w.run u).Sound := fun u =>
    (hw ▸ (sound_start defaults overrides).run (past ++ [x])).run u
  have hparts : (.other .reset ∉ past ++ [x]) ∧ .other .reset ∉ after := by
    simp only [List.mem_append, List.mem_cons, not_or] at hreset ⊢
    exact ⟨⟨hreset.1, hreset.2.1, nofun⟩, hreset.2.2⟩
  have horderly : (w.traffic.lane backend).Orderly := hw ▸ orderly_run (orderly_start ..) hparts.1
  refine ⟨?_, ?_⟩
  · rintro u id now event v rfl k hk
    refine ⟨(hsound u).breakers_step hk now event, ?_⟩
    rintro hnow rfl a ha
    -- the turns since the opening came after it, and before this one
    have hfrom : t ≤ now := by
      rw [List.append_cons] at htimes
      exact htimes.le (by simp) (by simp) hopens.time (z := .act id now event) rfl
    have huntil : ∀ y ∈ u, ∀ s, y.time? = some s → s ≤ now := by
      intro y hy s hs
      rw [← List.cons_append, ← List.append_assoc] at htimes
      exact htimes.le (by simp [hy]) (by simp) hs (z := .act id now event) rfl
    have hrefused : ((w.run u).traffic.breakers.acquire k.plan.backend now).2 = none := by
      refine refused_of_open horderly hopens.phase (fun hmem => hparts.2 ?_) huntil (by omega)
      exact List.mem_append_left _ hmem
    rcases running_act (hsound u) hk ha with hran | hpermit
    · exact hran
    · exact absurd (hrefused.symm.trans hpermit) nofun
  · rintro u v rfl
    have hu : .other .reset ∉ u := fun hmem => hparts.2 (List.mem_append_left _ hmem)
    refine ⟨fun id k a hk hbackend ha =>
      le_generation_iff (hsound []) horderly hopens.phase hu hk hbackend ha, fun hno i j => ?_⟩
    have hbefore : w.traffic.OnlyTrials backend g := fun m p hg hp =>
      absurd (horderly.generation_lt_of_open hopens.phase hp) (Nat.not_lt.mpr hg)
    exact single_of_onlyTrials (hsound u) (orderly_run horderly hu) (onlyTrials_run hbefore hno)

/-- A circuit with a cooldown of thirty seconds, which opens at the start.  One nanosecond early a
call is refused; of the two that come after it, the first one gets its trial and is the only one
that runs. -/
theorem fails_fast_for_thirty_seconds :
    let plan : CallPlan := {
      backend := "b", timeout := .ofSecs 30, factor := fun _ => ⟨1, 0⟩
      retry := { maxAttempts := 1 } }
    let past : List (CallersTurn String) := [.begin 0 plan 0, .act 0 0 .attempt]
    let x : CallersTurn String :=
      .act 0 0 (.complete (.error { category := .transient, message := "m" }))
    let early : List (CallersTurn String) := [.begin 1 plan 0]
    let after : List (CallersTurn String) := early ++ .act 1 29999999999 .attempt :: [
      .begin 2 plan 30000000000, .act 2 30000000000 .attempt,
      .begin 3 plan 30000000000, .act 3 30000000000 .attempt]
    let w := ((start { failureThreshold := 1 } .empty).run past).step x
    (.other .reset ∉ past ++ x :: after ∧ Timely (past ++ x :: after) ∧
      ((start { failureThreshold := 1 } .empty).run past).Opens x "b" 0) ∧
    (w.traffic.breakers.circuit "b").generation = 1 ∧
    (∃ k, (w.run early).calls 1 = some k ∧ k.call.takes .attempt = true ∧
      ∀ a, (k.call.act k.plan ((w.run early).found 29999999999 .attempt)).2.stage ≠ .running a) ∧
    (w.run after).RunsFrom "b" 1 2 ∧ ∀ j, (w.run after).RunsFrom "b" 1 j → j = 2 := by
  intro plan past x early after w
  have hreset : .other .reset ∉ past ++ x :: after := by simp [past, x, early, after]
  have htimes : Timely (past ++ x :: after) := by
    unfold Timely
    decide
  have hopens : ((start { failureThreshold := 1 } .empty).run past).Opens x "b" 0 := by
    have hbefore : (((start { failureThreshold := 1 } .empty).run past).traffic.breakers.circuit
        "b").phase = .closed [] := by decide
    exact ⟨fun since => by simp [hbefore], ⟨0, by decide⟩, rfl⟩
  have h := fails_fast { failureThreshold := 1 } .empty past after x "b" 0 hreset htimes hopens
  have hgeneration : (w.traffic.breakers.circuit "b").generation = 1 := by decide
  refine ⟨⟨hreset, htimes, hopens⟩, hgeneration, ?_, ?_⟩
  · obtain ⟨k, hk⟩ : ∃ k, (w.run early).calls 1 = some k :=
      Option.isSome_iff_exists.mp (by decide)
    have hready : ((w.run early).calls 1).map (fun k => (k.plan.backend, k.call.takes .attempt))
        = some ("b", true) := by decide
    rw [hk, Option.map_some, Option.some.injEq, Prod.mk.injEq] at hready
    refine ⟨k, hk, hready.2, fun a ha => ?_⟩
    have hran := (h.1 early 1 29999999999 .attempt _ rfl k hk).2 (by decide) hready.1 a ha
    simp [Call.takes, hran] at hready
  · have hruns : (w.run after).RunsFrom "b" 1 2 := by
      obtain ⟨k, hk⟩ : ∃ k, (w.run after).calls 2 = some k :=
        Option.isSome_iff_exists.mp (by decide)
      have htrial : ((w.run after).calls 2).map (fun k => (k.plan.backend, k.call.takes .expire))
          = some ("b", true) := by decide
      rw [hk, Option.map_some, Option.some.injEq, Prod.mk.injEq] at htrial
      obtain ⟨hbackend, hexpires⟩ := htrial
      obtain ⟨a, ha⟩ : ∃ a, k.call.stage = .running a := by
        cases hs : k.call.stage <;> simp [Call.takes, hs] at hexpires ⊢
      have hlater : w.calls 2 = none := Option.isNone_iff_eq_none.mp (by decide)
      refine ⟨k, a, hk, hbackend, ha, hgeneration ▸ ?_⟩
      exact ((h.2 after [] (List.append_nil after).symm).1 2 k a hk hbackend ha).mpr
        fun k₀ hk₀ => absurd (hk₀.symm.trans hlater) (Option.some_ne_none k₀)
    have hnot : ∀ n < 7, (w.run (after.take n)).traffic.breakers.health "b" 0 ≠ .closed := by
      decide
    rw [← hgeneration] at hruns ⊢
    refine ⟨hruns, fun j hj => (h.2 after [] rfl).2 ?_ j 2 hj hruns⟩
    intro u' v' hsplit failures hclosed
    have hlength : u'.length + v'.length = 6 := by
      rw [← List.length_append, ← hsplit]
      rfl
    have htake : after.take u'.length = u' := by rw [hsplit, List.take_left]
    refine hnot u'.length (by omega) ?_
    have hphase : ((w.run u').traffic.breakers.circuit "b").phase = .closed failures := hclosed
    rw [htake]
    simp [Breakers.health, Circuit.health, hphase]

end Callers

end Dispatch
