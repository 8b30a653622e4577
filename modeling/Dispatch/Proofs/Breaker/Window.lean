/-
Dispatch/Proofs/Breaker/Window.lean

The failures that a circuit counts are those within the window.

A closed circuit keeps times of failures in a queue, and only a failure takes old ones out, from the
front.  What it should count can be said without the queue: of all failures that were reported in
this period through permits of this period, those that are not older than the window.  On a clock
that does not go backwards the queue is sorted, so what leaves at its front is just what is too old
(`recordFailure_inWindow`), and what has left earlier is too old for good.  `Lane.Counting` carries
this through a closed period, with what keeps the permits of earlier periods out of the count.

A period of a circuit begins with the first turn or with the success of a trial, and lasts until
the circuit opens (`Traffic.ClosedPeriod`).
-/
import Mathlib.Data.List.Induction
import Dispatch.Proofs.Breaker.Cooldown

namespace Dispatch

/-! ### Failures within the window -/

/-- Of some times, those that are not older than the window. -/
def BreakerSettings.inWindow (s : BreakerSettings) (now : Nat) (times : List Nat) : List Nat :=
  times.filter fun t => now - t ≤ s.window.nanos

namespace BreakerSettings

variable {s : BreakerSettings} {now : Nat}

@[simp] theorem inWindow_append (s : BreakerSettings) (now : Nat) (ts us : List Nat) :
    s.inWindow now (ts ++ us) = s.inWindow now ts ++ s.inWindow now us := List.filter_append ..

/-- What was too old before is too old. -/
theorem inWindow_inWindow {early : Nat} (h : early ≤ now) (ts : List Nat) :
    s.inWindow now (s.inWindow early ts) = s.inWindow now ts := by
  unfold inWindow
  rw [List.filter_filter]
  refine List.filter_congr fun t _ => Bool.eq_iff_iff.mpr ?_
  simp only [Bool.and_eq_true, decide_eq_true_eq]
  omega

end BreakerSettings

/-- Of a sorted list, what is dropped from the front is all that can be dropped. -/
theorem dropWhile_eq_filter_of_pairwise {α : Type} {p : α → Bool} {l : List α}
    (h : l.Pairwise fun x y => p y = true → p x = true) :
    l.dropWhile p = l.filter fun x => !p x := by
  induction l with
  | nil => rfl
  | cons x l ih =>
    obtain ⟨hx, hl⟩ := List.pairwise_cons.mp h
    cases hp : p x with
    | true => rw [List.dropWhile_cons_of_pos hp, List.filter_cons_of_neg (by simp [hp]), ih hl]
    | false =>
      have hrest : l.filter (fun y => !p y) = l := by
        refine List.filter_eq_self.mpr fun y hy => ?_
        cases hpy : p y with
        | true => exact absurd (hx y hy hpy) (by simp [hp])
        | false => rfl
      rw [List.dropWhile_cons_of_neg (by simp [hp]), List.filter_cons_of_pos (by simp [hp]), hrest]

namespace Circuit

variable {s : BreakerSettings} {now : Nat} {ts : List Nat}

/-- On sorted times, what leaves the queue is what is too old. -/
theorem recordFailure_eq_inWindow (hts : ts.Pairwise (· ≤ ·)) (hnow : ∀ t ∈ ts, t ≤ now) :
    recordFailure s now ts = s.inWindow now (ts ++ [now]) := by
  have hsorted : (ts ++ [now]).Pairwise (· ≤ ·) :=
    List.pairwise_append.mpr ⟨hts, List.pairwise_singleton .., by simpa using hnow⟩
  unfold recordFailure BreakerSettings.inWindow
  rw [dropWhile_eq_filter_of_pairwise]
  · refine List.filter_congr fun t _ => Bool.eq_iff_iff.mpr ?_
    simp
  · refine hsorted.imp fun hle hold => ?_
    simp only [decide_eq_true_eq] at hold ⊢
    omega

/-- A queue with what was within the window at the last failure counts the next one rightly. -/
theorem recordFailure_inWindow {early : Nat} (hts : ts.Pairwise (· ≤ ·))
    (hnow : ∀ t ∈ ts, t ≤ now) (hearly : early ≤ now) :
    recordFailure s now (s.inWindow early ts) = s.inWindow now (ts ++ [now]) := by
  have hqueue : (s.inWindow early ts).Pairwise (· ≤ ·) := hts.sublist List.filter_sublist
  have hlast : ∀ t ∈ s.inWindow early ts, t ≤ now := fun t ht =>
    hnow t (List.mem_filter.mp ht).1
  rw [recordFailure_eq_inWindow hqueue hlast, BreakerSettings.inWindow_append,
    BreakerSettings.inWindow_append, BreakerSettings.inWindow_inWindow hearly]

/-- The failure of a call on a closed circuit, when the failures before it are counted rightly. -/
theorem settle_failure {c : Circuit} {early : Nat} (hc : c.phase = .closed (s.inWindow early ts))
    (hts : ts.Pairwise (· ≤ ·)) (hnow : ∀ t ∈ ts, t ≤ now) (hearly : early ≤ now) :
    c.settle s false false now
      = if s.failureThreshold ≤ (s.inWindow now (ts ++ [now])).length then c.enter (.open now)
        else { c with phase := .closed (s.inWindow now (ts ++ [now])) } := by
  rw [← recordFailure_inWindow hts hnow hearly]
  unfold settle
  rw [hc]

theorem closed_of_release {c : Circuit} (h : c.release.phase = .closed ts) :
    c.phase = .closed ts := by
  unfold release at h
  split at h
  · cases h
  · exact h

end Circuit

/-! ### A period of a lane -/

namespace Lane

variable {backend : String} {s : BreakerSettings} {l : Lane} {n first now : Nat}
  {recorded : List Nat} {e : LaneTurn}

theorem isSome_use {change : Permit → Circuit → Circuit} (h : l.circuit.isSome) :
    (l.use n change).circuit.isSome := by
  rcases hp : l.permits n with - | p
  · rwa [use_of_none hp]
  · rw [use_of_some hp]
    simpa using h

/-- The time of a failure that a turn reports, through a permit that is out and was not among the
first ones. -/
def failure? (l : Lane) (first : Nat) : LaneTurn → Option Nat
  | .settle n false now => if first ≤ n ∧ (l.permits n).isSome then some now else none
  | _ => none

/-- A closed circuit has counted the failures of its period, and no others. -/
structure Counting (s : BreakerSettings) (first : Nat) (recorded : List Nat) (l : Lane) :
    Prop where
  orderly : l.Orderly
  asked : first ≤ l.asked
  present : ∀ {n p}, l.permits n = some p → l.circuit.isSome
  earlier : ∀ {n p}, l.permits n = some p → n < first → p.generation ≠ l.current.generation
  period : ∀ {n p}, l.permits n = some p → first ≤ n → p.generation = l.current.generation
  sorted : recorded.Pairwise (· ≤ ·)
  phase : l.current.phase = .closed (s.inWindow (recorded.getLastD 0) recorded)

namespace Counting

/-- While the circuit is closed, no trial is out. -/
theorem trial_eq_false (h : Counting s first recorded l) {p : Permit}
    (hp : l.permits n = some p) : p.trial = false :=
  h.orderly.trial_eq_false (by simp [h.phase]) hp

/-- What was counted last was counted before now. -/
theorem getLastD_le (hnow : ∀ t ∈ recorded, t ≤ now) : recorded.getLastD 0 ≤ now := by
  rcases List.eq_nil_or_concat recorded with rfl | ⟨ts, t, rfl⟩
  · exact Nat.zero_le _
  · simpa using hnow t (by simp)

/-- **What a failure of the period does.** -/
theorem current_step (h : Counting s first recorded l) (he : l.failure? first e = some now)
    (hnow : ∀ t ∈ recorded, t ≤ now) :
    (l.step backend s e).current
      = if s.failureThreshold ≤ (s.inWindow now (recorded ++ [now])).length then
          l.current.enter (.open now)
        else { l.current with phase := .closed (s.inWindow now (recorded ++ [now])) } := by
  unfold failure? at he
  split at he
  · split at he
    · next hn =>
      obtain ⟨hn, hout⟩ := hn
      obtain rfl := Option.some.inj he
      obtain ⟨p, hp⟩ := Option.isSome_iff_exists.mp hout
      rw [Lane.step, current_use hp, if_pos ⟨h.present hp, (h.period hp hn).symm⟩,
        h.trial_eq_false hp, Circuit.settle_failure h.phase h.sorted hnow (getLastD_le hnow)]
    · cases he
  · cases he

/-- A use of a permit that is no failure of the period leaves the circuit as it is. -/
theorem current_step_of_none (h : Counting s first recorded l) (hn : e.uses = some n)
    (he : l.failure? first e = none) : (l.step backend s e).current = l.current := by
  rcases hp : l.permits n with - | p
  · obtain ⟨change, hstep⟩ : ∃ change, l.step backend s e = l.use n change :=
      exists_step_eq_use hn l
    rw [hstep, use_of_none hp]
  cases e with
  | settle m success now =>
    obtain rfl : m = n := by simpa [LaneTurn.uses] using hn
    rw [Lane.step, current_use hp, h.trial_eq_false hp]
    split
    · next hreach =>
      -- a permit of this period, so the call has succeeded
      have hfirst : first ≤ m :=
        Nat.le_of_not_lt fun hlt => h.earlier hp hlt hreach.2.symm
      cases success with
      | true =>
        refine Circuit.settle_of_not_heeds fun hh => ?_
        cases hh
      | false => simp [failure?, hfirst, hp] at he
    · rfl
  | release m =>
    obtain rfl : m = n := by simpa [LaneTurn.uses] using hn
    rw [Lane.step, current_use hp, h.trial_eq_false hp]
    split <;> rfl
  | acquire now => cases hn
  | health now => cases hn
  | reset => cases hn

/-! #### Turns within the period -/

/-- A use of a permit goes on counting if it leaves the generation and counts rightly itself. -/
theorem use (h : Counting s first recorded l) (hn : e.uses = some n) (he : e ≠ .reset)
    {recorded' : List Nat} (hsorted : recorded'.Pairwise (· ≤ ·))
    (hgen : (l.step backend s e).current.generation = l.current.generation)
    (hphase : (l.step backend s e).current.phase
      = .closed (s.inWindow (recorded'.getLastD 0) recorded')) :
    Counting s first recorded' (l.step backend s e) := by
  obtain ⟨change, hstep⟩ : ∃ change, l.step backend s e = l.use n change := exists_step_eq_use hn l
  have horderly : (l.step backend s e).Orderly := h.orderly.step he
  rw [hstep] at hgen hphase horderly ⊢
  -- the permits that are left were out before, and are compared with the same generation
  refine ⟨horderly, ?_, fun hq => ?_, fun hq hlt => ?_, fun hq hle => ?_, hsorted, hphase⟩
  · rw [use_asked]
    exact h.asked
  · exact isSome_use (h.present (permits_of_use hq).2)
  · rw [hgen]
    exact h.earlier (permits_of_use hq).2 hlt
  · rw [hgen]
    exact h.period (permits_of_use hq).2 hle

theorem acquire (h : Counting s first recorded l) (now : Nat) :
    Counting s first recorded (l.step backend s (.acquire now)) := by
  have hgrant : l.current.grant s now = some (l.current, false) := by
    unfold Circuit.grant
    rw [h.phase]
  have hcur : (l.step backend s (.acquire now)).current = l.current := by
    rw [Lane.step, current_issue, hgrant]
    rfl
  have horderly : (l.step backend s (.acquire now)).Orderly :=
    h.orderly.step (by simp)
  -- the new permit is of this period, and its number comes after those of the earlier ones
  have hperm : ∀ {m q}, (l.step backend s (.acquire now)).permits m = some q →
      (m = l.asked ∧ q.generation = l.current.generation) ∨ l.permits m = some q := by
    intro m q hq
    rcases held_update hq with ⟨rfl, hnew⟩ | ⟨-, hold⟩
    · unfold granted at hnew
      rw [hgrant] at hnew
      cases hnew
      exact Or.inl ⟨rfl, rfl⟩
    · exact Or.inr hold
  refine ⟨horderly, Nat.le_succ_of_le h.asked, fun _ => rfl, fun hq hlt => ?_, fun hq hle => ?_,
    h.sorted, hcur.symm ▸ h.phase⟩
  · rw [hcur]
    rcases hperm hq with ⟨rfl, -⟩ | hq
    · exact absurd hlt (Nat.not_lt.mpr h.asked)
    · exact h.earlier hq hlt
  · rw [hcur]
    rcases hperm hq with ⟨-, hg⟩ | hq
    · exact hg
    · exact h.period hq hle

/-- Every turn of the period goes on counting. -/
theorem step (h : Counting s first recorded l) (he : e ≠ .reset)
    (hnow : ∀ now, l.failure? first e = some now → ∀ t ∈ recorded, t ≤ now)
    (hopen : ∀ t, (l.step backend s e).current.phase ≠ .open t) :
    Counting s first (recorded ++ (l.failure? first e).toList) (l.step backend s e) := by
  rcases hf : l.failure? first e with - | now
  · rw [Option.toList_none, List.append_nil]
    rcases hn : e.uses with - | n
    · cases e with
      | acquire now => exact h.acquire now
      | health now => exact h
      | reset => exact absurd rfl he
      | settle n success now => cases hn
      | release n => cases hn
    · have hcur : (l.step backend s e).current = l.current := h.current_step_of_none hn hf
      exact h.use hn he h.sorted (congrArg _ hcur) (hcur ▸ h.phase)
  · have hlast := hnow now hf
    have hcur : (l.step backend s e).current = _ := h.current_step hf hlast
    split at hcur
    · exact absurd (congrArg Circuit.phase hcur) (hopen now)
    · -- counted, and not enough to open
      obtain ⟨n, hn⟩ : ∃ n, e.uses = some n := by
        cases e with
        | settle n success now => exact ⟨n, rfl⟩
        | release n => exact ⟨n, rfl⟩
        | acquire now => cases hf
        | health now => cases hf
        | reset => cases hf
      refine h.use hn he ?_ (by rw [hcur]) ?_
      · exact List.pairwise_append.mpr ⟨h.sorted, List.pairwise_singleton .., by simpa using hlast⟩
      · rw [hcur]
        simp

/-! #### Where a period begins -/

theorem empty (s : BreakerSettings) : Counting s 0 [] {} where
  orderly := orderly_empty
  asked := Nat.le_refl _
  present h := nomatch h
  earlier h := nomatch h
  period h := nomatch h
  sorted := .nil
  phase := rfl

/-- After a trial has succeeded, all permits that are out are of earlier periods. -/
theorem of_success (h : Orderly l) (hn : l.HoldsTrial n) (now : Nat) :
    Counting s (l.step backend s (.settle n true now)).asked []
      (l.step backend s (.settle n true now)) := by
  have hasked : (l.step backend s (.settle n true now)).asked = l.asked := use_asked ..
  obtain ⟨p, hp, ht⟩ := hn
  obtain ⟨hg, hph⟩ := h.trial hp ht
  have hcur : (l.step backend s (.settle n true now)).current = l.current.enter (.closed []) := by
    rw [Lane.step, h.current_use_trial hp ht, ht]
    simp [Circuit.settle, hph]
  have hpast : ∀ {m q}, (l.step backend s (.settle n true now)).permits m = some q →
      m < l.asked ∧ q.generation ≤ l.current.generation := fun hq =>
    ⟨h.issued (permits_of_use hq).2, h.past (permits_of_use hq).2⟩
  refine ⟨h.step (by simp), Nat.le_refl _, fun _ => ?_, fun hq _ => ?_, fun hq hle => ?_, .nil, ?_⟩
  · exact isSome_use (isSome_of_phase hph)
  · rw [hcur]
    exact Nat.ne_of_lt (Nat.lt_succ_of_le (hpast hq).2)
  · exact absurd (hpast hq).1 (Nat.not_lt.mpr (hasked ▸ hle))
  · rw [hcur]
    rfl

end Counting

/-! ### What closes a circuit -/

/-- Only a trial that succeeds closes a circuit. -/
theorem success_of_closes {ts : List Nat} (hbefore : ∀ ts, l.current.phase ≠ .closed ts)
    (hafter : (l.step backend s e).current.phase = .closed ts) (he : e ≠ .reset) :
    ∃ n now, e = .settle n true now ∧ l.HoldsTrial n := by
  generalize hc : (l.step backend s e).current = c at hafter
  have hstep : CircuitStep s l e c := hc ▸ l.circuitStep e
  cases hstep with
  | same _ => exact absurd hafter (hbefore ts)
  | granted hg =>
    cases Circuit.Granted.of_eq hg with
    | normal _ => exact absurd hafter (hbefore ts)
    | freeSlot _ => cases hafter
    | cooledDown _ _ => cases hafter
  | @settled n success now p hp =>
    obtain ⟨b, g, trial⟩ := p
    generalize hd : l.current.settle s trial success now = d at hafter
    cases Circuit.Settled.of_eq hd with
    | ignored _ => exact absurd hafter (hbefore ts)
    | counted hclosed _ => exact absurd hclosed (hbefore _)
    | tripped _ _ => cases hafter
    | recovered _ => exact ⟨n, now, rfl, _, hp, rfl⟩
    | relapsed _ => cases hafter
  | released _ _ => exact absurd (Circuit.closed_of_release hafter) (hbefore ts)
  | reset => exact absurd rfl he

/-! ### Closed circuits count few failures -/

/-- What holds of a new circuit, and what no request, outcome or dropped trial ends, holds of the
circuit at all times. -/
theorem current_run_induction {P : Circuit → Prop} (hnew : P {})
    (hgrant : ∀ {c now r}, P c → c.grant s now = some r → P r.1)
    (hsettle : ∀ {c} trial success now, P c → P (c.settle s trial success now))
    (hrelease : ∀ {c}, P c → P c.release) (hl : P l.current) (es : List LaneTurn) :
    P (l.run backend s es).current := by
  induction es generalizing l with
  | nil => exact hl
  | cons e es ih =>
    rw [run_cons]
    refine ih ?_
    generalize hc : (l.step backend s e).current = c
    have hstep : CircuitStep s l e c := hc ▸ l.circuitStep e
    cases hstep with
    | same _ => exact hl
    | granted hg => exact hgrant hl hg
    | settled _ => exact hsettle _ _ _ hl
    | released _ _ => exact hrelease hl
    | reset => exact hnew

/-- Whatever happens, and on whatever clock, a closed circuit has fewer failures than open it. -/
theorem length_lt_of_closed (hs : 1 ≤ s.failureThreshold) (es : List LaneTurn) :
    ∀ ts, (run backend s {} es).current.phase = .closed ts → ts.length < s.failureThreshold := by
  refine current_run_induction (P := fun c => ∀ ts, c.phase = .closed ts →
    ts.length < s.failureThreshold) ?_ ?_ ?_ ?_ ?_ es
  · intro ts hc
    obtain rfl := Phase.closed.inj hc
    exact hs
  · intro c now r hc hg ts hts
    cases Circuit.Granted.of_eq hg with
    | normal _ => exact hc ts hts
    | freeSlot _ => cases hts
    | cooledDown _ _ => cases hts
  · intro c trial success now hc ts hts
    generalize hd : c.settle s trial success now = d at hts
    cases Circuit.Settled.of_eq hd with
    | ignored _ => exact hc ts hts
    | counted _ hlt =>
      obtain rfl := Phase.closed.inj hts
      exact hlt
    | tripped _ _ => cases hts
    | recovered _ =>
      obtain rfl := Phase.closed.inj hts
      exact hs
    | relapsed _ => cases hts
  · intro c hc ts hts
    exact hc ts (Circuit.closed_of_release hts)
  · intro ts hc
    obtain rfl := Phase.closed.inj hc
    exact hs

end Lane

/-! ### Periods of traffic -/

namespace Traffic

variable {defaults : BreakerSettings} {overrides : Table BreakerSettings} {w : Traffic}
  {backend : String} {first t : Nat} {e : BreakerTurn} {es before since : List BreakerTurn}

@[simp] theorem run_append (w : Traffic) (es es' : List BreakerTurn) :
    w.run (es ++ es') = (w.run es).run es' := List.foldl_append

/-- The time of a failure that a turn reports at a backend, through a permit that is out and was not
among the first ones. -/
def failure? (w : Traffic) (backend : String) (first : Nat) : BreakerTurn → Option Nat
  | .settle t false now =>
    if t.backend = backend ∧ first ≤ t.number ∧ (w.permits t).isSome then some now else none
  | _ => none

/-- The times of the failures that are reported so in a run. -/
def failures (w : Traffic) (backend : String) (first : Nat) : List BreakerTurn → List Nat
  | [] => []
  | e :: es => (w.failure? backend first e).toList ++ (w.step e).failures backend first es

/-- After some turns, a closed period of a circuit has begun, and it has lasted for some more. -/
structure ClosedPeriod (w : Traffic) (backend : String) (before since : List BreakerTurn) :
    Prop where
  /-- A period begins with the first turn, or with the success of a trial. -/
  begins : before = [] ∨ ∃ past ticket now, before = past ++ [.settle ticket true now] ∧
    ticket.backend = backend ∧ (w.run past).TrialOut ticket
  /-- A period lasts until the circuit opens. -/
  unopened : ∀ u e v t, since = u ++ e :: v → ¬ ((w.run before).run u).Opens e backend t

theorem ClosedPeriod.of_append {rest : List BreakerTurn}
    (h : w.ClosedPeriod backend before (since ++ rest)) : w.ClosedPeriod backend before since where
  begins := h.begins
  unopened := by
    rintro u e v t rfl
    exact h.unopened u e (v ++ rest) t (by simp)

theorem time?_of_failure? (h : w.failure? backend first e = some t) : e.time? = some t := by
  unfold failure? at h
  split at h
  · split at h
    · exact h
    · cases h
  · cases h

theorem failures_concat (w : Traffic) (backend : String) (first : Nat) (es : List BreakerTurn)
    (e : BreakerTurn) : w.failures backend first (es ++ [e])
      = w.failures backend first es ++ ((w.run es).failure? backend first e).toList := by
  induction es generalizing w with
  | nil => simp [failures]
  | cons x es ih =>
    rw [List.cons_append, failures, ih, failures, List.append_assoc, run_cons]

theorem exists_of_mem_failures (h : t ∈ w.failures backend first es) :
    ∃ e ∈ es, e.time? = some t := by
  induction es generalizing w with
  | nil => cases h
  | cons e es ih =>
    rw [failures, List.mem_append, Option.mem_toList] at h
    rcases h with h | h
    · exact ⟨e, List.mem_cons_self, time?_of_failure? h⟩
    · obtain ⟨x, hx, ht⟩ := ih h
      exact ⟨x, List.mem_cons_of_mem _ hx, ht⟩

/-- A failure is reported in the lane of its backend. -/
theorem failure?_lane (w : Traffic) (backend : String) (first : Nat) (e : BreakerTurn) :
    w.failure? backend first e
      = (e.seenFrom backend).bind ((w.lane backend).failure? first) := by
  cases e with
  | acquire b now =>
    by_cases hb : b = backend <;> simp [failure?, BreakerTurn.seenFrom, hb, Lane.failure?]
  | settle u success now =>
    obtain ⟨b, n⟩ := u
    by_cases hb : b = backend
    · subst hb
      cases success <;> simp [failure?, BreakerTurn.seenFrom, Lane.failure?, lane]
    · cases success <;> simp [failure?, BreakerTurn.seenFrom, hb]
  | release u =>
    by_cases hb : u.backend = backend <;>
      simp [failure?, BreakerTurn.seenFrom, hb, Lane.failure?]
  | health b now =>
    by_cases hb : b = backend <;> simp [failure?, BreakerTurn.seenFrom, hb, Lane.failure?]
  | reset => rfl

/-- A failure that is reported at a backend is seen from there. -/
theorem exists_lane_of_failure? (h : w.failure? backend first e = some t) :
    ∃ e', e.seenFrom backend = some e' ∧ (w.lane backend).failure? first e' = some t := by
  rw [failure?_lane] at h
  exact Option.bind_eq_some_iff.mp h

/-! #### Counting in a period -/

/-- Where a period begins, counting begins. -/
theorem ClosedPeriod.counting_begins
    (h : (start defaults overrides).ClosedPeriod backend before since)
    (hreset : .reset ∉ before) :
    let s := (start defaults overrides).breakers.settings backend
    let w := (start defaults overrides).run before
    (w.lane backend).Counting s (w.asked backend) [] := by
  intro s w
  rcases h.begins with rfl | ⟨past, ⟨b, n⟩, now, rfl, rfl, hout⟩
  · exact Lane.Counting.empty _
  · have hpast : .reset ∉ past := fun hmem => hreset (List.mem_append_left _ hmem)
    have hseen : (BreakerTurn.settle ⟨b, n⟩ true now).seenFrom b = some (.settle n true now) :=
      if_pos rfl
    have hw : w = ((start defaults overrides).run past).step (.settle ⟨b, n⟩ true now) :=
      run_append ..
    show (w.lane b).Counting s (w.lane b).asked []
    rw [hw, lane_step_of_some hseen, settings_run]
    exact .of_success (orderly_lane hpast b) hout now

/-- **Through a period, the circuit counts the failures of the period.** -/
theorem ClosedPeriod.counting
    (h : (start defaults overrides).ClosedPeriod backend before since)
    (hreset : .reset ∉ before ++ since) (htimes : Timely (before ++ since)) :
    let s := (start defaults overrides).breakers.settings backend
    let w := (start defaults overrides).run before
    ((w.run since).lane backend).Counting s (w.asked backend)
      (w.failures backend (w.asked backend) since) := by
  intro s w
  induction since using List.reverseRecOn with
  | nil => exact h.counting_begins (by simpa using hreset)
  | append_singleton es e ih =>
    rw [← List.append_assoc] at hreset htimes
    have hcount := ih h.of_append (fun hmem => hreset (List.mem_append_left _ hmem))
      htimes.of_append
    rw [run_append, failures_concat]
    show (((w.run es).step e).lane backend).Counting _ _ _
    rcases hseen : e.seenFrom backend with - | e'
    · rw [lane_step_of_none hseen, failure?_lane, hseen]
      simpa using hcount
    · have hlane := lane_step_of_some (w := w.run es) hseen
      rw [settings_run, settings_run] at hlane
      rw [failure?_lane, hseen, hlane]
      refine hcount.step ?_ ?_ ?_
      · rintro rfl
        obtain rfl := BreakerTurn.seenFrom_eq_some_iff.mp hseen
        exact hreset (by simp [LaneTurn.at])
      · -- what was reported before was reported on an earlier clock
        intro now hnow t ht
        obtain ⟨x, hx, hxt⟩ := exists_of_mem_failures ht
        have hfailure : (w.run es).failure? backend (w.asked backend) e = some now := by
          rw [failure?_lane, hseen]
          exact hnow
        exact htimes.le (List.mem_append_right _ hx) List.mem_cons_self hxt
          (time?_of_failure? hfailure)
      · intro t hopen
        rw [← hlane] at hopen
        refine h.unopened es e [] t rfl (opens_of_phase (fun since hbefore => ?_) hopen)
        cases hcount.phase.symm.trans hbefore

/-- A closed circuit is in a closed period. -/
theorem exists_closedPeriod {turns : List BreakerTurn} {ts : List Nat} (hreset : .reset ∉ turns)
    (hc : (((start defaults overrides).run turns).breakers.circuit backend).phase = .closed ts) :
    ∃ before since, turns = before ++ since ∧
      (start defaults overrides).ClosedPeriod backend before since := by
  induction turns using List.reverseRecOn generalizing ts with
  | nil => exact ⟨[], [], rfl, Or.inl rfl, fun u e v t h => by simp at h⟩
  | append_singleton es e ih =>
    rw [List.mem_append, not_or] at hreset
    rw [run_append] at hc
    by_cases hbefore : ∃ ts,
        (((start defaults overrides).run es).breakers.circuit backend).phase = .closed ts
    · -- the period goes on
      obtain ⟨ts', hc'⟩ := hbefore
      obtain ⟨before, since, rfl, hperiod⟩ := ih hreset.1 hc'
      refine ⟨before, since ++ [e], by simp, hperiod.begins, ?_⟩
      intro u x v t hsplit hopens
      rcases List.eq_nil_or_concat v with rfl | ⟨v, y, rfl⟩
      · obtain ⟨rfl, hx⟩ := List.append_inj' hsplit rfl
        obtain rfl := List.singleton_inj.mp hx
        rw [run_append] at hc
        exact absurd (hc.symm.trans (phase_of_opens hopens)) nofun
      · rw [List.concat_eq_append, ← List.cons_append, ← List.append_assoc] at hsplit
        exact hperiod.unopened u x v t (List.append_inj' hsplit rfl).1 hopens
    · -- the last turn has closed the circuit
      refine ⟨es ++ [e], [], by simp, Or.inr ?_, fun u x v t h => by simp at h⟩
      have hnot : ∀ ts, (((start defaults overrides).run es).lane backend).current.phase
          ≠ .closed ts := fun ts hts => hbefore ⟨ts, hts⟩
      rcases hseen : e.seenFrom backend with - | e'
      · rw [← current_lane, run_cons, run_nil, lane_step_of_none hseen] at hc
        exact absurd hc (hnot ts)
      · rw [← current_lane, run_cons, run_nil, lane_step_of_some hseen] at hc
        obtain rfl := BreakerTurn.seenFrom_eq_some_iff.mp hseen
        obtain ⟨n, now, rfl, hn⟩ := Lane.success_of_closes hnot hc
          fun hreset' => hreset.2 (by simp [hreset', LaneTurn.at])
        exact ⟨es, ⟨backend, n⟩, now, rfl, rfl, hn⟩

/-- **The failures that count are those within the window.**  Without a reset, on a clock that does
not go backwards: a closed circuit has fewer failures than open it, and is in a closed period.  In
such a period, let somebody report a failure through a permit of the period.  It opens the circuit
exactly if enough of the failures that were reported so in the period, this one included, are not
older than the window.  No other use of a permit changes the circuit: no success, no permit that is
dropped, nothing that is reported through a permit of an earlier period. -/
theorem opens_iff_failures_in_window (defaults : BreakerSettings)
    (overrides : Table BreakerSettings) (backend : String) (turns : List BreakerTurn)
    (hreset : .reset ∉ turns) (htimes : Timely turns)
    (hthreshold : 1 ≤ ((start defaults overrides).breakers.settings backend).failureThreshold) :
    let start := start defaults overrides
    let s := start.breakers.settings backend
    (∀ ts, ((start.run turns).breakers.circuit backend).phase = .closed ts →
      ts.length < s.failureThreshold ∧
      ∃ before since, turns = before ++ since ∧ start.ClosedPeriod backend before since) ∧
    ∀ before since, turns = before ++ since → start.ClosedPeriod backend before since →
      let w := start.run before
      let first := w.asked backend
      let w' := w.run since
      (∀ e now, w'.failure? backend first e = some now → Timely (turns ++ [e]) →
        (w'.Opens e backend now ↔
          s.failureThreshold ≤ (s.inWindow now (w.failures backend first (since ++ [e]))).length)) ∧
      ∀ e ticket, e.uses = some ticket → w'.failure? backend first e = none →
        (w'.step e).breakers.circuit backend = w'.breakers.circuit backend := by
  intro start s
  refine ⟨fun ts hc => ⟨?_, exists_closedPeriod hreset hc⟩, ?_⟩
  · rw [← current_lane, lane_run] at hc
    exact Lane.length_lt_of_closed hthreshold _ ts hc
  rintro before since rfl hperiod w first w'
  have hcount : (w'.lane backend).Counting s first (w.failures backend first since) :=
    hperiod.counting hreset htimes
  have hsettings : w'.breakers.settings backend = s := by
    show ((w.run since).breakers.settings backend) = s
    rw [settings_run, settings_run]
  refine ⟨fun e now he htimes => ?_, fun e ticket huse he => ?_⟩
  · obtain ⟨e', hseen, he'⟩ := exists_lane_of_failure? he
    have hearlier : ∀ t ∈ w.failures backend first since, t ≤ now := by
      intro t ht
      obtain ⟨x, hx, hxt⟩ := exists_of_mem_failures ht
      exact htimes.le (List.mem_append_right _ hx) List.mem_cons_self hxt (time?_of_failure? he)
    have hall : w.failures backend first (since ++ [e])
        = w.failures backend first since ++ [now] := by
      rw [failures_concat]
      exact congrArg _ (congrArg Option.toList he)
    have hcur : ((w'.lane backend).step backend s e').current = _ :=
      hcount.current_step he' hearlier
    rw [← hsettings, ← lane_step_of_some hseen, hsettings, ← hall] at hcur
    refine ⟨fun hopens => ?_, fun hle => ?_⟩
    · by_contra hlt
      rw [if_neg hlt] at hcur
      exact absurd ((congrArg Circuit.phase hcur).symm.trans (phase_of_opens hopens)) nofun
    · rw [if_pos hle] at hcur
      refine opens_of_phase (fun since' hopen => ?_) (congrArg Circuit.phase hcur)
      exact absurd (hcount.phase.symm.trans hopen) nofun
  · rcases BreakerTurn.seenFrom_of_uses huse backend with ⟨-, e', hseen, huse'⟩ | ⟨-, hseen⟩
    · rw [← current_lane, lane_step_of_some hseen, hsettings]
      refine hcount.current_step_of_none huse' ?_
      rw [failure?_lane, hseen] at he
      exact he
    · rw [← current_lane, lane_step_of_none hseen, current_lane]

/-- Two failures open a circuit with a window of a minute if they are a minute apart, and not if
they are one nanosecond further apart. -/
theorem opens_at_boundary :
    let settings : BreakerSettings := { failureThreshold := 2 }
    let turns : List BreakerTurn := [.acquire "b" 0, .acquire "b" 0, .settle ⟨"b", 0⟩ false 0]
    let w := (start settings .empty).run turns
    (.reset ∉ turns ∧ Timely turns ∧ (start settings .empty).ClosedPeriod "b" [] turns) ∧
    (w.breakers.circuit "b").phase = .closed [0] ∧ [0].length < settings.failureThreshold ∧
    w.Opens (.settle ⟨"b", 1⟩ false 60000000000) "b" 60000000000 ∧
    ¬ w.Opens (.settle ⟨"b", 1⟩ false 60000000001) "b" 60000000001 ∧
    (w.step (.settle ⟨"b", 1⟩ true 0)).breakers.circuit "b" = w.breakers.circuit "b" := by
  intro settings turns w
  have hreset : .reset ∉ turns := by decide
  have htimely : ∀ es : List BreakerTurn, (es.filterMap BreakerTurn.time?).Pairwise (· ≤ ·) →
      Timely es := fun _ h => h
  have hclosed : (w.breakers.circuit "b").phase = .closed [0] := by decide
  have hperiod : (start settings .empty).ClosedPeriod "b" [] turns := by
    refine ⟨Or.inl rfl, fun u e v t hsplit hopens => ?_⟩
    have hopen := phase_of_opens hopens
    rcases u with - | ⟨e₀, - | ⟨e₁, - | ⟨e₂, u⟩⟩⟩ <;>
      simp only [turns, List.nil_append, List.cons_append, List.cons.injEq] at hsplit
    · obtain ⟨rfl, -⟩ := hsplit
      cases hopen
    · obtain ⟨rfl, rfl, -⟩ := hsplit
      cases hopen
    · obtain ⟨rfl, rfl, rfl, -⟩ := hsplit
      exact absurd (hopen.symm.trans hclosed) nofun
    · simp at hsplit
  obtain ⟨hlen, hperiods⟩ := opens_iff_failures_in_window settings .empty "b" turns hreset
    (htimely turns (by decide)) (by decide)
  obtain ⟨hopens, hsame⟩ := hperiods [] turns rfl hperiod
  refine ⟨⟨hreset, htimely turns (by decide), hperiod⟩, hclosed, (hlen [0] hclosed).1, ?_, ?_, ?_⟩
  · exact (hopens (.settle ⟨"b", 1⟩ false 60000000000) 60000000000 (by decide)
      (htimely _ (by decide))).mpr (by decide)
  · exact mt (hopens (.settle ⟨"b", 1⟩ false 60000000001) 60000000001 (by decide)
      (htimely _ (by decide))).mp (by decide)
  · exact hsame (.settle ⟨"b", 1⟩ true 0) ⟨"b", 1⟩ rfl (by decide)

end Traffic

end Dispatch
