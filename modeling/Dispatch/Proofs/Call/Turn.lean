/-
Dispatch/Proofs/Call/Turn.lean

What one turn does to a call.

A turn is something that happens to a call at a time, and the breakers that the call finds then.
A run of a call is a list of turns.  What others do to the breakers in between needs no account of
its own: it is what the next turn finds.

From outside, a call is known by its *marks*: an attempt starts, an attempt ends in one way or
another, an attempt is refused.  `Acted` lists all that a turn can do, with the mark that it leaves,
and `acted` says that the list is complete.  `Sequel` does the same for what follows a failed
attempt.  What is said about calls further on is read off these two lists, and the steps of a call
are not opened again.

An attempt that runs out of time was cut short by the end of the call if less time than an attempt
may take was left when it started.  The mark says so from the times alone; that the call itself
goes by the same rule is part of `Coherent`, which every turn keeps.
-/
import Dispatch.Resilience.Call

namespace Dispatch

/-! ### Turns -/

/-- What happens to a call. -/
inductive CallEvent (α : Type) where
  /-- It goes on to its next attempt. -/
  | attempt
  /-- The outcome of the running attempt is there. -/
  | complete (outcome : Except Failure α)
  /-- The time of the running attempt is over. -/
  | expire
  /-- A delay is over. -/
  | wake
  /-- It is abandoned. -/
  | cancel

/-- An event, its time, and the breakers that the call finds. -/
structure CallTurn (α : Type) where
  now : Nat
  breakers : Breakers
  event : CallEvent α

/-- How an attempt ended. -/
inductive AttemptEnd (α : Type) where
  | produced (value : α)
  | failed (failure : Failure)
  /-- It has taken as long as an attempt may take. -/
  | timedOut
  /-- It has taken all the time that was left, and that was less than an attempt may take. -/
  | cutShort
  | abandoned
  deriving DecidableEq

/-- What can be seen of a call. -/
inductive CallMark (α : Type) where
  | started
  | ended (how : AttemptEnd α)
  /-- The breaker did not let the next attempt through. -/
  | refused
  deriving DecidableEq

/-- How an attempt ended, if a mark is the end of one. -/
def CallMark.end? {α : Type} : CallMark α → Option (AttemptEnd α)
  | .ended how => some how
  | .started | .refused => none

/-- Whether an attempt starts. -/
def CallMark.isStart {α : Type} : CallMark α → Bool
  | .started => true
  | .ended _ | .refused => false

/-- The backend that an error of a call names.  A refusal for the rate comes before any backend. -/
def CallError.backend? : CallError → Option String
  | .circuitOpen name | .retriesExhausted name _ _ | .deadlineExceeded name _ | .backend name _ =>
    some name
  | .rateLimited _ => none

namespace AttemptEnd

variable {α : Type}

/-- The failure of an attempt; one that has taken too long fails by that. -/
def failure? (plan : CallPlan) : AttemptEnd α → Option Failure
  | failed failure => some failure
  | timedOut => some (Call.timedOut plan.timeout)
  | produced _ | cutShort | abandoned => none

/-- An attempt ended in a way that may pass. -/
def Passing (plan : CallPlan) (e : AttemptEnd α) : Prop :=
  ∃ f, e.failure? plan = some f ∧ f.category = .transient

theorem passing_iff {plan : CallPlan} {e : AttemptEnd α} {f : Failure}
    (he : e.failure? plan = some f) : e.Passing plan ↔ f.category = .transient := by
  constructor
  · rintro ⟨g, hg, htransient⟩
    obtain rfl := Option.some.inj (he.symm.trans hg)
    exact htransient
  · intro htransient
    exact ⟨f, he, htransient⟩

/-- An attempt without a failure did not end in a way that may pass. -/
theorem not_passing {plan : CallPlan} {e : AttemptEnd α} (he : e.failure? plan = none) :
    ¬ e.Passing plan := by
  rintro ⟨f, hf, -⟩
  cases he.symm.trans hf

end AttemptEnd

namespace Call

variable {α : Type} {plan : CallPlan} {now : Nat} {c : Call α} {t : CallTurn α}

/-- One turn: the breakers and the call after it.  Only a call that is ready goes on to an
attempt. -/
def act (plan : CallPlan) (c : Call α) (t : CallTurn α) : Breakers × Call α :=
  match t.event with
  | .attempt =>
    match c.stage with
    | .ready => c.attempt plan t.now t.breakers
    | _ => (t.breakers, c)
  | .complete outcome => c.complete plan t.now outcome t.breakers
  | .expire => c.expire plan t.now t.breakers
  | .wake => (t.breakers, c.wake)
  | .cancel => c.cancel t.breakers

/-- The call after a turn. -/
def step (plan : CallPlan) (c : Call α) (t : CallTurn α) : Call α := (c.act plan t).2

/-- Turns one after another. -/
def run (plan : CallPlan) (c : Call α) (turns : List (CallTurn α)) : Call α :=
  turns.foldl (step plan) c

/-- Whether an event concerns a call where it stands. -/
def takes (c : Call α) (e : CallEvent α) : Bool :=
  match c.stage, e with
  | .ready, .attempt | .ready, .cancel => true
  | .running _, .complete _ | .running _, .expire | .running _, .cancel => true
  | .waiting _, .wake | .waiting _, .cancel => true
  | _, _ => false

/-- What can be seen of a turn. -/
def mark? (plan : CallPlan) (c : Call α) (t : CallTurn α) : Option (CallMark α) :=
  match c.stage, t.event with
  | .ready, .attempt =>
    if c.deadline ≤ t.now then none
    else if (t.breakers.acquire plan.backend t.now).2.isSome then some .started
    else some .refused
  | .running _, .complete (.ok value) => some (.ended (.produced value))
  | .running _, .complete (.error failure) => some (.ended (.failed failure))
  | .running a, .expire =>
    some (.ended (if c.deadline - a.since < plan.timeout.nanos then .cutShort else .timedOut))
  | .running _, .cancel => some (.ended .abandoned)
  | _, _ => none

/-- What can be seen of a run. -/
def marks (plan : CallPlan) (c : Call α) : List (CallTurn α) → List (CallMark α)
  | [] => []
  | t :: rest => (c.mark? plan t).toList ++ marks plan (c.step plan t) rest

@[simp] theorem run_nil (c : Call α) : c.run plan [] = c := rfl

@[simp] theorem run_cons (c : Call α) (t : CallTurn α) (ts : List (CallTurn α)) :
    c.run plan (t :: ts) = (c.step plan t).run plan ts := rfl

theorem run_append (c : Call α) (ts us : List (CallTurn α)) :
    c.run plan (ts ++ us) = (c.run plan ts).run plan us := List.foldl_append

/-! ### After a failed attempt -/

/-- What can follow a failed attempt. -/
inductive Sequel (plan : CallPlan) (now : Nat) (f : Failure) (c : Call α) : Call α → Prop
  | final (hf : f.category ≠ .transient) :
      Sequel plan now f c (c.finish (.error (.backend plan.backend f)))
  | exhausted (hf : f.category = .transient) (hmax : plan.retry.maxAttempts ≤ c.attempts) :
      Sequel plan now f c (c.finish (.error (.retriesExhausted plan.backend c.attempts f)))
  | lost {fault : TimeFault} {delays : Backoff.Schedule} (hf : f.category = .transient)
      (hmore : c.attempts < plan.retry.maxAttempts) (hw : c.wakeUp plan now = .error fault) :
      Sequel plan now f c { c with delays, stage := .crashed fault }
  | late {w : Nat} (hf : f.category = .transient)
      (hmore : c.attempts < plan.retry.maxAttempts) (hw : c.wakeUp plan now = .ok w)
      (hd : c.deadline ≤ w) :
      Sequel plan now f c (c.finish (.error (.deadlineExceeded plan.backend c.attempts)))
  | waits {w : Nat} {delays : Backoff.Schedule} (hf : f.category = .transient)
      (hmore : c.attempts < plan.retry.maxAttempts) (hw : c.wakeUp plan now = .ok w)
      (hd : w < c.deadline) :
      Sequel plan now f c { c with delays, stage := .waiting (Clock.onGrid w) }

/-- The list of what can follow is complete. -/
theorem sequel (c : Call α) (f : Failure) : c.Sequel plan now f (c.afterFailure plan now f) := by
  unfold afterFailure
  by_cases hf : f.category = .transient
  · have hretry : f.category.isRetryable = true := decide_eq_true hf
    rw [hretry, Bool.not_true, if_neg Bool.false_ne_true]
    split
    · next hmax => exact .exhausted hf hmax
    · next hmax =>
      have hmore : c.attempts < plan.retry.maxAttempts := Nat.lt_of_not_le hmax
      dsimp only
      split
      · next hw => exact .lost hf hmore hw
      · next w hw =>
        split
        · next hd => exact .late hf hmore hw hd
        · next hd => exact .waits hf hmore hw (Nat.lt_of_not_le hd)
  · have hretry : f.category.isRetryable = false := decide_eq_false hf
    rw [hretry, Bool.not_false, if_pos rfl]
    exact .final hf

/-- The end that follows a failed attempt names the backend. -/
theorem Sequel.backend?_eq {f : Failure} {c' : Call α} {e : CallError}
    (h : c.Sequel plan now f c') (he : c'.stage = .finished (.error e)) :
    e.backend? = some plan.backend := by
  cases h with
  | final hf => cases he; rfl
  | exhausted hf hmax => cases he; rfl
  | late hf hmore hw hd => cases he; rfl
  | lost hf hmore hw => cases he
  | waits hf hmore hw hd => cases he

end Call

/-! ### The limit of an attempt -/

/-- An attempt has the limit that its start gives it. -/
structure RunningAttempt.Fits (plan : CallPlan) (deadline : Nat) (a : RunningAttempt) : Prop where
  inTime : a.since < deadline
  limit : a.limit = min plan.timeout (Duration.saturating (deadline - a.since))
  clamped : a.clamped = decide (Duration.saturating (deadline - a.since) < plan.timeout)

namespace RunningAttempt.Fits

variable {plan : CallPlan} {deadline : Nat} {a : RunningAttempt}

/-- What is left of a time that can be represented is a duration. -/
theorem nanos_left (hb : deadline < Clock.bound) (since : Nat) :
    (Duration.saturating (deadline - since)).nanos = deadline - since := by
  rw [Duration.nanos_saturating]
  refine Nat.min_eq_left ?_
  have hsub : deadline - since ≤ deadline := Nat.sub_le deadline since
  have hfits : Clock.bound ≤ UInt64.size * 1000000000 - 1 := by decide
  omega

theorem clamped_iff (h : a.Fits plan deadline) (hb : deadline < Clock.bound) :
    a.clamped = true ↔ deadline - a.since < plan.timeout.nanos := by
  rw [h.clamped, decide_eq_true_iff, Duration.lt_iff, nanos_left hb]

/-- An attempt that is not clamped may take as long as the plan says. -/
theorem limit_of_not_clamped (h : a.Fits plan deadline) (hc : a.clamped = false) :
    a.limit = plan.timeout := by
  rw [h.clamped, decide_eq_false_iff_not, Duration.lt_iff, Nat.not_lt] at hc
  rw [h.limit]
  exact if_pos hc

theorem nanos_limit (h : a.Fits plan deadline) (hb : deadline < Clock.bound) :
    a.limit.nanos = min plan.timeout.nanos (deadline - a.since) := by
  rw [h.limit, Duration.nanos_min, nanos_left hb]

end RunningAttempt.Fits

/-- A call that is not over has a deadline that can be represented, and a running attempt has the
limit of its start. -/
structure Call.Coherent {α : Type} (plan : CallPlan) (c : Call α) : Prop where
  bounded : c.isOver = false → c.deadline < Clock.bound
  fits : ∀ {a}, c.stage = .running a → a.Fits plan c.deadline

/-! ### What a turn does -/

namespace Call

variable {α : Type} {plan : CallPlan} {c : Call α} {t : CallTurn α}

/-- What a turn can do to a call and to the breakers, with the mark that it leaves. -/
inductive Acted (plan : CallPlan) (c : Call α) (t : CallTurn α) :
    Option (CallMark α) → Breakers → Call α → Prop
  /-- The event does not concern the call where it stands. -/
  | idle (h : c.takes t.event = false) : Acted plan c t none t.breakers c
  | late (hs : c.stage = .ready) (he : t.event = .attempt) (hd : c.deadline ≤ t.now) :
      Acted plan c t none t.breakers
        (c.finish (.error (.deadlineExceeded plan.backend c.attempts)))
  | refused (hs : c.stage = .ready) (he : t.event = .attempt) (hd : t.now < c.deadline)
      (hb : (t.breakers.acquire plan.backend t.now).2 = none) :
      Acted plan c t (some .refused) (t.breakers.acquire plan.backend t.now).1
        (c.finish (.error (.circuitOpen plan.backend)))
  | started {a : RunningAttempt} (hs : c.stage = .ready) (he : t.event = .attempt)
      (hd : t.now < c.deadline) (hb : (t.breakers.acquire plan.backend t.now).2 = some a.permit)
      (hsince : a.since = t.now) (fits : a.Fits plan c.deadline) :
      Acted plan c t (some .started) (t.breakers.acquire plan.backend t.now).1
        { c with attempts := c.attempts + 1, stage := .running a }
  | produced {a : RunningAttempt} {value : α} (hs : c.stage = .running a)
      (he : t.event = .complete (.ok value)) :
      Acted plan c t (some (.ended (.produced value))) (t.breakers.settle a.permit true t.now)
        (c.finish (.ok value))
  | failed {a : RunningAttempt} {f : Failure} {c' : Call α} (hs : c.stage = .running a)
      (he : t.event = .complete (.error f)) (next : c.Sequel plan t.now f c') :
      Acted plan c t (some (.ended (.failed f))) (settleFailure t.now t.breakers a.permit f) c'
  | timedOut {a : RunningAttempt} {c' : Call α} (hs : c.stage = .running a)
      (he : t.event = .expire) (hlong : plan.timeout.nanos ≤ c.deadline - a.since)
      (next : c.Sequel plan t.now (Call.timedOut plan.timeout) c') :
      Acted plan c t (some (.ended .timedOut))
        (settleFailure t.now t.breakers a.permit (Call.timedOut plan.timeout)) c'
  | cutShort {a : RunningAttempt} (hs : c.stage = .running a) (he : t.event = .expire)
      (hshort : c.deadline - a.since < plan.timeout.nanos) :
      Acted plan c t (some (.ended .cutShort)) (t.breakers.release a.permit)
        (c.finish (.error (.deadlineExceeded plan.backend c.attempts)))
  | woken {w : Nat} (hs : c.stage = .waiting w) (he : t.event = .wake) :
      Acted plan c t none t.breakers { c with stage := .ready }
  | abandoned {a : RunningAttempt} (hs : c.stage = .running a) (he : t.event = .cancel) :
      Acted plan c t (some (.ended .abandoned)) (t.breakers.release a.permit)
        { c with stage := .cancelled }
  /-- The call is abandoned while no attempt runs. -/
  | left (hs : c.stage = .ready ∨ ∃ w, c.stage = .waiting w) (he : t.event = .cancel) :
      Acted plan c t none t.breakers { c with stage := .cancelled }

/-- An event that does not concern a call changes nothing and leaves no mark. -/
theorem act_of_not_takes (h : c.takes t.event = false) :
    c.mark? plan t = none ∧ c.act plan t = (t.breakers, c) := by
  obtain ⟨now, b, event⟩ := t
  rcases hs : c.stage with - | a | w | result | - | fault
  all_goals
    cases event <;> simp_all [takes, mark?, act, complete, expire, wake, cancel]

theorem acted_attempt (hs : c.stage = .ready) (he : t.event = .attempt) :
    Acted plan c t (c.mark? plan t) (c.act plan t).1 (c.act plan t).2 := by
  have hact : c.act plan t = c.attempt plan t.now t.breakers := by
    unfold act
    rw [he, hs]
  have hmark : c.mark? plan t = if c.deadline ≤ t.now then none
      else if (t.breakers.acquire plan.backend t.now).2.isSome then some .started
      else some .refused := by
    unfold mark?
    rw [he, hs]
  have hzero : (Duration.saturating (c.deadline - t.now)).isZero = true ↔ c.deadline ≤ t.now := by
    rw [Duration.isZero, decide_eq_true_iff, Duration.nanos_saturating]
    have hpos : 0 < UInt64.size * 1000000000 - 1 := by decide
    omega
  rw [hact, hmark]
  unfold attempt
  dsimp only
  by_cases hd : c.deadline ≤ t.now
  · rw [if_pos hd, if_pos (hzero.mpr hd)]
    exact .late hs he hd
  · rw [if_neg hd, if_neg (mt hzero.mp hd)]
    have hlt : t.now < c.deadline := Nat.lt_of_not_le hd
    rcases hb : t.breakers.acquire plan.backend t.now with ⟨b, - | permit⟩
    · have hacted : Acted plan c t (some .refused) (t.breakers.acquire plan.backend t.now).1
          (c.finish (.error (.circuitOpen plan.backend))) := .refused hs he hlt (by rw [hb])
      rw [hb] at hacted
      exact hacted
    · let a : RunningAttempt := {
        permit
        since := t.now
        limit := min plan.timeout (Duration.saturating (c.deadline - t.now))
        clamped := Duration.saturating (c.deadline - t.now) < plan.timeout }
      have hacted : Acted plan c t (some .started) (t.breakers.acquire plan.backend t.now).1
          { c with attempts := c.attempts + 1, stage := .running a } :=
        .started hs he hlt (by rw [hb]) rfl ⟨hlt, rfl, rfl⟩
      rw [hb] at hacted
      exact hacted

theorem acted_ready (hs : c.stage = .ready) (h : c.takes t.event = true) :
    Acted plan c t (c.mark? plan t) (c.act plan t).1 (c.act plan t).2 := by
  cases he : t.event with
  | attempt => exact acted_attempt hs he
  | cancel =>
    simp only [mark?, act, cancel, hs, he]
    exact .left (.inl hs) he
  | complete | expire | wake => simp [takes, hs, he] at h

theorem acted_running (hc : c.Coherent plan) {a : RunningAttempt} (hs : c.stage = .running a)
    (h : c.takes t.event = true) :
    Acted plan c t (c.mark? plan t) (c.act plan t).1 (c.act plan t).2 := by
  cases he : t.event with
  | complete outcome =>
    cases outcome with
    | ok value =>
      simp only [mark?, act, complete, hs, he]
      exact .produced hs he
    | error f =>
      simp only [mark?, act, complete, hs, he]
      exact .failed hs he (sequel c f)
  | expire =>
    have hclamped : a.clamped = true ↔ c.deadline - a.since < plan.timeout.nanos :=
      (hc.fits hs).clamped_iff (hc.bounded (by simp [isOver, hs]))
    simp only [mark?, act, expire, hs, he]
    by_cases hshort : c.deadline - a.since < plan.timeout.nanos
    · rw [if_pos hshort, if_pos (hclamped.mpr hshort)]
      exact .cutShort hs he hshort
    · have hfree : a.clamped = false := Bool.eq_false_iff.mpr (mt hclamped.mp hshort)
      rw [if_neg hshort, if_neg (by simp [hfree]), (hc.fits hs).limit_of_not_clamped hfree]
      exact .timedOut hs he (Nat.le_of_not_lt hshort) (sequel c _)
  | cancel =>
    simp only [mark?, act, cancel, hs, he]
    exact .abandoned hs he
  | attempt | wake => simp [takes, hs, he] at h

theorem acted_waiting {w : Nat} (hs : c.stage = .waiting w) (h : c.takes t.event = true) :
    Acted plan c t (c.mark? plan t) (c.act plan t).1 (c.act plan t).2 := by
  cases he : t.event with
  | wake =>
    simp only [mark?, act, wake, hs, he]
    exact .woken hs he
  | cancel =>
    simp only [mark?, act, cancel, hs, he]
    exact .left (.inr ⟨w, hs⟩) he
  | attempt | complete | expire => simp [takes, hs, he] at h

/-- **The list of what a turn can do is complete.** -/
theorem acted (hc : c.Coherent plan) (t : CallTurn α) :
    Acted plan c t (c.mark? plan t) (c.act plan t).1 (c.act plan t).2 := by
  cases h : c.takes t.event with
  | false =>
    have hidle : c.mark? plan t = none ∧ c.act plan t = (t.breakers, c) := act_of_not_takes h
    rw [hidle.1, hidle.2]
    exact .idle h
  | true =>
    rcases hs : c.stage with - | a | w | result | - | fault
    · exact acted_ready hs h
    · exact acted_running hc hs h
    · exact acted_waiting hs h
    · simp [takes, hs] at h
    · simp [takes, hs] at h
    · simp [takes, hs] at h

/-- A call that ends with an error at a turn names its own backend.  The plan may be another one
at every turn. -/
theorem backend?_of_act {e : CallError} (hgoes : ∀ result, c.stage ≠ .finished result)
    (h : (c.act plan t).2.stage = .finished (.error e)) : e.backend? = some plan.backend := by
  have stays (h : c.stage = .finished (.error e)) : e.backend? = some plan.backend :=
    absurd h (hgoes _)
  obtain ⟨now, b, event⟩ := t
  cases event with
  | attempt =>
    unfold act attempt at h
    dsimp only at h
    split at h
    · split at h
      · cases h; rfl
      · split at h
        · cases h; rfl
        · cases h
    · exact stays h
  | complete outcome =>
    unfold act complete at h
    dsimp only at h
    split at h
    · cases h
    · exact (sequel c _).backend?_eq h
    · exact stays h
  | expire =>
    unfold act expire at h
    dsimp only at h
    split at h
    · split at h
      · cases h; rfl
      · exact (sequel c _).backend?_eq h
    · exact stays h
  | wake =>
    unfold act wake at h
    dsimp only at h
    split at h
    · cases h
    · exact stays h
  | cancel =>
    unfold act cancel at h
    dsimp only at h
    split at h
    · cases h
    · cases h
    · cases h
    all_goals exact stays h

/-! ### What every turn keeps -/

/-- A call that is over takes no event. -/
theorem not_takes_of_over (h : c.isOver = true) (e : CallEvent α) : c.takes e = false := by
  unfold isOver at h
  split at h
  · cases h
  · cases h
  · cases h
  all_goals
    next hs => simp [takes, hs]

theorem step_of_over (h : c.isOver = true) (t : CallTurn α) : c.step plan t = c := by
  have hidle : c.mark? plan t = none ∧ c.act plan t = (t.breakers, c) :=
    act_of_not_takes (not_takes_of_over h _)
  rw [step, hidle.2]

theorem run_of_over (h : c.isOver = true) (turns : List (CallTurn α)) :
    c.run plan turns = c := by
  induction turns with
  | nil => rfl
  | cons t turns ih => rw [run_cons, step_of_over h, ih]

@[simp] theorem finish_isOver (c : Call α) (r : Except CallError α) :
    (c.finish r).isOver = true := rfl

/-- What follows a failed attempt is an end or a delay, under the same deadline and with the same
number of attempts. -/
theorem Sequel.kept {now : Nat} {f : Failure} {c' : Call α} (h : c.Sequel plan now f c') :
    c'.deadline = c.deadline ∧ c'.attempts = c.attempts ∧
      (c'.isOver = true ∨ ∃ w, c'.stage = .waiting w) := by
  cases h with
  | final hf => exact ⟨rfl, rfl, .inl rfl⟩
  | exhausted hf hmax => exact ⟨rfl, rfl, .inl rfl⟩
  | lost hf hmore hw => exact ⟨rfl, rfl, .inl rfl⟩
  | late hf hmore hw hd => exact ⟨rfl, rfl, .inl rfl⟩
  | waits hf hmore hw hd => exact ⟨rfl, rfl, .inr ⟨_, rfl⟩⟩

theorem Sequel.not_running {now : Nat} {f : Failure} {c' : Call α} (h : c.Sequel plan now f c')
    (a : RunningAttempt) : c'.stage ≠ .running a := by
  intro ha
  rcases h.kept.2.2 with hover | ⟨w, hw⟩
  · simp [isOver, ha] at hover
  · cases ha.symm.trans hw

variable {mark : Option (CallMark α)} {b : Breakers} {c' : Call α}

theorem Acted.deadline_eq (h : Acted plan c t mark b c') : c'.deadline = c.deadline := by
  cases h with
  | failed hs he next => exact next.kept.1
  | timedOut hs he hlong next => exact next.kept.1
  | idle | late | refused | started | produced | cutShort | woken | abandoned | left => rfl

/-- What runs after a turn ran before it, or has just been let through. -/
theorem Acted.running (h : Acted plan c t mark b c') {a : RunningAttempt}
    (ha : c'.stage = .running a) : c.stage = .running a ∨
      a.Fits plan c.deadline ∧ a.since = t.now ∧
        (t.breakers.acquire plan.backend t.now).2 = some a.permit := by
  cases h with
  | idle => exact .inl ha
  | started hs he hd hb hsince fits =>
    cases ha
    exact .inr ⟨fits, hsince, hb⟩
  | failed hs he next => exact absurd ha (next.not_running a)
  | timedOut hs he hlong next => exact absurd ha (next.not_running a)
  | late | refused | produced | cutShort | woken | abandoned | left => cases ha

/-- A delay ends on the grid, and before rounding to the grid it ends before the deadline. -/
theorem Acted.waiting (h : Acted plan c t mark b c') {w : Nat} (hw : c'.stage = .waiting w) :
    c.stage = .waiting w ∨ ∃ v < c.deadline, w = Clock.onGrid v := by
  have hsequel : ∀ {f}, c.Sequel plan t.now f c' → ∃ v < c.deadline, w = Clock.onGrid v := by
    intro f next
    cases next with
    | waits hf hmore hv hd =>
      cases hw
      exact ⟨_, hd, rfl⟩
    | final | exhausted | lost | late => cases hw
  cases h with
  | idle => exact .inl hw
  | failed hs he next => exact .inr (hsequel next)
  | timedOut hs he hlong next => exact .inr (hsequel next)
  | late | refused | started | produced | cutShort | woken | abandoned | left => cases hw

theorem Coherent.step (h : c.Coherent plan) (t : CallTurn α) : (c.step plan t).Coherent plan := by
  have hacted := acted h t
  have hdeadline : (c.step plan t).deadline = c.deadline := hacted.deadline_eq
  refine ⟨fun hopen => ?_, fun {a} ha => ?_⟩
  · rw [hdeadline]
    refine h.bounded (Bool.eq_false_iff.mpr fun hover => ?_)
    rw [step_of_over hover] at hopen
    exact absurd hover (by simp [hopen])
  · rw [hdeadline]
    rcases hacted.running ha with hran | ⟨hfits, -⟩
    · exact h.fits hran
    · exact hfits

theorem Coherent.run (h : c.Coherent plan) (turns : List (CallTurn α)) :
    (c.run plan turns).Coherent plan := by
  induction turns generalizing c with
  | nil => exact h
  | cons t turns ih => exact ih (h.step t)

theorem deadline_step (h : c.Coherent plan) (t : CallTurn α) :
    (c.step plan t).deadline = c.deadline := (acted h t).deadline_eq

theorem deadline_run (h : c.Coherent plan) (turns : List (CallTurn α)) :
    (c.run plan turns).deadline = c.deadline := by
  induction turns generalizing c with
  | nil => rfl
  | cons t turns ih => exact (ih (h.step t)).trans (deadline_step h t)

/-- An attempt is started before the deadline. -/
theorem lt_of_running (h : c.Coherent plan) {a : RunningAttempt}
    (ha : (c.step plan t).stage = .running a) (hnew : c.stage ≠ .running a) :
    t.now < c.deadline := by
  obtain ⟨hfits, hsince, -⟩ := ((acted h t).running ha).resolve_left hnew
  exact hsince ▸ hfits.inTime

/-! ### A new call -/

/-- A call begins ready for an attempt, unless its deadline cannot be computed. -/
theorem start_cases (plan : CallPlan) (now : Nat) :
    (∃ delays, Clock.after? now plan.retry.deadline = some (now + plan.retry.deadline.nanos) ∧
        (start plan now : Call α)
          = { deadline := now + plan.retry.deadline.nanos, delays, stage := .ready }) ∨
      ∃ delays, Clock.after? now plan.retry.deadline = none ∧
        (start plan now : Call α) = { deadline := now, delays, stage := .crashed .deadline } := by
  unfold start Clock.after?
  by_cases hlt : now + plan.retry.deadline.nanos < Clock.bound
  · exact .inl ⟨_, if_pos hlt, by rw [if_pos hlt]⟩
  · exact .inr ⟨_, if_neg hlt, by rw [if_neg hlt]⟩

theorem attempts_start (plan : CallPlan) (now : Nat) :
    (start plan now : Call α).attempts = 0 := by
  rcases start_cases (α := α) plan now with ⟨delays, -, hstart⟩ | ⟨delays, -, hstart⟩
  · rw [hstart]
  · rw [hstart]

theorem stage_start (plan : CallPlan) (now : Nat) :
    (start plan now : Call α).stage = .ready ∨
      (start plan now : Call α).stage = .crashed .deadline := by
  rcases start_cases (α := α) plan now with ⟨delays, -, hstart⟩ | ⟨delays, -, hstart⟩
  · exact .inl (by rw [hstart])
  · exact .inr (by rw [hstart])

theorem coherent_start (plan : CallPlan) (now : Nat) : (start plan now : Call α).Coherent plan := by
  rcases start_cases (α := α) plan now with ⟨delays, hafter, hstart⟩ | ⟨delays, -, hstart⟩
  · rw [hstart]
    refine ⟨fun _ => ?_, fun ha => by cases ha⟩
    unfold Clock.after? at hafter
    split at hafter
    · assumption
    · cases hafter
  · rw [hstart]
    refine ⟨fun hopen => ?_, fun ha => ?_⟩
    · cases hopen
    · cases ha

/-! ### Times that cannot be represented -/

/-- The time that could not be represented, if a call has crashed. -/
def fault? (c : Call α) : Option TimeFault :=
  match c.stage with
  | .crashed fault => some fault
  | .ready | .running _ | .waiting _ | .finished _ | .cancelled => none

theorem fault?_eq_some {fault : TimeFault} : c.fault? = some fault ↔ c.stage = .crashed fault := by
  unfold fault?
  split
  · next hs => simp [hs]
  all_goals
    next hs => simp [hs]

/-- A turn after which the next delay is due, and the end of that delay cannot be represented. -/
def Strands (plan : CallPlan) (c : Call α) (t : CallTurn α) : Prop :=
  (∃ e, c.mark? plan t = some (.ended e) ∧ e.Passing plan) ∧
    c.attempts < plan.retry.maxAttempts ∧ ∃ fault, c.wakeUp plan t.now = .error fault

/-- Some turn of a run is such a turn. -/
def Stranded (plan : CallPlan) (c : Call α) : List (CallTurn α) → Prop
  | [] => False
  | t :: turns => Strands plan c t ∨ Stranded plan (c.step plan t) turns

theorem Sequel.crashed_iff {now : Nat} {f : Failure} (h : c.Sequel plan now f c') :
    (∃ fault, c'.stage = .crashed fault) ↔
      f.category = .transient ∧ c.attempts < plan.retry.maxAttempts ∧
        ∃ fault, c.wakeUp plan now = .error fault := by
  cases h with
  | final hf => exact iff_of_false (fun ⟨_, h⟩ => nomatch h) fun h => hf h.1
  | exhausted hf hmax =>
    exact iff_of_false (fun ⟨_, h⟩ => nomatch h) fun h => Nat.not_lt.mpr hmax h.2.1
  | lost hf hmore hw => exact iff_of_true ⟨_, rfl⟩ ⟨hf, hmore, _, hw⟩
  | late hf hmore hw hd =>
    exact iff_of_false (fun ⟨_, h⟩ => nomatch h) fun ⟨_, _, _, h⟩ => nomatch hw.symm.trans h
  | waits hf hmore hw hd =>
    exact iff_of_false (fun ⟨_, h⟩ => nomatch h) fun ⟨_, _, _, h⟩ => nomatch hw.symm.trans h

/-- A turn crashes a call exactly if it strands it. -/
theorem crashed_step (hc : c.Coherent plan) (t : CallTurn α) :
    (∃ fault, (c.step plan t).stage = .crashed fault) ↔
      (∃ fault, c.stage = .crashed fault) ∨ Strands plan c t := by
  have hacted : Acted plan c t (c.mark? plan t) (c.act plan t).1 (c.step plan t) := acted hc t
  unfold Strands
  generalize c.mark? plan t = mark, (c.act plan t).1 = b, c.step plan t = c' at hacted ⊢
  -- an attempt that failed: what follows says whether a delay was due
  have hfailed : ∀ {a : RunningAttempt} {e : AttemptEnd α} {f : Failure},
      c.stage = .running a → e.failure? plan = some f → c.Sequel plan t.now f c' →
      ((∃ fault, c'.stage = .crashed fault) ↔ (∃ fault, c.stage = .crashed fault) ∨
        (∃ e', some (CallMark.ended e) = some (.ended e') ∧ e'.Passing plan) ∧
          c.attempts < plan.retry.maxAttempts ∧ ∃ fault, c.wakeUp plan t.now = .error fault) := by
    intro a e f hs he next
    rw [next.crashed_iff]
    simp [hs, AttemptEnd.passing_iff he]
  cases hacted with
  | failed hs he next => exact hfailed hs rfl next
  | timedOut hs he hlong next => exact hfailed hs rfl next
  | idle h => simp
  | late hs he hd => simp [hs, finish]
  | refused hs he hd hb => simp [hs, finish]
  | started hs he hd hb hsince fits => simp [hs]
  | @produced a v hs he =>
    have hno : ¬ (AttemptEnd.produced v).Passing plan := AttemptEnd.not_passing rfl
    simp [hs, finish, hno]
  | cutShort hs he hshort =>
    have hno : ¬ (AttemptEnd.cutShort : AttemptEnd α).Passing plan := AttemptEnd.not_passing rfl
    simp [hs, finish, hno]
  | woken hs he => simp [hs]
  | abandoned hs he =>
    have hno : ¬ (AttemptEnd.abandoned : AttemptEnd α).Passing plan := AttemptEnd.not_passing rfl
    simp [hs, hno]
  | left hs he => rcases hs with hs | ⟨w, hs⟩ <;> simp [hs]

/-- A run crashes a call exactly if some turn strands it. -/
theorem crashed_run (hc : c.Coherent plan) (turns : List (CallTurn α)) :
    (∃ fault, (c.run plan turns).stage = .crashed fault) ↔
      (∃ fault, c.stage = .crashed fault) ∨ Stranded plan c turns := by
  induction turns generalizing c with
  | nil => simp [Stranded]
  | cons t turns ih => rw [run_cons, ih (hc.step t), crashed_step hc t, Stranded, or_assoc]

/-- A call crashes exactly if its deadline cannot be represented, or some turn strands it. -/
theorem crashed_iff (plan : CallPlan) (now : Nat) (turns : List (CallTurn α)) :
    (∃ fault, ((start plan now).run plan turns).stage = .crashed fault) ↔
      Clock.after? now plan.retry.deadline = none ∨ Stranded plan (start plan now) turns := by
  rw [crashed_run (coherent_start plan now)]
  refine or_congr_left ?_
  rcases start_cases (α := α) plan now with ⟨delays, hafter, hstart⟩ | ⟨delays, hafter, hstart⟩
  · rw [hstart, hafter]
    simp
  · rw [hstart, hafter]
    simp

end Call

end Dispatch
